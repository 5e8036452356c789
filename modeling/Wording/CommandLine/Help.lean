import Wording.CommandLine.Options
import Wording.Program

/-!
# What the user is told about the command line
-/

namespace Wording

/-- The commands and their options. -/
def helpText : String :=
  s!"Usage: {programName} [-v] COMMAND [OPTIONS]\n" ++
    "\n" ++
    "Commands:\n" ++
    "  scan (check) [PATH]  Scan a directory tree for blocked phrases and caution words\n" ++
    "  init                 Write the built-in rule table to a file for editing\n" ++
    "  help [COMMAND]       Print this message\n" ++
    "\n" ++
    "Options of scan:\n" ++
    "  -r, --rules PATH         Rules file\n" ++
    "  -e, --ext SUFFIX         File name suffix to scan; repeatable\n" ++
    "  -x, --exclude GLOB       Glob of paths to skip; repeatable\n" ++
    "  -f, --format FORMAT      Output format: text, json or sarif\n" ++
    "      --no-color           Disable colored output\n" ++
    "      --fail-on-findings   Exit with status 1 when any finding is reported\n" ++
    "\n" ++
    "Options of init:\n" ++
    "  -o, --output PATH   Output file path\n" ++
    "      --force         Overwrite an existing file\n" ++
    "\n" ++
    "Options everywhere:\n" ++
    "  -v, --verbose   Log debug diagnostics to stderr\n" ++
    "  -h, --help      Print this message\n" ++
    "  -V, --version   Print the version (before the command)\n"

/-- What is said when a command line does not lead to a command. -/
def Usage.message : Usage → String
  | .help => helpText
  | .version => s!"{programName} {programVersion}\n"
  | .nothing => helpText
  | .missingCommand => "error: a command is required\n\n" ++ helpText
  | .unknownCommand => "error: unrecognized command\n\n" ++ helpText
  | .unknownArgument => "error: unexpected argument\n\n" ++ helpText
  | .invalidValue => "error: a value is missing or invalid\n\n" ++ helpText
  | .unexpectedValue => "error: an option takes no value\n\n" ++ helpText
  | .repeatedArgument => "error: an option is given twice\n\n" ++ helpText

end Wording
