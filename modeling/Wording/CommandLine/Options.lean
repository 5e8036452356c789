/-!
# What a command line asks for

The commands with their options, and the ways in which a command line can fail to ask for one.
-/

namespace Wording

/-- The form of a scan's report. -/
inductive ReportFormat where
  | text
  | json
  | sarif
deriving DecidableEq

/-- The forms of a report and the words for them. -/
def ReportFormat.words : List (String × ReportFormat) :=
  [("text", .text), ("json", .json), ("sarif", .sarif)]

/-- What a scan is asked to do. -/
structure ScanOptions where
  /-- The directory, or the single file, to scan. -/
  root : String := "."
  /-- The rules file. -/
  rules : Option String := none
  /-- The suffixes of the names of files to scan; if there are none, the usual ones. -/
  suffixes : List String := []
  /-- The patterns of paths to leave out. -/
  exclude : List String := []
  format : ReportFormat := .text
  /-- Colours are not wanted, not even on a terminal. -/
  plain : Bool := false
  /-- Findings are to be told by the exit code. -/
  failOnFindings : Bool := false
deriving DecidableEq

/-- What the making of a rules file is asked to do. -/
structure InitOptions where
  /-- The file to write. -/
  output : String := "tonecheck.yaml"
  /-- An existing file may be overwritten. -/
  force : Bool := false
deriving DecidableEq

/-- One of the commands, with its options. -/
inductive Command where
  | scan (options : ScanOptions)
  | init (options : InitOptions)
deriving DecidableEq

/-- A command line that asks for a command. -/
structure Invocation where
  verbose : Bool := false
  command : Command
deriving DecidableEq

/-- Why a command line does not lead to a command. -/
inductive Usage where
  /-- It asks for help. -/
  | help
  /-- It asks for the version. -/
  | version
  /-- It says nothing at all. -/
  | nothing
  /-- It has options but no command. -/
  | missingCommand
  | unknownCommand
  | unknownArgument
  /-- A value is missing or cannot be taken. -/
  | invalidValue
  /-- A flag comes with a value. -/
  | unexpectedValue
  /-- An option that is taken once only is given again. -/
  | repeatedArgument
deriving DecidableEq

/-- The exit code of the program after such a command line. -/
def Usage.exitCode : Usage → Nat
  | .help => 0
  | .version => 0
  | _ => 2

end Wording
