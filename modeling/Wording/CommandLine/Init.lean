import Wording.CommandLine.Options
import Wording.CommandLine.Outcome

/-!
# The command that makes a rules file

Writes the built-in rules to a file, as a table to start from, and makes the directories on the
way to it.  What exists already is kept unless it may be overwritten.
-/

namespace Wording

namespace InitOptions

/-- The directory to make before the file is written, if there is one. -/
def directory? (o : InitOptions) : Option String :=
  match Path.parent? o.output with
  | some parent => if parent.isEmpty || Path.same parent "." then none else some parent
  | none => none

/-- What the user is told after the file is written. -/
def advice (o : InitOptions) : String :=
  s!"Created {o.output} from the built-in rules\n" ++
    "\n" ++
    "Next steps:\n" ++
    s!"  1. Edit {o.output} to fit your copy guidelines\n" ++
    s!"  2. Run: {programName} scan src --rules {o.output}\n"

/-- Writes the rules file. -/
def write (o : InitOptions) (t : FileTree) (cwd : Place) : Outcome × FileTree :=
  match t.writeFile cwd o.output builtinText.toUTF8 with
  | .error fault => (.failed [] (.fileNotWritten fault), t)
  | .ok t => ({ status := .success, output := o.advice }, t)

/-- Runs the command.  The directories stay even if the file cannot be written. -/
def run (o : InitOptions) (t : FileTree) (cwd : Place) : Outcome × FileTree :=
  if t.pathExists cwd o.output && !o.force then (.failed [] (.fileExists o.output), t)
  else
    match o.directory? with
    | none => o.write t cwd
    | some directory =>
      match t.makeDirectories cwd directory with
      | (t, some fault) => (.failed [] (.directoryNotMade fault), t)
      | (t, none) => o.write t cwd

end InitOptions

end Wording
