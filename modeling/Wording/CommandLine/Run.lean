import Wording.CommandLine.Arguments
import Wording.CommandLine.Init
import Wording.CommandLine.Scan

/-!
# Running a command line

A command line either asks for a command, which is run on the file tree, or does not lead to one.
-/

namespace Wording

/-- Runs a command.  The tree is the one after it. -/
def Command.run (c : Command) (terminal : Bool) (t : FileTree) (cwd : Place) :
    Outcome × FileTree :=
  match c with
  | .scan options => (options.run terminal t cwd, t)
  | .init options => options.run t cwd

/-- What is written beside the output of a command.  The log setting of the environment, if there
is one, decides which records are shown. -/
def Invocation.diagnostics (i : Invocation) (setting : Option String) (o : Outcome) : String :=
  o.diagnostics (LogFilter.ofSetting setting i.verbose)

end Wording
