import Wording.FileFilter
import Wording.LoadedRules
import Wording.Log.Filter
import Wording.Scan.Walk

/-!
# What a command comes to

A command writes its output, tells of its work in diagnostics, and ends with an exit code.  The
diagnostics are log records, of which only those that the log filter shows are written, and the
fault that has ended the command, if one has.
-/

namespace Wording

/-- Why a command fails. -/
inductive CommandFault where
  | rules (fault : LoadFault)
  | filter (fault : FilterFault)
  | root (fault : RootFault)
  | fileExists (path : String)
  | directoryNotMade (fault : IoFault)
  | fileNotWritten (fault : IoFault)
deriving DecidableEq

/-- What is said about the failure. -/
def CommandFault.message : CommandFault → String
  | .rules fault => fault.report
  | .filter fault => fault.message
  | .root fault => fault.message
  | .fileExists path =>
    s!"file already exists: {path}\nRemove it or pass --force to overwrite"
  | .directoryNotMade fault => s!"failed to create directory: {fault.message}"
  | .fileNotWritten fault => s!"failed to write rules: {fault.message}"

/-- How a command ends. -/
inductive ExitStatus where
  | success
  /-- There are findings, and they are to be told by the exit code. -/
  | findings
  | failure
deriving DecidableEq

/-- The exit code of the program. -/
def ExitStatus.code : ExitStatus → Nat
  | .success => 0
  | .findings => 1
  | .failure => 2

/-- What a command comes to. -/
structure Outcome where
  status : ExitStatus
  /-- What is written to the standard output. -/
  output : String := ""
  records : List LogRecord := []
  fault : Option CommandFault := none

namespace Outcome

/-- A command that fails after the records, without any output. -/
def failed (records : List LogRecord) (fault : CommandFault) : Outcome where
  status := .failure
  records := records
  fault := some fault

/-- The line for a log record. -/
def recordLine (record : LogRecord) : String :=
  s!"{record.level.name} {record.message}\n"

/-- The line for a fault. -/
def faultLine (fault : CommandFault) : String :=
  s!"Error: {fault.message}\n"

/-- What is written beside the output, with the records that the filter shows. -/
def diagnostics (o : Outcome) (filter : LogFilter) : String :=
  String.join ((o.records.filter filter.shows).map recordLine) ++
    (o.fault.map faultLine).getD ""

end Outcome

end Wording
