import Wording.Json.Printer
import Wording.Json.Reader
import Wording.Program
import Wording.Scan.Scanner

/-!
# The JSON report

The findings and the failures of a scan, each in the order of the scan, for other programs to
read.  Findings and reports can be read back.
-/

namespace Wording

/-! ## Findings -/

/-- The kind as reports name it. -/
def RuleKind.ofId? (id : String) : Option RuleKind :=
  if id = RuleKind.phrase.id then some .phrase
  else if id = RuleKind.caution.id then some .caution
  else none

/-- The kind that a value names, by its text or as the one field of an object without a value. -/
def RuleKind.ofJson? : Json → Option RuleKind
  | .string id => ofId? id
  | .object [(id, .null)] => ofId? id
  | _ => none

/-- A finding as a record.  The suggestion is left out if there is none. -/
def Finding.toJson (f : Finding) : Json :=
  let suggestion := match f.suggestion with
    | some suggestion => [("suggestion", Json.string suggestion)]
    | none => []
  .object ([("file", .string f.file), ("line", .number f.line), ("kind", .string f.kind.id),
    ("pattern", .string f.pattern)] ++ suggestion ++ [("excerpt", .string f.excerpt)])

/-- The finding that a record holds.  The suggestion may be missing or null. -/
def Finding.ofJson? (j : Json) : Option Finding := do
  match ← j.record? ["file", "line", "kind", "pattern", "suggestion", "excerpt"] with
  | [some file, some line, some kind, some pattern, suggestion, some excerpt] =>
    return {
      file := ← file.text?, line := ← line.count?, kind := ← RuleKind.ofJson? kind
      pattern := ← pattern.text?
      suggestion := ← (match suggestion with
        | some value => value.optionalText?
        | none => some none)
      excerpt := ← excerpt.text? }
  | _ => none

/-! ## Reports -/

/-- A file that could not be read, and why. -/
structure ReportedFailure where
  file : String
  message : String
deriving DecidableEq

/-- The report of a whole scan. -/
structure JsonReport where
  version : String := programVersion
  root : String
  filesScanned : Nat
  findings : List Finding
  errors : List ReportedFailure
deriving DecidableEq

/-- A failure as a report tells of it. -/
def ReadFailure.reported (f : ReadFailure) : ReportedFailure :=
  ⟨f.path, f.reason.message⟩

/-- A reported failure as a record. -/
def ReportedFailure.toJson (f : ReportedFailure) : Json :=
  .object [("file", .string f.file), ("message", .string f.message)]

/-- The reported failure that a record holds. -/
def ReportedFailure.ofJson? (j : Json) : Option ReportedFailure := do
  match ← j.record? ["file", "message"] with
  | [some file, some message] => return ⟨← file.text?, ← message.text?⟩
  | _ => none

namespace JsonReport

/-- The report of a scan of the root, with its counters and all its events. -/
def ofEvents (root : String) (stats : Stats) (events : List Event) : JsonReport where
  root := root
  filesScanned := stats.filesScanned
  findings := events.filterMap Event.finding?
  errors := (events.filterMap Event.failure?).map ReadFailure.reported

/-- A report as a record. -/
def toJson (r : JsonReport) : Json :=
  .object [("version", .string r.version), ("root", .string r.root),
    ("files_scanned", .number r.filesScanned), ("findings", .array (r.findings.map (·.toJson))),
    ("errors", .array (r.errors.map (·.toJson)))]

/-- The report that a record holds. -/
def ofJson? (j : Json) : Option JsonReport := do
  match ← j.record? ["version", "root", "files_scanned", "findings", "errors"] with
  | [some version, some root, some filesScanned, some findings, some errors] =>
    return {
      version := ← version.text?, root := ← root.text?, filesScanned := ← filesScanned.count?
      findings := ← findings.list? Finding.ofJson?,
      errors := ← errors.list? ReportedFailure.ofJson? }
  | _ => none

/-- A report as it is written. -/
def render (r : JsonReport) : String :=
  Json.pretty r.toJson

end JsonReport

end Wording
