import Wording.Report.Json
import Wording.Report.Message
import Wording.SystemPath

/-!
# The SARIF report

The findings of a scan in the interchange format of analysis tools.  Each kind of rule that has a
finding is declared as a rule of the tool, and every finding refers to its kind's rule and to its
file's path below the root of the scan.
-/

namespace Wording.Sarif

/-- A rule of the tool. -/
structure RuleInfo where
  id : String
  name : String
  description : String
  level : String
deriving DecidableEq

/-- The place of a result. -/
structure Location where
  uri : String
  startLine : Nat
deriving DecidableEq

/-- One result of the tool. -/
structure Result where
  ruleId : String
  level : String
  message : String
  locations : List Location
deriving DecidableEq

/-- What the tool is and which rules it has. -/
structure Driver where
  name : String
  version : String
  rules : List RuleInfo
deriving DecidableEq

/-- One run of the tool. -/
structure RunInfo where
  driver : Driver
  results : List Result
deriving DecidableEq

/-- A report. -/
structure Report where
  version : String
  schema : String
  runs : List RunInfo
deriving DecidableEq

/-! ## From findings to a report -/

/-- The version of the format. -/
def formatVersion : String := "2.1.0"

/-- The address of the format's schema. -/
def formatSchema : String :=
  "https://raw.githubusercontent.com/oasis-tcs/sarif-spec/master/Schemata/sarif-schema-2.1.0.json"

/-- How grave a finding of the kind is. -/
def level : RuleKind → String
  | .phrase => "warning"
  | .caution => "note"

/-- The rule that stands for the kind. -/
def ruleInfo (kind : RuleKind) : RuleInfo where
  id := kind.id
  name := match kind with
    | .phrase => "BlockedPhrase"
    | .caution => "CautionWord"
  description := match kind with
    | .phrase => "Blocked phrase found; a gentler rewrite is suggested"
    | .caution => "Caution word found; review the wording in context"
  level := level kind

/-- The path of a file below the root, with slashes for backslashes.  When the file is the root
itself it is the file's name.  The file keeps its path if the root is empty, or if it is not below
the root. -/
def uriBelow (root : SystemPath) (file : String) : String :=
  if root.letters.isEmpty then file
  else if Path.components file = root.components then Path.fileName file
  else
    match Path.belowOf? root.components file with
    | some path => path.map fun c => if c = '\\' then '/' else c
    | none => file

/-- The path of a file below the root of the scan. -/
def uri (root file : String) : String :=
  uriBelow (.ofText root) file

/-- The result for a finding. -/
def result (root : String) (f : Finding) : Result where
  ruleId := f.kind.id
  level := level f.kind
  message := f.message
  locations := [⟨uri root f.file, f.line⟩]

/-- The report on the findings of a scan of the root. -/
def Report.ofFindings (root : String) (findings : List Finding) : Report where
  version := formatVersion
  schema := formatSchema
  runs := [{
    driver := {
      name := programName, version := programVersion
      rules := ([.phrase, .caution].filter fun kind => findings.any (·.kind = kind)).map ruleInfo }
    results := findings.map (result root) }]

/-! ## Writing -/

/-- A record with one field. -/
def wrap (name : String) (value : Json) : Json :=
  .object [(name, value)]

/-- A rule as a record. -/
def RuleInfo.toJson (r : RuleInfo) : Json :=
  .object [("id", .string r.id), ("name", .string r.name),
    ("shortDescription", wrap "text" (.string r.description)),
    ("defaultConfiguration", wrap "level" (.string r.level))]

/-- A place as a record. -/
def Location.toJson (l : Location) : Json :=
  wrap "physicalLocation" (.object [("artifactLocation", wrap "uri" (.string l.uri)),
    ("region", wrap "startLine" (.number l.startLine))])

/-- A result as a record. -/
def Result.toJson (r : Result) : Json :=
  .object [("ruleId", .string r.ruleId), ("level", .string r.level),
    ("message", wrap "text" (.string r.message)),
    ("locations", .array (r.locations.map (·.toJson)))]

/-- A run as a record. -/
def RunInfo.toJson (r : RunInfo) : Json :=
  .object [
    ("tool", wrap "driver" (.object [("name", .string r.driver.name),
      ("version", .string r.driver.version), ("rules", .array (r.driver.rules.map (·.toJson)))])),
    ("results", .array (r.results.map (·.toJson)))]

/-- A report as a record. -/
def Report.toJson (r : Report) : Json :=
  .object [("version", .string r.version), ("$schema", .string r.schema),
    ("runs", .array (r.runs.map (·.toJson)))]

/-- A report as it is written. -/
def Report.render (r : Report) : String :=
  Json.pretty r.toJson

/-! ## Reading -/

/-- The value of a record with one field. -/
def unwrap? (name : String) (j : Json) : Option Json := do
  match ← j.record? [name] with
  | [value] => value
  | _ => none

/-- The rule that a record holds. -/
def RuleInfo.ofJson? (j : Json) : Option RuleInfo := do
  match ← j.record? ["id", "name", "shortDescription", "defaultConfiguration"] with
  | [some id, some name, some description, some configuration] =>
    return ⟨← id.text?, ← name.text?, ← (← unwrap? "text" description).text?,
      ← (← unwrap? "level" configuration).text?⟩
  | _ => none

/-- The place that a record holds. -/
def Location.ofJson? (j : Json) : Option Location := do
  match ← (← unwrap? "physicalLocation" j).record? ["artifactLocation", "region"] with
  | [some artifact, some region] =>
    return ⟨← (← unwrap? "uri" artifact).text?, ← (← unwrap? "startLine" region).count?⟩
  | _ => none

/-- The result that a record holds. -/
def Result.ofJson? (j : Json) : Option Result := do
  match ← j.record? ["ruleId", "level", "message", "locations"] with
  | [some ruleId, some level, some message, some locations] =>
    return ⟨← ruleId.text?, ← level.text?, ← (← unwrap? "text" message).text?,
      ← locations.list? Location.ofJson?⟩
  | _ => none

/-- The tool that a record holds. -/
def Driver.ofJson? (j : Json) : Option Driver := do
  match ← (← unwrap? "driver" j).record? ["name", "version", "rules"] with
  | [some name, some version, some rules] =>
    return ⟨← name.text?, ← version.text?, ← rules.list? RuleInfo.ofJson?⟩
  | _ => none

/-- The run that a record holds. -/
def RunInfo.ofJson? (j : Json) : Option RunInfo := do
  match ← j.record? ["tool", "results"] with
  | [some tool, some results] =>
    return ⟨← Driver.ofJson? tool, ← results.list? Result.ofJson?⟩
  | _ => none

/-- The report that a record holds. -/
def Report.ofJson? (j : Json) : Option Report := do
  match ← j.record? ["version", "$schema", "runs"] with
  | [some version, some schema, some runs] =>
    return ⟨← version.text?, ← schema.text?, ← runs.list? RunInfo.ofJson?⟩
  | _ => none

end Wording.Sarif
