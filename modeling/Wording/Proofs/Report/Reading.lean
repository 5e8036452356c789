import Mathlib.Data.List.Nodup
import Wording.Proofs.Json.RoundTrip
import Wording.Report.Sarif

/-!
# Reports that are read back

* `Json.record?_present` — a record is read field by field, whichever of its fields are missing.
* `Finding.ofJson?_toJson`, `JsonReport.ofJson?_toJson`, `Sarif.Report.ofJson?_toJson` — each value is
  read back from its record, if its numbers are ones that a count can have.
* `Finding.fits_of_ofJson?` and its likes — of what is read, the numbers always are.
* `ReadsBack` — what writing and reading of one type owe to each other.
* **`reports_read_back`** — findings and reports are read back from their texts.

A reader accepts more texts than are ever written: unknown fields, arrays for records, null for a
missing suggestion.  That a text is written and read again as one text therefore goes by way of the
value that was read from it.
-/

namespace Wording

namespace Json

/-! ## Records -/

/-- The fields of a record that have values. -/
def present (fields : List (String × Option Json)) : List (String × Json) :=
  fields.filterMap fun f => f.2.map (f.1, ·)

/-- There is no value of a name that no field has. -/
theorem valuesOf_present_of_not_mem {fields : List (String × Option Json)} {name : String}
    (h : name ∉ fields.map (·.1)) : valuesOf (present fields) name = [] := by
  have hnone : (present fields).filter (·.1 = name) = [] := by
    refine List.filter_eq_nil_iff.mpr fun f hf heq => h ?_
    obtain ⟨g, hg, hvalue⟩ := List.mem_filterMap.mp hf
    obtain ⟨value, -, rfl⟩ := Option.map_eq_some_iff.mp hvalue
    obtain rfl : g.1 = name := by simpa using heq
    exact List.mem_map_of_mem hg
  rw [valuesOf, hnone, List.map_nil]

/-- The values of the first field's name are its own and those of the others. -/
theorem valuesOf_present_cons (field : String × Option Json)
    (fields : List (String × Option Json)) (name : String) :
    valuesOf (present (field :: fields)) name =
      (if field.1 = name then field.2.toList else []) ++ valuesOf (present fields) name := by
  obtain ⟨first, value⟩ := field
  cases value with
  | none => simp [present, valuesOf]
  | some value => by_cases h : first = name <;> simp [present, valuesOf, h]

/-- If no name stands twice, the only value of a field's name is the field's own. -/
theorem valuesOf_present {fields : List (String × Option Json)}
    (hnodup : (fields.map (·.1)).Nodup) {field : String × Option Json} (hfield : field ∈ fields) :
    valuesOf (present fields) field.1 = field.2.toList := by
  induction fields with
  | nil => cases hfield
  | cons first fields ih =>
      obtain ⟨hfirst, hrest⟩ := List.nodup_cons.mp hnodup
      rw [valuesOf_present_cons]
      rcases List.mem_cons.mp hfield with rfl | hmem
      · rw [if_pos rfl, valuesOf_present_of_not_mem hfirst, List.append_nil]
      · have hne : first.1 ≠ field.1 :=
          fun heq => hfirst (List.mem_map.mpr ⟨field, hmem, heq.symm⟩)
        rw [if_neg hne, List.nil_append, ih hrest hmem]

/-- **A record is read field by field**, if no name stands twice; fields without values are
missing. -/
theorem record?_present (fields : List (String × Option Json))
    (hnodup : (fields.map (·.1)).Nodup) :
    (object (present fields)).record? (fields.map (·.1)) = some (fields.map (·.2)) := by
  rw [record?]
  refine mapM_map_eq_some fun field hfield => ?_
  rw [valuesOf_present hnodup hfield]
  cases field.2 <;> rfl

/-- A record all of whose fields have values is read field by field. -/
theorem record?_object {fields : List (String × Json)} (hnodup : (fields.map (·.1)).Nodup) :
    (object fields).record? (fields.map (·.1)) = some (fields.map fun f => some f.2) := by
  have hpresent : present (fields.map fun f => (f.1, some f.2)) = fields := by
    rw [present, List.filterMap_map]
    exact List.filterMap_some
  have hrecord := record?_present (fields.map fun f => (f.1, some f.2)) (by rwa [List.map_map])
  rwa [hpresent, List.map_map, List.map_map] at hrecord

/-- A list whose items are read back is read back. -/
theorem list?_map {α : Type} {toJson : α → Json} {ofJson? : Json → Option α} {items : List α}
    (h : ∀ x ∈ items, ofJson? (toJson x) = some x) :
    (array (items.map toJson)).list? ofJson? = some items := by
  rw [list?, mapM_map_eq_some (h := id) h, List.map_id]

/-- What holds of all that is read holds of what is read from the items of a list. -/
theorem forall_of_list? {α : Type} {ofJson? : Json → Option α} {P : α → Prop}
    (hread : ∀ j x, ofJson? j = some x → P x) {j : Json} {items : List α}
    (h : j.list? ofJson? = some items) : ∀ x ∈ items, P x := by
  unfold list? at h
  split at h
  · next values =>
    induction values generalizing items with
    | nil =>
        obtain rfl := Option.some.inj h
        nofun
    | cons value values ih =>
        simp only [List.mapM_cons, Option.bind_eq_bind, Option.bind_eq_some_iff] at h
        obtain ⟨x, hx, rest, hrest, h⟩ := h
        obtain rfl := Option.some.inj h
        exact List.forall_mem_cons.mpr ⟨hread value x hx, ih hrest⟩
  · cases h

/-- A count is read back if it is one. -/
theorem count?_number {n : Nat} (h : n ≤ maxCount) : (number n).count? = some n :=
  if_pos h

/-- What is read as a count is one. -/
theorem le_maxCount_of_count? {j : Json} {n : Nat} (h : j.count? = some n) : n ≤ maxCount := by
  unfold count? at h
  split at h
  · split_ifs at h with hle
    exact Option.some.inj h ▸ hle
  · cases h

end Json

open Json

/-! ## Findings -/

/-- The number of the line is one that a count can have. -/
def Finding.Fits (f : Finding) : Prop :=
  f.line ≤ maxCount

/-- A kind is read back. -/
theorem RuleKind.ofJson?_id (kind : RuleKind) : ofJson? (.string kind.id) = some kind := by
  cases kind <;> rfl

/-- The fields of a finding's record, with the one that may be missing. -/
def Finding.fields (f : Finding) : List (String × Option Json) := [
  ("file", some (.string f.file)), ("line", some (.number f.line)),
  ("kind", some (.string f.kind.id)), ("pattern", some (.string f.pattern)),
  ("suggestion", f.suggestion.map .string), ("excerpt", some (.string f.excerpt))]

/-- The record has the fields that have values. -/
theorem Finding.toJson_eq (f : Finding) : f.toJson = object (present f.fields) := by
  obtain ⟨file, line, kind, pattern, suggestion, excerpt⟩ := f
  cases suggestion <;> rfl

/-- **A finding is read back** from its record. -/
theorem Finding.ofJson?_toJson {f : Finding} (h : f.Fits) : ofJson? f.toJson = some f := by
  have hrecord := record?_present f.fields (by simp [fields])
  rw [← toJson_eq] at hrecord
  simp only [fields, List.map_cons, List.map_nil] at hrecord
  rw [Finding.ofJson?, hrecord]
  obtain ⟨file, line, kind, pattern, suggestion, excerpt⟩ := f
  cases suggestion <;>
    simp [text?, optionalText?, count?_number h, RuleKind.ofJson?_id]

/-- What is read as a finding fits. -/
theorem Finding.fits_of_ofJson? {j : Json} {f : Finding} (h : ofJson? j = some f) : f.Fits := by
  simp only [ofJson?, Option.bind_eq_bind, Option.bind_eq_some_iff] at h
  obtain ⟨values, -, h⟩ := h
  split at h
  · simp only [Option.bind_eq_some_iff] at h
    obtain ⟨file, -, line, hline, kind, -, pattern, -, suggestion, -, excerpt, -, h⟩ := h
    obtain rfl := Option.some.inj h
    exact le_maxCount_of_count? hline
  · cases h

/-! ## The JSON report -/

/-- A reported failure is read back from its record. -/
theorem ReportedFailure.ofJson?_toJson (f : ReportedFailure) : ofJson? f.toJson = some f := by
  have hrecord : f.toJson.record? ["file", "message"] =
      some [some (.string f.file), some (.string f.message)] := record?_object (by simp)
  simp [ofJson?, hrecord, text?]

/-- All counts of the report are ones that a count can be. -/
structure JsonReport.Fits (r : JsonReport) : Prop where
  filesScanned : r.filesScanned ≤ maxCount
  findings : ∀ f ∈ r.findings, f.Fits

/-- **A JSON report is read back** from its record. -/
theorem JsonReport.ofJson?_toJson {r : JsonReport} (h : r.Fits) : ofJson? r.toJson = some r := by
  have hrecord : r.toJson.record? ["version", "root", "files_scanned", "findings", "errors"] =
      some [some (.string r.version), some (.string r.root), some (.number r.filesScanned),
        some (.array (r.findings.map (·.toJson))), some (.array (r.errors.map (·.toJson)))] :=
    record?_object (by simp)
  have hfindings : (array (r.findings.map (·.toJson))).list? Finding.ofJson? = some r.findings :=
    list?_map fun f hf => Finding.ofJson?_toJson (h.findings f hf)
  have herrors : (array (r.errors.map (·.toJson))).list? ReportedFailure.ofJson? = some r.errors :=
    list?_map fun f _ => f.ofJson?_toJson
  simp [ofJson?, hrecord, text?, count?_number h.filesScanned, hfindings, herrors]

/-- What is read as a JSON report fits. -/
theorem JsonReport.fits_of_ofJson? {j : Json} {r : JsonReport} (h : ofJson? j = some r) :
    r.Fits := by
  simp only [ofJson?, Option.bind_eq_bind, Option.bind_eq_some_iff] at h
  obtain ⟨values, -, h⟩ := h
  split at h
  · simp only [Option.bind_eq_some_iff] at h
    obtain ⟨version, -, root, -, files, hfiles, findings, hfindings, errors, -, h⟩ := h
    obtain rfl := Option.some.inj h
    exact ⟨le_maxCount_of_count? hfiles,
      forall_of_list? (fun _ _ => Finding.fits_of_ofJson?) hfindings⟩
  · cases h

/-! ## The SARIF report -/

namespace Sarif

/-- The value of a record with one field is read back. -/
theorem unwrap?_wrap (name : String) (value : Json) : unwrap? name (wrap name value) = some value := by
  have hrecord : (wrap name value).record? [name] = some [some value] := record?_object (by simp)
  simp [unwrap?, hrecord]

/-- A rule is read back from its record. -/
theorem RuleInfo.ofJson?_toJson (r : RuleInfo) : ofJson? r.toJson = some r := by
  have hrecord : r.toJson.record? ["id", "name", "shortDescription", "defaultConfiguration"] =
      some [some (.string r.id), some (.string r.name),
        some (wrap "text" (.string r.description)), some (wrap "level" (.string r.level))] :=
    record?_object (by simp)
  simp [ofJson?, hrecord, text?, unwrap?_wrap]

/-- The number of the line is one that a count can have. -/
def Location.Fits (l : Location) : Prop :=
  l.startLine ≤ maxCount

/-- A place is read back from its record. -/
theorem Location.ofJson?_toJson {l : Location} (h : l.Fits) : ofJson? l.toJson = some l := by
  have hrecord : (object [("artifactLocation", wrap "uri" (.string l.uri)),
      ("region", wrap "startLine" (.number l.startLine))]).record? ["artifactLocation", "region"] =
      some [some (wrap "uri" (.string l.uri)), some (wrap "startLine" (.number l.startLine))] :=
    record?_object (by simp)
  simp [ofJson?, toJson, unwrap?_wrap, hrecord, text?, count?_number h]

/-- What is read as a place fits. -/
theorem Location.fits_of_ofJson? {j : Json} {l : Location} (h : ofJson? j = some l) : l.Fits := by
  simp only [ofJson?, Option.bind_eq_bind, Option.bind_eq_some_iff] at h
  obtain ⟨inner, -, values, -, h⟩ := h
  split at h
  · simp only [Option.bind_eq_some_iff] at h
    obtain ⟨_, -, uri, -, region, -, line, hline, h⟩ := h
    obtain rfl := Option.some.inj h
    exact le_maxCount_of_count? hline
  · cases h

/-- All lines of the result have numbers that a count can have. -/
def Result.Fits (r : Result) : Prop :=
  ∀ l ∈ r.locations, l.Fits

/-- A result is read back from its record. -/
theorem Result.ofJson?_toJson {r : Result} (h : r.Fits) : ofJson? r.toJson = some r := by
  have hrecord : r.toJson.record? ["ruleId", "level", "message", "locations"] =
      some [some (.string r.ruleId), some (.string r.level),
        some (wrap "text" (.string r.message)), some (.array (r.locations.map (·.toJson)))] :=
    record?_object (by simp)
  have hlocations : (array (r.locations.map (·.toJson))).list? Location.ofJson? =
      some r.locations := list?_map fun l hl => Location.ofJson?_toJson (h l hl)
  simp [ofJson?, hrecord, text?, unwrap?_wrap, hlocations]

/-- What is read as a result fits. -/
theorem Result.fits_of_ofJson? {j : Json} {r : Result} (h : ofJson? j = some r) : r.Fits := by
  simp only [ofJson?, Option.bind_eq_bind, Option.bind_eq_some_iff] at h
  obtain ⟨values, -, h⟩ := h
  split at h
  · simp only [Option.bind_eq_some_iff] at h
    obtain ⟨_, -, _, -, _, -, _, -, locations, hlocations, h⟩ := h
    obtain rfl := Option.some.inj h
    exact forall_of_list? (fun _ _ => Location.fits_of_ofJson?) hlocations
  · cases h

/-- A tool is read back from its record. -/
theorem Driver.ofJson?_wrap (d : Driver) :
    ofJson? (wrap "driver" (.object [("name", .string d.name), ("version", .string d.version),
      ("rules", .array (d.rules.map (·.toJson)))])) = some d := by
  have hrecord : (object [("name", .string d.name), ("version", .string d.version),
      ("rules", .array (d.rules.map (·.toJson)))]).record? ["name", "version", "rules"] =
      some [some (.string d.name), some (.string d.version),
        some (.array (d.rules.map (·.toJson)))] := record?_object (by simp)
  have hrules : (array (d.rules.map (·.toJson))).list? RuleInfo.ofJson? = some d.rules :=
    list?_map fun r _ => r.ofJson?_toJson
  simp [ofJson?, unwrap?_wrap, hrecord, text?, hrules]

/-- All results of the run fit. -/
def RunInfo.Fits (r : RunInfo) : Prop :=
  ∀ result ∈ r.results, result.Fits

/-- A run is read back from its record. -/
theorem RunInfo.ofJson?_toJson {r : RunInfo} (h : r.Fits) : ofJson? r.toJson = some r := by
  have hrecord : r.toJson.record? ["tool", "results"] =
      some [some (wrap "driver" (.object [("name", .string r.driver.name),
        ("version", .string r.driver.version), ("rules", .array (r.driver.rules.map (·.toJson)))])),
        some (.array (r.results.map (·.toJson)))] := record?_object (by simp)
  have hresults : (array (r.results.map (·.toJson))).list? Result.ofJson? = some r.results :=
    list?_map fun result hresult => Result.ofJson?_toJson (h result hresult)
  simp [ofJson?, hrecord, Driver.ofJson?_wrap, hresults]

/-- What is read as a run fits. -/
theorem RunInfo.fits_of_ofJson? {j : Json} {r : RunInfo} (h : ofJson? j = some r) : r.Fits := by
  simp only [ofJson?, Option.bind_eq_bind, Option.bind_eq_some_iff] at h
  obtain ⟨values, -, h⟩ := h
  split at h
  · simp only [Option.bind_eq_some_iff] at h
    obtain ⟨_, -, results, hresults, h⟩ := h
    obtain rfl := Option.some.inj h
    exact forall_of_list? (fun _ _ => Result.fits_of_ofJson?) hresults
  · cases h

/-- All runs of the report fit. -/
def Report.Fits (r : Report) : Prop :=
  ∀ run ∈ r.runs, run.Fits

/-- **A SARIF report is read back** from its record. -/
theorem Report.ofJson?_toJson {r : Report} (h : r.Fits) : ofJson? r.toJson = some r := by
  have hrecord : r.toJson.record? ["version", "$schema", "runs"] =
      some [some (.string r.version), some (.string r.schema),
        some (.array (r.runs.map (·.toJson)))] := record?_object (by simp)
  have hruns : (array (r.runs.map (·.toJson))).list? RunInfo.ofJson? = some r.runs :=
    list?_map fun run hrun => RunInfo.ofJson?_toJson (h run hrun)
  simp [ofJson?, hrecord, text?, hruns]

/-- What is read as a SARIF report fits. -/
theorem Report.fits_of_ofJson? {j : Json} {r : Report} (h : ofJson? j = some r) : r.Fits := by
  simp only [ofJson?, Option.bind_eq_bind, Option.bind_eq_some_iff] at h
  obtain ⟨values, -, h⟩ := h
  split at h
  · simp only [Option.bind_eq_some_iff] at h
    obtain ⟨_, -, _, -, runs, hruns, h⟩ := h
    obtain rfl := Option.some.inj h
    exact forall_of_list? (fun _ _ => RunInfo.fits_of_ofJson?) hruns
  · cases h

end Sarif

/-! ## Texts -/

/-- Values are read back from the texts that are written for them, if they fit, and these are all
that are read; and a value that is read from some other text is written and read and written again
as one text. -/
structure ReadsBack {α : Type} (Fits : α → Prop) (write : α → String)
    (read? : String → Option α) : Prop where
  read_write : ∀ value, read? (write value) = some value ↔ Fits value
  write_again : ∀ text value, read? text = some value →
    (read? (write value)).map write = some (write value)

/-- Values are read back from their texts if they are from their records. -/
theorem ReadsBack.of_records {α : Type} {Fits : α → Prop} {toJson : α → Json}
    {ofJson? : Json → Option α} {layout : Json → String}
    (hlayout : ∀ j, Json.ofText? (layout j) = some j)
    (hread : ∀ value, Fits value → ofJson? (toJson value) = some value)
    (hfits : ∀ j value, ofJson? j = some value → Fits value) :
    ReadsBack Fits (fun value => layout (toJson value))
      fun text => (Json.ofText? text).bind ofJson? where
  read_write value := by
    rw [hlayout, Option.bind_some]
    exact ⟨hfits _ value, hread value⟩
  write_again text value h := by
    obtain ⟨j, -, hj⟩ := Option.bind_eq_some_iff.mp h
    rw [hlayout, Option.bind_some, hread value (hfits j value hj), Option.map_some]

/-- **Findings and reports are read back**: from the text that is written for it each value is read
whose numbers are ones that a count can have, and no others are ever read.  So whatever text has
been read as one of them, what is written for it then is read and written again as the same text. -/
theorem reports_read_back :
    ReadsBack Finding.Fits (fun f => Json.compact f.toJson)
        (fun text => (Json.ofText? text).bind Finding.ofJson?) ∧
      ReadsBack Finding.Fits (fun f => Json.pretty f.toJson)
        (fun text => (Json.ofText? text).bind Finding.ofJson?) ∧
      ReadsBack JsonReport.Fits JsonReport.render
        (fun text => (Json.ofText? text).bind JsonReport.ofJson?) ∧
      ReadsBack Sarif.Report.Fits Sarif.Report.render
        fun text => (Json.ofText? text).bind Sarif.Report.ofJson? := by
  have hfinding : ∀ layout : Json → String, (∀ j, Json.ofText? (layout j) = some j) →
      ReadsBack Finding.Fits (fun f => layout f.toJson)
        fun text => (Json.ofText? text).bind Finding.ofJson? := fun layout hlayout =>
    .of_records hlayout (fun _ => Finding.ofJson?_toJson) fun _ _ => Finding.fits_of_ofJson?
  refine ⟨hfinding compact ofText?_compact, hfinding pretty ofText?_pretty, ?_, ?_⟩
  · exact .of_records ofText?_pretty (fun _ => JsonReport.ofJson?_toJson)
      fun _ _ => JsonReport.fits_of_ofJson?
  · exact .of_records ofText?_pretty (fun _ => Sarif.Report.ofJson?_toJson)
      fun _ _ => Sarif.Report.fits_of_ofJson?

/-- A finding may be written as an array and its kind as an object; it is written as a record. -/
example :
    ((Json.ofText? "[\"a.js\", 7, \x7b\"caution_word\": null\x7d, \"\\u0066ix\", null, \"\"]").bind
        Finding.ofJson?).map (fun f => Json.compact f.toJson) =
      some ("\x7b\"file\":\"a.js\",\"line\":7,\"kind\":\"caution_word\",\"pattern\":\"fix\"," ++
        "\"excerpt\":\"\"\x7d") := by
  decide +kernel

end Wording
