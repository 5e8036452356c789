import Wording.Proofs.Scan.Accounting
import Wording.Report.Sarif
import Wording.Report.Text

/-!
# Three reports on one scan

* `Finding.Suggests` — the finding has a suggestion exactly if it is one of a phrase.
* `suggests_of_mem_events` — this holds of all findings that a scan makes.
* `TextReport.message_eq` — so the text report, which goes by the kind, says what the others say, who
  go by the suggestion.
* `SameStory` — the lists and the text of three reports, event by event.
* `sameStory` — the reports on any events tell the same story if their findings suggest what their
  kinds say.
* **`Scanner.reports_agree`** — the reports on a complete scan tell the same story.

The text report keeps the order of the events, and the JSON report puts them into two lists.  The
story is therefore told along the events, and each event takes what is said about it from the front
of the lists and of the text.
-/

namespace Wording

/-! ## What a finding suggests -/

/-- There is a suggestion if the finding is one of a phrase, and only then. -/
def Finding.Suggests (f : Finding) : Prop :=
  f.suggestion.isSome = true ↔ f.kind = .phrase

/-- A rule of either table has a suggestion if it is a phrase, and only then. -/
theorem Rule.isSome_suggestion?_iff (r : Rule) : r.suggestion?.isSome = true ↔ r.kind = .phrase := by
  cases r <;> simp [suggestion?, kind]

/-- The findings in lines of a file have suggestions as their rules have. -/
theorem suggests_of_mem_findingsFrom {rules : RuleSet} {path : String} {limit number : Nat}
    {lines : List (List Char)} {f : Finding}
    (h : f ∈ findingsFrom rules path limit number lines) : f.Suggests := by
  induction lines generalizing number with
  | nil => cases h
  | cons line rest ih =>
      rw [findingsFrom, List.mem_append] at h
      rcases h with hline | hrest
      · obtain ⟨hit, hhit, rfl⟩ := List.mem_map.mp hline
        obtain ⟨rule, -, rfl⟩ := List.mem_map.mp hhit
        exact rule.isSome_suggestion?_iff
      · exact ih hrest

/-- **All findings of a scan have suggestions as their kinds say.** -/
theorem suggests_of_mem_events {rules : RuleSet} {limit : Nat} {items : List Item} {f : Finding}
    (h : .finding f ∈ items.flatMap (Item.events rules limit)) : f.Suggests := by
  obtain ⟨item, -, hevent⟩ := List.mem_flatMap.mp h
  cases item with
  | failure failure =>
      rw [Item.events, List.mem_singleton] at hevent
      cases hevent
  | file file =>
      obtain ⟨found, hfound, heq⟩ := List.mem_map.mp hevent
      obtain rfl := Event.finding.inj heq
      exact suggests_of_mem_findingsFrom hfound

/-- **The text report says what the others say** of a finding that has a suggestion as its kind
says. -/
theorem TextReport.message_eq {f : Finding} (h : f.Suggests) : message f = f.message := by
  unfold Finding.Suggests at h
  unfold message Finding.message
  cases hkind : f.kind with
  | phrase =>
      obtain ⟨suggestion, hsuggestion⟩ := Option.isSome_iff_exists.mp (h.mpr hkind)
      rw [hsuggestion]
      rfl
  | caution =>
      have hnone : f.suggestion = none := by
        rw [← Option.not_isSome_iff_eq_none, h, hkind]
        nofun
      rw [hnone]

/-! ## The story -/

/-- The tag of the kind, as it is written without colours. -/
def RuleKind.tag : RuleKind → String
  | .phrase => "[MATCH]"
  | .caution => "[CAUTION]"

/-- What the text report has of a finding, if a result says the same. -/
def Sarif.Result.block (r : Sarif.Result) (f : Finding) : String :=
  s!"{f.kind.tag} {Path.fileName f.file}:{f.line} -> {r.message}\n" ++
    s!"   Line: {f.excerpt}...\n"

/-- What the text report has of a failure. -/
def ReportedFailure.block (e : ReportedFailure) : String :=
  s!"Error reading {e.file}: {e.message}\n"

/-- The result is one for the finding: of its kind, and in its line. -/
structure Sarif.Result.IsFor (r : Sarif.Result) (f : Finding) : Prop where
  ruleId : r.ruleId = f.kind.id
  lines : r.locations.map (·.startLine) = [f.line]

/-- The events one after another, and what is said of them: the findings and the errors of the JSON
report, the results of the SARIF report, and the text of the text report behind its banner. -/
inductive SameStory : List Event → List Finding → List ReportedFailure → List Sarif.Result →
    String → Prop where
  | nil : SameStory [] [] [] [] ""
  | finding {events : List Event} {findings : List Finding} {errors : List ReportedFailure}
      {results : List Sarif.Result} {text : String} (f : Finding) (r : Sarif.Result)
      (hresult : r.IsFor f) (hrest : SameStory events findings errors results text) :
      SameStory (.finding f :: events) (f :: findings) errors (r :: results) (r.block f ++ text)
  | failure {events : List Event} {findings : List Finding} {errors : List ReportedFailure}
      {results : List Sarif.Result} {text : String} (e : ReadFailure) (reported : ReportedFailure)
      (hreported : reported = ⟨e.path, e.reason.message⟩)
      (hrest : SameStory events findings errors results text) :
      SameStory (.failure e :: events) findings (reported :: errors) results
        (reported.block ++ text)

/-- The lines of a finding are those of its result. -/
theorem TextReport.finding_eq_block {f : Finding} (h : f.Suggests) (root : String) :
    finding false f = (Sarif.result root f).block f := by
  have htag : tag false f.kind = f.kind.tag := by cases f.kind <;> rfl
  rw [finding, htag, message_eq h, Sarif.Result.block, Sarif.result]

/-- The line of a failure is that of the reported failure. -/
theorem TextReport.failure_eq_block (e : ReadFailure) : failure false e = e.reported.block := by
  have hpaint : paint false .red e.message = e.message := rfl
  unfold failure
  rw [hpaint]
  unfold ReadFailure.message ReportedFailure.block
  rfl

/-- **The reports on events tell the same story**, if the findings among them have suggestions as
their kinds say. -/
theorem sameStory (root : String) {events : List Event}
    (h : ∀ f, .finding f ∈ events → f.Suggests) :
    SameStory events (events.filterMap Event.finding?)
      ((events.filterMap Event.failure?).map ReadFailure.reported)
      ((events.filterMap Event.finding?).map (Sarif.result root))
      (TextReport.events false events) := by
  induction events with
  | nil => exact .nil
  | cons event events ih =>
      have hrest := ih fun f hf => h f (List.mem_cons_of_mem _ hf)
      have htext : TextReport.events false (event :: events) =
          TextReport.event false event ++ TextReport.events false events := by
        rw [TextReport.events, List.map_cons, String.join_cons]
        rfl
      rw [htext]
      cases event with
      | finding f =>
          rw [TextReport.event, TextReport.finding_eq_block (h f List.mem_cons_self) root]
          exact .finding f _ ⟨rfl, rfl⟩ hrest
      | failure e =>
          rw [TextReport.event, TextReport.failure_eq_block]
          exact .failure e _ rfl hrest

/-- **The three reports on a complete scan agree.**  The JSON report has as many findings and errors
as the scan has counted, and its files and its root are those of the scan.  The SARIF report has one
run.  Behind its banner, the text report without colours tells the events in the order of the scan,
each with the next finding of the JSON report and the next result of the SARIF report, or with the
next error. -/
theorem Scanner.reports_agree (rules : RuleSet) (limit : Nat) (answers : List (Option Item))
    (root : String) (calls : List Scanner.Call) :
    let start : Scanner := { rules := rules, limit := limit, source := { answers := answers } }
    let replies := (start.run calls).1
    let s := (start.run calls).2
    let events := Scanner.delivered replies
    let json := JsonReport.ofEvents root s.stats events
    let sarif := Sarif.Report.ofFindings root (events.filterMap Event.finding?)
    (∃ r ∈ replies, r.tellsEnd = true) →
      json.findings.length = s.stats.findings ∧
        json.errors.length = s.stats.readErrors ∧
        ∃ (run : Sarif.RunInfo) (text : String),
          sarif.runs = [run] ∧
            TextReport.report false root events = s!"Scanning {root}...\n" ++ text ∧
            SameStory events json.findings json.errors run.results text := by
  intro start replies s events json sarif
  rintro ⟨r, hr, hend⟩
  obtain ⟨taken, haccounts, -⟩ := (Scanner.accounts_start rules limit answers).run calls
  rw [List.nil_append, List.nil_append] at haccounts
  have hstats : s.stats = Stats.ofItems rules limit taken := haccounts.stats_eq
  have hatEnd : s.AtEnd := Scanner.atEnd_run_of_tellsEnd hr hend
  have hevents : events = taken.flatMap (Item.events rules limit) := by
    rw [← haccounts.events_eq, hatEnd.pending, List.append_nil]
  have hsuggests : ∀ f, .finding f ∈ events → f.Suggests := by
    intro f hf
    rw [hevents] at hf
    exact suggests_of_mem_events hf
  refine ⟨?_, ?_, _, TextReport.events false events, rfl, rfl, sameStory root hsuggests⟩
  · rw [hstats, ← length_findings_events, ← hevents]
    rfl
  · rw [hstats, ← length_failures_events, ← hevents]
    exact List.length_map _

/-- A file in which a phrase and a caution word are found, and a file that cannot be read.  The
consumer asks for one event and then for all others. -/
theorem Scanner.reports_agree_two_files :
    let rules : RuleSet := ⟨[{ pattern := "must", suggestion := "can" }], [{ pattern := "fix" }]⟩
    let answers : List (Option Item) :=
      [some (.file ⟨"src/a.js", "You must\nfix it"⟩),
        some (.failure ⟨"src/b.js", .io (.system .permissionDenied)⟩)]
    let start : Scanner := { rules := rules, source := { answers := answers } }
    let replies := (start.run [.next, .drain]).1
    let s := (start.run [.next, .drain]).2
    let events := Scanner.delivered replies
    let json := JsonReport.ofEvents "src" s.stats events
    let sarif := Sarif.Report.ofFindings "src" (events.filterMap Event.finding?)
    (∃ r ∈ replies, r.tellsEnd = true) ∧
      ∃ (run : Sarif.RunInfo) (text : String),
        sarif.runs = [run] ∧
          TextReport.report false "src" events = "Scanning src...\n" ++ text ∧
          SameStory events json.findings json.errors run.results text := by
  intro rules answers start replies s events json sarif
  have hend : ∃ r ∈ replies, r.tellsEnd = true :=
    ⟨_, List.mem_cons_of_mem _ List.mem_cons_self, rfl⟩
  obtain ⟨-, -, run, text, hruns, htext, hstory⟩ :=
    Scanner.reports_agree rules defaultExcerptLimit answers "src" [.next, .drain] hend
  exact ⟨hend, run, text, hruns, htext, hstory⟩

end Wording
