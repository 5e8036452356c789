import Wording.Proofs.Report.Locations
import Wording.Proofs.Report.TextLines
import Wording.Proofs.Scan.LiveRules
import Wording.Proofs.Text.Excerpt

/-!
# Text reports are cut back into events

* `TextReport.Tells` — how many lines an event takes, what they begin with, and what they end with.
* `TextReport.told?` — what a line tells of, by what it begins with.
* `TextReport.told_flatten`, `TextReport.length_flatten` — the lines of events tell of these events,
  and how many lines there are.
* `TextReport.pieces_ended` — a text of lines is cut at its line feeds into these lines.
* **`not_mem_texts`** — there is no line feed in the texts of what a scan finds, if there is none in
  paths, reasons and suggestions.
* **`Scanner.text_report_cuts_into_events`** — so the report on a complete scan is cut into the
  lines of its events, and what they begin with tells which events these are.

Of a finding, the path and the suggestion are given from outside.  Its pattern is one of a rule that
has fired in a line, and each white space of the pattern stands in that line too.  Its excerpt is a
part of the line.
-/

namespace Wording

/-! ## What lines tell of -/

/-- What an event is: a finding of some kind, or a failure. -/
inductive Told where
  | finding (kind : RuleKind)
  | failure
deriving DecidableEq

/-- What is told of an event. -/
def Event.told : Event → Told
  | .finding f => .finding f.kind
  | .failure _ => .failure

/-- What the first line of an event begins with. -/
def Told.mark : Told → String
  | .finding .phrase => "[MATCH] "
  | .finding .caution => "[CAUTION] "
  | .failure => "Error reading "

namespace TextReport

/-- What the line with an excerpt begins with. -/
def excerptMark : String :=
  "   Line: "

/-- What a line tells of, by what it begins with. -/
def told? (line : List Char) : Option Told :=
  [Told.finding .phrase, .finding .caution, .failure].find? (·.mark.toList.isPrefixOf line)

/-- What the text of a report tells of, line after line behind the first. -/
def toldBy (text : String) : List Told :=
  (Text.pieces '\n' text.toList).tail.filterMap told?

theorem told?_mark (t : Told) (rest : List Char) : told? (t.mark.toList ++ rest) = some t := by
  match t with
  | .finding .phrase => rfl
  | .finding .caution => rfl
  | .failure => rfl

theorem told?_excerptMark (rest : List Char) : told? (excerptMark.toList ++ rest) = none := rfl

/-- The lines are those of the event: two for a finding, and one for a failure. -/
inductive Tells : Event → List String → Prop where
  | finding {f : Finding} {first second : String}
      (hfirst : (Told.finding f.kind).mark.toList <+: first.toList)
      (hsecond : excerptMark.toList <+: second.toList)
      (hdots : "...".toList <:+ second.toList) : Tells (.finding f) [first, second]
  | failure {e : ReadFailure} {line : String} (hline : Told.failure.mark.toList <+: line.toList) :
      Tells (.failure e) [line]

/-- An event is told in its lines. -/
theorem tells_lines (e : Event) : Tells e (lines e) := by
  cases e with
  | finding f =>
      refine .finding ?_ ?_ ?_
      · have hmark : (Told.finding f.kind).mark = f.kind.tag ++ " " := by cases f.kind <;> rfl
        simp [findingLine, hmark, toString]
      · simp [excerptLine, excerptMark, toString]
      · refine ⟨(excerptMark ++ f.excerpt).toList, ?_⟩
        simp [excerptLine, excerptMark, toString]
  | failure f =>
      have hmessage : f.message = "Error reading " ++ f.path ++ ": " ++ f.reason.message := rfl
      refine .failure ?_
      simp [hmessage, Told.mark]

section Lines

variable {e : Event} {block : List String} {events : List Event} {blocks : List (List String)}

/-- The lines of an event tell of it, once. -/
theorem Tells.told_eq (h : Tells e block) :
    (block.map String.toList).filterMap told? = [e.told] := by
  cases h with
  | finding hfirst hsecond hdots =>
      obtain ⟨rest, hrest⟩ := hfirst
      obtain ⟨excerpt, hexcerpt⟩ := hsecond
      simp only [List.map_cons, List.map_nil, ← hrest, ← hexcerpt, List.filterMap_cons,
        told?_mark, told?_excerptMark, List.filterMap_nil, Event.told]
  | failure hline =>
      obtain ⟨rest, hrest⟩ := hline
      simp only [List.map_cons, List.map_nil, ← hrest, List.filterMap_cons, told?_mark,
        List.filterMap_nil, Event.told]

/-- **The lines of events tell of these events**, in their order. -/
theorem told_flatten (h : List.Forall₂ Tells events blocks) :
    (blocks.flatten.map String.toList).filterMap told? = events.map Event.told := by
  induction h with
  | nil => rfl
  | cons hblock _ ih =>
      rw [List.flatten_cons, List.map_append, List.filterMap_append, hblock.told_eq, ih]
      rfl

/-- There are two lines for a finding and one for a failure. -/
theorem Tells.length_eq (h : Tells e block) :
    block.length =
      2 * ([e].filterMap Event.finding?).length + ([e].filterMap Event.failure?).length := by
  cases h <;> rfl

/-- There are two lines for each finding and one for each failure. -/
theorem length_flatten (h : List.Forall₂ Tells events blocks) :
    blocks.flatten.length =
      2 * (events.filterMap Event.finding?).length + (events.filterMap Event.failure?).length := by
  induction h with
  | nil => rfl
  | @cons e block events blocks hblock _ ih =>
      have hevents : e :: events = [e] ++ events := rfl
      rw [List.flatten_cons, List.length_append, ih, hblock.length_eq, hevents,
        List.filterMap_append, List.filterMap_append, List.length_append, List.length_append]
      omega

/-- **A text of lines is cut at its line feeds into these lines**, and nothing is behind the
last. -/
theorem pieces_ended {lines : List String} (h : ∀ line ∈ lines, '\n' ∉ line.toList) :
    Text.pieces '\n' (ended lines).toList = lines.map String.toList ++ [[]] := by
  induction lines with
  | nil => rfl
  | cons line lines ih =>
      have htext : (ended (line :: lines)).toList = line.toList ++ '\n' :: (ended lines).toList := by
        simp [ended_cons]
      have hline := Text.pieces_eq_singleton (h line List.mem_cons_self)
      have hlines := ih fun line hline => h line (List.mem_cons_of_mem _ hline)
      rw [htext, Text.pieces_append_cons, hline, hlines]
      rfl

/-- **The report is cut at its line feeds into the banner and the lines of the events**, if there are
no line feeds in the root and in the texts of the events. -/
theorem pieces_report {root : String} (hroot : '\n' ∉ root.toList)
    (htexts : ∀ e ∈ events, ∀ text ∈ e.texts, '\n' ∉ text.toList) :
    Text.pieces '\n' (report false root events).toList =
      (bannerLine root :: (events.map lines).flatten).map String.toList ++ [[]] := by
  rw [report_eq_lines, pieces_ended (not_mem_lines (by decide) hroot htexts), List.flatMap_def]

end Lines

end TextReport

/-! ## No line feeds -/

/-- A pattern with white space that a line has not does not fire in it. -/
theorem Rule.not_mem_pattern {rule : Rule} {line : List Char} (h : rule.fires (.ofText line) = true)
    {c : Char} (hblank : Text.isBlank c = true) (hc : c ∉ line) : c ∉ rule.pattern.toList := by
  intro hpattern
  obtain ⟨d, hd, heq⟩ := exists_mem_of_fires h hpattern
  obtain rfl := heq (.inl hblank)
  exact hc hd

/-- There is no line feed in the path of the item, nor in the reason of a failure. -/
def Item.IsOneLine : Item → Prop
  | .file f => '\n' ∉ f.path.toList
  | .failure f => '\n' ∉ f.path.toList ∧ '\n' ∉ f.reason.message.toList

section Texts

variable {rules : RuleSet} {limit : Nat}

/-- There is no line feed in the texts of findings. -/
theorem not_mem_texts_of_finding {path : String} (hpath : '\n' ∉ path.toList)
    (hsuggestions : ∀ r ∈ rules.phrases, '\n' ∉ r.suggestion.toList) {content : String} {f : Finding}
    (hf : f ∈ (⟨path, content⟩ : SourceFile).findings rules limit) :
    ∀ text ∈ (Event.finding f).texts, '\n' ∉ text.toList := by
  obtain ⟨line, hline, rule, hrule, hfires, hof, hexcerpt⟩ := exists_of_mem_findingsFrom hf
  have hfeed : '\n' ∉ line := Text.not_mem_of_mem_lines hline
  have hpattern : '\n' ∉ f.pattern.toList := by
    rw [hof.pattern]
    -- the line feed is white space, which up to case is only met by itself
    exact rule.not_mem_pattern hfires rfl hfeed
  have hcut : '\n' ∉ f.excerpt.toList := by
    rw [hexcerpt, String.toList_ofList]
    exact fun h => hfeed (Text.mem_of_mem_excerpt h)
  have hsuggestion : ∀ suggestion ∈ f.suggestion, '\n' ∉ suggestion.toList := by
    rw [hof.suggestion]
    cases rule with
    | caution r => nofun
    | phrase r =>
        have hmem : r ∈ rules.phrases := by simpa [RuleSet.rules] using hrule
        rintro suggestion ⟨⟩
        exact hsuggestions r hmem
  intro text htext
  simp only [Event.texts, List.mem_cons, Option.mem_toList] at htext
  rcases htext with rfl | rfl | rfl | htext
  · rwa [file_of_mem_findingsFrom hf]
  · exact hpattern
  · exact hcut
  · exact hsuggestion text htext

/-- **There is no line feed in the texts of what a scan finds.** -/
theorem not_mem_texts (hsuggestions : ∀ r ∈ rules.phrases, '\n' ∉ r.suggestion.toList)
    {item : Item} (hitem : item.IsOneLine) {e : Event} (he : e ∈ item.events rules limit) :
    ∀ text ∈ e.texts, '\n' ∉ text.toList := by
  cases item with
  | file file =>
      obtain ⟨f, hf, rfl⟩ := List.mem_map.mp he
      exact not_mem_texts_of_finding hitem hsuggestions hf
  | failure failure =>
      obtain rfl := List.mem_singleton.mp he
      obtain ⟨hpath, hreason⟩ := hitem
      intro text htext
      simp only [Event.texts, List.mem_cons, List.not_mem_nil, or_false] at htext
      rcases htext with rfl | rfl
      · exact hpath
      · exact hreason

end Texts

/-! ## The report on a scan -/

/-- **The text report on a complete scan is cut back into its events.**  Behind the banner there are
blocks of lines, one for each event and in their order, and each line ends with a line feed.  There
is no line feed in the suggestions, in the root, and in the paths and reasons; in patterns and in the
files there may be any. -/
theorem Scanner.text_report_cuts_into_events (rules : RuleSet) (limit : Nat)
    (answers : List (Option Item)) (root : String) (calls : List Scanner.Call) :
    let start : Scanner := { rules := rules, limit := limit, source := { answers := answers } }
    let replies := (start.run calls).1
    let events := Scanner.delivered replies
    let report := TextReport.report false root events
    let findings := (events.filterMap Event.finding?).length
    let failures := (events.filterMap Event.failure?).length
    (∃ r ∈ replies, r.tellsEnd = true) →
      (∀ r ∈ rules.phrases, '\n' ∉ r.suggestion.toList) →
      (∀ item ∈ start.source.items, item.IsOneLine) →
      '\n' ∉ root.toList →
      ∃ blocks : List (List String),
        List.Forall₂ TextReport.Tells events blocks ∧
          Text.pieces '\n' report.toList =
            (s!"Scanning {root}..." :: blocks.flatten).map String.toList ++ [[]] ∧
          (s!"Scanning {root}..." :: blocks.flatten).length = 1 + 2 * findings + failures ∧
          TextReport.toldBy report = events.map Event.told := by
  intro start replies events report findings failures
  rintro ⟨r, hr, hend⟩ hsuggestions hitems hroot
  have hevents : events = start.source.items.flatMap (Item.events rules limit) :=
    Scanner.delivered_eq_ahead hr hend
  have htexts : ∀ e ∈ events, ∀ text ∈ e.texts, '\n' ∉ text.toList := by
    intro e he
    rw [hevents] at he
    obtain ⟨item, hitem, he⟩ := List.mem_flatMap.mp he
    exact not_mem_texts hsuggestions (hitems item hitem) he
  have hpieces := TextReport.pieces_report hroot htexts
  have htells : List.Forall₂ TextReport.Tells events (events.map TextReport.lines) := by
    rw [List.forall₂_map_right_iff, List.forall₂_same]
    exact fun e _ => TextReport.tells_lines e
  refine ⟨events.map TextReport.lines, htells, hpieces, ?_, ?_⟩
  · rw [List.length_cons, TextReport.length_flatten htells]
    omega
  · have hlast : [[]].filterMap TextReport.told? = [] := rfl
    rw [TextReport.toldBy, hpieces, List.map_cons, List.cons_append, List.tail_cons,
      List.filterMap_append, hlast, List.append_nil]
    exact TextReport.told_flatten htells

/-- A file in which a phrase and a caution word are found, and a file that cannot be read.  There is
a line feed in another pattern. -/
theorem Scanner.text_report_cuts_into_events_two_files :
    let rules : RuleSet :=
      ⟨[{ pattern := "must", suggestion := "can" }], [{ pattern := "fix" }, { pattern := "a\nb" }]⟩
    let answers : List (Option Item) :=
      [some (.file ⟨"src/a.js", "You must\nfix a\nb"⟩),
        some (.failure ⟨"src/b.js", .io (.system .permissionDenied)⟩)]
    let start : Scanner := { rules := rules, source := { answers := answers } }
    let events := Scanner.delivered (start.run [.next, .drain]).1
    TextReport.toldBy (TextReport.report false "src" events) = events.map Event.told ∧
      events.map Event.told = [.finding .phrase, .finding .caution, .failure] := by
  intro rules answers start events
  have hend : ∃ r ∈ (start.run [.next, .drain]).1, r.tellsEnd = true :=
    ⟨_, List.mem_cons_of_mem _ List.mem_cons_self, rfl⟩
  have hsuggestions : ∀ r ∈ rules.phrases, '\n' ∉ r.suggestion.toList := by
    intro r hr
    obtain rfl := List.mem_singleton.mp hr
    decide
  have hitems : ∀ item ∈ start.source.items, item.IsOneLine := by
    intro item hitem
    have hmem : item = .file ⟨"src/a.js", "You must\nfix a\nb"⟩ ∨
        item = .failure ⟨"src/b.js", .io (.system .permissionDenied)⟩ := by
      simpa [start, answers, Source.items] using hitem
    rcases hmem with rfl | rfl
    · show '\n' ∉ "src/a.js".toList
      decide
    · show '\n' ∉ "src/b.js".toList ∧ '\n' ∉ "Permission denied (os error 13)".toList
      decide
  obtain ⟨blocks, -, -, -, htold⟩ := Scanner.text_report_cuts_into_events rules
    defaultExcerptLimit answers "src" [.next, .drain] hend hsuggestions hitems (by decide)
  exact ⟨htold, by decide +kernel⟩

end Wording
