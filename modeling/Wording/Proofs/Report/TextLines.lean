import Wording.Proofs.Report.Agreement
import Wording.Proofs.Text.Pieces

/-!
# The lines of the text report

* `TextReport.lines` — the lines in which an event is told, without colours.
* **`TextReport.report_eq_lines`** — the report is its banner and these lines, each with a line feed
  behind it.
* `Event.texts` — the texts that an event brings along.
* `TextReport.madeOf_lines` — all else in the lines of an event is printable ASCII.
* **`TextReport.not_mem_lines`** — so a line feed or an escape character in a line comes from the
  texts of the events, or from the root.
-/

namespace Wording

/-! ## The characters of a file name -/

/-- The name of a file has no characters that its path has not. -/
theorem Path.mem_of_mem_fileName {path : String} {c : Char} (h : c ∈ (fileName path).toList) :
    c ∈ path.toList := by
  unfold fileName at h
  cases hname : fileName? path with
  | none => simpa [hname] using h
  | some name =>
      rw [hname, Option.getD_some] at h
      have hcomponent : Component.name name ∈ components path := by
        unfold fileName? at hname
        split at hname
        · next hlast =>
          obtain rfl := Option.some.inj hname
          exact List.mem_of_getLast? hlast
        · cases hname
      have hpiece : name.toList ∈ pieces path := by
        have hinner : Component.name name ∈ (pieces path).filterMap pieceComponent? := by
          unfold components at hcomponent
          split_ifs at hcomponent <;> simpa using hcomponent
        obtain ⟨piece, hpiece, hname⟩ := List.mem_filterMap.mp hinner
        unfold pieceComponent? at hname
        split_ifs at hname
        · cases hname
        · obtain rfl := Component.name.inj (Option.some.inj hname)
          rwa [String.toList_ofList]
      have hbody := Text.mem_of_mem_pieces hpiece h
      split_ifs at hbody
      · exact List.mem_of_mem_tail hbody
      · exact hbody

namespace TextReport

/-! ## Lines -/

/-- The line that says what was found, and where. -/
def findingLine (f : Finding) : String :=
  s!"{f.kind.tag} {Path.fileName f.file}:{f.line} -> {message f}"

/-- The line with the excerpt. -/
def excerptLine (f : Finding) : String :=
  s!"   Line: {f.excerpt}..."

/-- The lines of an event, without colours. -/
def lines : Event → List String
  | .finding f => [findingLine f, excerptLine f]
  | .failure f => [f.message]

/-- The line that names the root. -/
def bannerLine (root : String) : String :=
  s!"Scanning {root}..."

/-- Lines with a line feed behind each. -/
def ended (lines : List String) : String :=
  String.join (lines.map (· ++ "\n"))

theorem ended_cons (line : String) (lines : List String) :
    ended (line :: lines) = line ++ "\n" ++ ended lines := by
  rw [ended, List.map_cons, String.join_cons, ended]

theorem ended_append (lines more : List String) : ended (lines ++ more) = ended lines ++ ended more := by
  rw [ended, List.map_append, String.join_append, ended, ended]

/-- The characters of ended lines are those of the lines, and line feeds. -/
theorem not_mem_ended {c : Char} (hc : c ≠ '\n') {lines : List String}
    (h : ∀ line ∈ lines, c ∉ line.toList) : c ∉ (ended lines).toList := by
  induction lines with
  | nil => exact List.not_mem_nil
  | cons line lines ih =>
      have hline := h line List.mem_cons_self
      have hlines := ih fun line hline => h line (List.mem_cons_of_mem _ hline)
      rw [ended_cons]
      simp [hline, hlines, hc]

/-- An event is told in its lines. -/
theorem event_eq_lines (e : Event) : event false e = ended (lines e) := by
  cases e with
  | finding f =>
      have htag : tag false f.kind = f.kind.tag := by cases f.kind <;> rfl
      rw [event, finding, htag, lines, ← String.toList_inj]
      simp [findingLine, excerptLine, ended, toString]
  | failure f =>
      have hpaint : paint false .red f.message = f.message := rfl
      simp [event, failure, hpaint, lines, ended]

/-- **The report is its banner and the lines of the events**, each with a line feed behind it. -/
theorem report_eq_lines (root : String) (es : List Event) :
    report false root es = ended (bannerLine root :: es.flatMap lines) := by
  have hevents : events false es = ended (es.flatMap lines) := by
    induction es with
    | nil => rfl
    | cons e es ih =>
        rw [List.flatMap_cons, ended_append, ← ih, ← event_eq_lines, events, List.map_cons,
          String.join_cons, events]
  rw [report, banner, hevents, ended_cons, bannerLine, ← String.toList_inj]
  simp [toString]

end TextReport

/-! ## Characters -/

/-- The texts that an event brings along. -/
def Event.texts : Event → List String
  | .finding f => f.file :: f.pattern :: f.excerpt :: f.suggestion.toList
  | .failure f => [f.path, f.reason.message]

namespace TextReport

/-- A printable ASCII character. -/
def IsPrintable (c : Char) : Prop :=
  0x20 ≤ c.toNat ∧ c.toNat ≤ 0x7E

instance : DecidablePred IsPrintable := fun c =>
  inferInstanceAs (Decidable (0x20 ≤ c.toNat ∧ c.toNat ≤ 0x7E))

/-- Digits are printable. -/
theorem isPrintable_of_isDigit {c : Char} (h : c.isDigit = true) : IsPrintable c := by
  simp only [Char.isDigit, Bool.and_eq_true, decide_eq_true_eq] at h
  exact ⟨Nat.le_trans (by decide) h.1, Nat.le_trans h.2 (by decide)⟩

/-- The text is made of characters of the texts and of printable ones. -/
def MadeOf (texts : List String) (text : String) : Prop :=
  ∀ c ∈ text.toList, IsPrintable c ∨ ∃ t ∈ texts, c ∈ t.toList

namespace MadeOf

variable {texts : List String} {text more : String}

theorem append (h : MadeOf texts text) (h' : MadeOf texts more) : MadeOf texts (text ++ more) := by
  intro c hc
  rw [String.toList_append, List.mem_append] at hc
  rcases hc with hc | hc
  · exact h c hc
  · exact h' c hc

theorem of_mem (h : text ∈ texts) : MadeOf texts text :=
  fun _ hc => .inr ⟨text, h, hc⟩

/-- What is made of texts and of printable characters has no other character, if the texts have
not. -/
theorem not_mem (h : MadeOf texts text) {c : Char} (hc : ¬IsPrintable c)
    (htexts : ∀ t ∈ texts, c ∉ t.toList) : c ∉ text.toList := by
  intro hmem
  rcases h c hmem with hprintable | ⟨t, ht, hct⟩
  · exact hc hprintable
  · exact htexts t ht hct

end MadeOf

/-- What is written around the root and the texts of events. -/
def fixedTexts : List String :=
  ["Scanning ", "[MATCH]", "[CAUTION]", " ", ":", " -> ", "Found '", "'. Suggestion: '", "'", "",
    "Found restricted word '", "   Line: ", "...", "Error reading ", ": "]

theorem madeOf_fixed (texts : List String) {text : String} (h : text ∈ fixedTexts) :
    MadeOf texts text := by
  have hall : (fixedTexts.all fun text => text.toList.all fun c => IsPrintable c) = true := by
    decide +kernel
  intro c hc
  have hprintable := List.all_eq_true.mp (List.all_eq_true.mp hall text h) c hc
  exact .inl (of_decide_eq_true hprintable)

/-- The banner names the root. -/
theorem madeOf_bannerLine (root : String) : MadeOf [root] (bannerLine root) := by
  have hscanning : MadeOf [root] "Scanning " := madeOf_fixed [root] (by decide)
  have hroot : MadeOf [root] root := .of_mem List.mem_cons_self
  have hdots : MadeOf [root] "..." := madeOf_fixed [root] (by decide)
  exact (hscanning.append hroot).append hdots

/-- What the report says of a finding. -/
theorem madeOf_message (f : Finding) : MadeOf (Event.finding f).texts (message f) := by
  let texts := (Event.finding f).texts
  have hpattern : MadeOf texts f.pattern := .of_mem (by simp [texts, Event.texts])
  have hquote : MadeOf texts "'" := madeOf_fixed texts (by decide)
  unfold message
  split
  · have hfound : MadeOf texts "Found '" := madeOf_fixed texts (by decide)
    have hbetween : MadeOf texts "'. Suggestion: '" := madeOf_fixed texts (by decide)
    have hsuggestion : MadeOf texts (f.suggestion.getD "") := by
      cases hf : f.suggestion with
      | none => exact madeOf_fixed texts (by decide)
      | some suggestion => exact .of_mem (by simp [texts, Event.texts, hf])
    exact (((hfound.append hpattern).append hbetween).append hsuggestion).append hquote
  · have hfound : MadeOf texts "Found restricted word '" := madeOf_fixed texts (by decide)
    exact (hfound.append hpattern).append hquote

/-- The number of a line is written in digits. -/
theorem madeOf_number (texts : List String) (n : Nat) : MadeOf texts (toString n) := by
  intro c hc
  have hdigits : (toString n).toList = Nat.toDigits 10 n := by simp [toString]
  rw [hdigits] at hc
  exact .inl (isPrintable_of_isDigit (Nat.isDigit_of_mem_toDigits (by decide) (by decide) hc))

/-- **The lines of an event are made of its texts and of printable characters.** -/
theorem madeOf_lines {e : Event} {line : String} (hline : line ∈ lines e) :
    MadeOf e.texts line := by
  cases e with
  | finding f =>
      let texts := (Event.finding f).texts
      have htag : MadeOf texts f.kind.tag := by
        cases f.kind <;> exact madeOf_fixed texts (by decide)
      have hspace : MadeOf texts " " := madeOf_fixed texts (by decide)
      have hname : MadeOf texts (Path.fileName f.file) := fun c hc =>
        .inr ⟨f.file, by simp [texts, Event.texts], Path.mem_of_mem_fileName hc⟩
      have hcolon : MadeOf texts ":" := madeOf_fixed texts (by decide)
      have harrow : MadeOf texts " -> " := madeOf_fixed texts (by decide)
      have hindent : MadeOf texts "   Line: " := madeOf_fixed texts (by decide)
      have hexcerpt : MadeOf texts f.excerpt := .of_mem (by simp [texts, Event.texts])
      have hdots : MadeOf texts "..." := madeOf_fixed texts (by decide)
      simp only [lines, List.mem_cons, List.not_mem_nil, or_false] at hline
      rcases hline with rfl | rfl
      · exact (((((htag.append hspace).append hname).append hcolon).append
          (madeOf_number texts f.line)).append harrow).append (madeOf_message f)
      · exact (hindent.append hexcerpt).append hdots
  | failure f =>
      let texts := (Event.failure f).texts
      have hreading : MadeOf texts "Error reading " := madeOf_fixed texts (by decide)
      have hpath : MadeOf texts f.path := .of_mem (by simp [texts, Event.texts])
      have hcolon : MadeOf texts ": " := madeOf_fixed texts (by decide)
      have hreason : MadeOf texts f.reason.message := .of_mem (by simp [texts, Event.texts])
      obtain rfl := List.mem_singleton.mp hline
      exact ((hreading.append hpath).append hcolon).append hreason

/-- **A character that is not printable is in no line of the report**, if it is neither in the root nor
in the texts of the events. -/
theorem not_mem_lines {c : Char} (hc : ¬IsPrintable c) {root : String} {es : List Event}
    (hroot : c ∉ root.toList) (htexts : ∀ e ∈ es, ∀ text ∈ e.texts, c ∉ text.toList) :
    ∀ line ∈ bannerLine root :: es.flatMap lines, c ∉ line.toList := by
  intro line hline
  rcases List.mem_cons.mp hline with rfl | hline
  · apply (madeOf_bannerLine root).not_mem hc
    intro text htext
    obtain rfl := List.mem_singleton.mp htext
    exact hroot
  · obtain ⟨e, he, hmem⟩ := List.mem_flatMap.mp hline
    exact (madeOf_lines hmem).not_mem hc (htexts e he)

end TextReport

end Wording
