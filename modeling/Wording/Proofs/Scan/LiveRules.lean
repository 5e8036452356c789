import Mathlib.Data.List.Infix
import Wording.Proofs.Rules.WhiteSpace
import Wording.Proofs.Text.Pieces
import Wording.Scan.Finding

/-!
# Rules that can fire

* `Finding.IsOf` — a finding is one of a rule: it has the rule's kind, pattern and suggestion.
  There is one such rule (`Finding.IsOf.unique`).
* `exists_of_mem_findingsFrom` — each finding is one of a rule that fires in a line of the text.
* `Text.not_mem_of_mem_lines` — no line has a line feed in it.
* **`RuleSet.finds_somewhere_iff`** — there is a text in which a rule has a finding exactly when its
  pattern has no line feed.

A pattern without a line feed is a line of its own.  The text made of it has a carriage return
behind it: the line then ends before that one, and a carriage return at the end of the pattern
stays.
-/

namespace Wording

/-! ## Findings and their rules -/

/-- The finding is one of the rule. -/
structure Finding.IsOf (f : Finding) (rule : Rule) : Prop where
  kind : f.kind = rule.kind
  pattern : f.pattern = rule.pattern
  suggestion : f.suggestion = rule.suggestion?

/-- A finding is one of one rule only. -/
theorem Finding.IsOf.unique {f : Finding} {rule other : Rule} (h : f.IsOf rule)
    (h' : f.IsOf other) : rule = other := by
  have hkind := h.kind.symm.trans h'.kind
  have hpattern := h.pattern.symm.trans h'.pattern
  have hsuggestion := h.suggestion.symm.trans h'.suggestion
  match rule, other with
  | .phrase ⟨pattern, suggestion, key, hkey⟩, .phrase ⟨pattern', suggestion', key', hkey'⟩ =>
      obtain rfl : pattern = pattern' := hpattern
      obtain rfl : suggestion = suggestion' := Option.some.inj hsuggestion
      obtain rfl : key = key' := hkey.trans hkey'.symm
      rfl
  | .caution ⟨pattern⟩, .caution ⟨pattern'⟩ =>
      obtain rfl : pattern = pattern' := hpattern
      rfl
  | .phrase _, .caution _ => cases hkind
  | .caution _, .phrase _ => cases hkind

/-- Each finding is one of a rule that fires in a line, and has the excerpt of that line. -/
theorem exists_of_mem_findingsFrom {rules : RuleSet} {path : String} {limit number : Nat}
    {lines : List (List Char)} {f : Finding}
    (h : f ∈ findingsFrom rules path limit number lines) :
    ∃ line ∈ lines, ∃ rule ∈ rules.rules, rule.fires (.ofText line) = true ∧ f.IsOf rule ∧
      f.excerpt = String.ofList (Text.excerpt limit line) := by
  induction lines generalizing number with
  | nil => cases h
  | cons line rest ih =>
      rw [findingsFrom, List.mem_append] at h
      rcases h with hline | hrest
      · obtain ⟨hit, hhit, rfl⟩ := List.mem_map.mp hline
        obtain ⟨rule, hrule, rfl⟩ := List.mem_map.mp hhit
        obtain ⟨hmem, hfires⟩ := List.mem_filter.mp hrule
        exact ⟨line, List.mem_cons_self, rule, hmem, hfires, ⟨rfl, rfl, rfl⟩, rfl⟩
      · obtain ⟨found, hfound, hrule⟩ := ih hrest
        exact ⟨found, List.mem_cons_of_mem _ hfound, hrule⟩

/-- A rule that fires in the first line has a finding there. -/
theorem exists_mem_findingsFrom {rules : RuleSet} {rule : Rule} (hrule : rule ∈ rules.rules)
    {line : List Char} (hfires : rule.fires (.ofText line) = true) (path : String)
    (limit number : Nat) (rest : List (List Char)) :
    ∃ f ∈ findingsFrom rules path limit number (line :: rest), f.IsOf rule := by
  have hhit : rule.hit ∈ rules.hits (.ofText line) :=
    List.mem_map_of_mem (List.mem_filter.mpr ⟨hrule, hfires⟩)
  exact ⟨_, List.mem_append_left _ (List.mem_map_of_mem hhit), ⟨rfl, rfl, rfl⟩⟩

/-! ## Lines -/

namespace Text

/-- A line has no characters that its piece of the text has not. -/
theorem mem_of_mem_dropCarriageReturn {piece : List Char} {c : Char}
    (h : c ∈ dropCarriageReturn piece) : c ∈ piece := by
  unfold dropCarriageReturn at h
  split_ifs at h
  · exact List.mem_of_mem_dropLast h
  · exact h

/-- **No line has a line feed in it.** -/
theorem not_mem_of_mem_lines {text line : List Char} (h : line ∈ lines text) : '\n' ∉ line := by
  obtain ⟨piece, hpiece, rfl⟩ := List.mem_map.mp h
  intro hmem
  exact not_mem_of_mem_pieces hpiece (mem_of_mem_dropCarriageReturn hmem)

/-- A text without a line feed is the one line of the text with a carriage return behind it. -/
theorem lines_concat_return {text : List Char} (h : '\n' ∉ text) :
    lines (text ++ ['\r']) = [text] := by
  have hmore : '\n' ∉ text ++ ['\r'] := by simpa using h
  rw [lines, pieces_eq_singleton hmore, List.map_singleton, dropCarriageReturn,
    List.getLast?_concat, if_pos rfl, List.dropLast_concat]

end Text

/-! ## Which rules can fire -/

/-- **A rule has a finding in some text exactly when its pattern has no line feed.**  The text does
not depend on the path of the file, on the limit of excerpts, or on the other rules. -/
theorem RuleSet.finds_somewhere_iff {rules : RuleSet} {rule : Rule} (hrule : rule ∈ rules.rules)
    (path : String) (limit : Nat) :
    (∃ content, ∃ f ∈ SourceFile.findings ⟨path, content⟩ rules limit, f.IsOf rule) ↔
      '\n' ∉ rule.pattern.toList := by
  constructor
  · rintro ⟨content, f, hf, hof⟩ hfeed
    obtain ⟨line, hline, other, -, hfires, hother, -⟩ := exists_of_mem_findingsFrom hf
    obtain rfl := hof.unique hother
    -- the line feed of the pattern is met by a line feed of the line
    obtain ⟨d, hd, hsame⟩ := Rule.exists_mem_of_fires hfires hfeed
    obtain rfl := hsame (.inl (by decide +kernel))
    exact Text.not_mem_of_mem_lines hline hd
  · intro hfeed
    refine ⟨String.ofList (rule.pattern.toList ++ ['\r']), ?_⟩
    unfold SourceFile.findings
    rw [String.toList_ofList, Text.lines_concat_return hfeed]
    exact exists_mem_findingsFrom hrule rule.fires_pattern path limit 1 []

/-- Of two accepted rules, one is written over two lines and the other ends in a carriage return. -/
theorem RuleSet.finds_somewhere_iff_two_rules :
    ∃ rules, RuleSet.build [("calm\ndown", "rest")] ["Fix\r"] = .ok rules ∧
      (¬∃ content, ∃ f ∈ SourceFile.findings ⟨"a.js", content⟩ rules 100,
        f.IsOf (.phrase { pattern := "calm\ndown", suggestion := "rest" })) ∧
      ∃ content, ∃ f ∈ SourceFile.findings ⟨"a.js", content⟩ rules 100,
        f.IsOf (.caution { pattern := "Fix\r" }) := by
  let rules : RuleSet := ⟨[{ pattern := "calm\ndown", suggestion := "rest" }],
    [{ pattern := "Fix\r" }]⟩
  have hbuild : RuleSet.build [("calm\ndown", "rest")] ["Fix\r"] = .ok rules := by decide +kernel
  have hphrase : .phrase { pattern := "calm\ndown", suggestion := "rest" } ∈ rules.rules :=
    List.mem_cons_self
  have hcaution : .caution { pattern := "Fix\r" } ∈ rules.rules :=
    List.mem_cons_of_mem _ List.mem_cons_self
  refine ⟨rules, hbuild, ?_, (RuleSet.finds_somewhere_iff hcaution "a.js" 100).mpr (by decide)⟩
  rw [RuleSet.finds_somewhere_iff hphrase "a.js" 100]
  decide

end Wording
