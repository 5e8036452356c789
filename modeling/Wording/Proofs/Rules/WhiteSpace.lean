import Wording.Proofs.Rules.Duplicates
import Wording.Proofs.Rules.Separation
import Wording.Proofs.Rules.Tables
import Wording.Proofs.Text.WhiteSpace

/-!
# White space in patterns

* **`Rule.exists_mem_of_fires`** — where a rule fires, each character of its pattern is met by one
  of the line, and white space only by the same white space.
* `Rule.fires_pattern` — a rule fires in the line that is its pattern.
* `RuleSet.exists_not_isBlank_of_build` — the rules of an accepted table have more than white space
  in their patterns.
* **`RuleSet.hits_eq_nil_of_blank`** — so they do not fire in a blank line.

A phrase is found in lower case and a caution word up to case.  Neither makes white space of
anything else or anything else of white space, so both kinds of rules are looked at together.
-/

namespace Wording

/-- Each character of a text that stands in a line up to case is met by one of the line. -/
theorem Text.exists_mem_of_isRunAt {text line : List Char} {i : Nat} (h : IsRunAt text line i)
    {c : Char} (hc : c ∈ text) : ∃ d ∈ line, simpleFold c = simpleFold d := by
  have hsame := forall₂_simpleFold_iff.mp h.same
  have hfold : simpleFold c ∈ ((line.drop i).take text.length).map simpleFold := by
    rw [← hsame]
    exact List.mem_map_of_mem hc
  obtain ⟨d, hd, heq⟩ := List.mem_map.mp hfold
  exact ⟨d, List.mem_of_mem_drop (List.mem_of_mem_take hd), heq.symm⟩

namespace Rule

variable {rule : Rule} {line : List Char}

/-- **Where a rule fires, each character of its pattern is met by one of the line**, and if one of
the two is white space, they are the same. -/
theorem exists_mem_of_fires (h : rule.fires (.ofText line) = true) {c : Char}
    (hc : c ∈ rule.pattern.toList) :
    ∃ d ∈ line, Text.isBlank c = true ∨ Text.isBlank d = true → c = d := by
  cases rule with
  | phrase r => exact Text.exists_mem_of_infix_lowercase (PhraseRule.fires_iff.mp h) hc
  | caution r =>
      obtain ⟨i, hword⟩ := (Text.occursAsWord_iff _ _).mp h
      obtain ⟨d, hd, hsame⟩ := Text.exists_mem_of_isRunAt hword.toIsRunAt hc
      exact ⟨d, hd, Text.keepsBlank_simpleFold.eq_of_apply_eq hsame⟩

/-- A rule fires in the line that is its pattern. -/
theorem fires_pattern (rule : Rule) : rule.fires (.ofText rule.pattern.toList) = true := by
  cases rule with
  | phrase r => exact r.fires_own_pattern
  | caution r => exact (Text.occursAsWord_iff _ _).mpr ⟨0, Text.isWordAt_self _⟩

end Rule

namespace RuleSet

variable {phrases : List (String × String)} {cautions : List String} {rules : RuleSet}

/-- The rules of an accepted table have more than white space in their patterns. -/
theorem exists_not_isBlank_of_build (hbuild : build phrases cautions = .ok rules) {rule : Rule}
    (hrule : rule ∈ rules.rules) : ∃ c ∈ rule.pattern.toList, Text.isBlank c = false := by
  obtain ⟨hphrases, hcautions⟩ := exists_build_eq_ok_iff.mp ⟨rules, hbuild⟩
  rw [firstFault?_eq_none_iff, faultless_iff_pairwise] at hphrases hcautions
  obtain ⟨hphrase, hcaution⟩ := entries_of_build hbuild
  rcases List.mem_append.mp hrule with hmem | hmem
  · obtain ⟨r, hr, rfl⟩ := List.mem_map.mp hmem
    refine hphrases.1 r.pattern ?_
    rw [← hphrase, List.map_map]
    exact List.mem_map_of_mem hr
  · obtain ⟨r, hr, rfl⟩ := List.mem_map.mp hmem
    refine hcautions.1 r.pattern ?_
    rw [← hcaution]
    exact List.mem_map_of_mem hr

/-- No rule of an accepted table fires in a blank line. -/
theorem not_fires_of_blank (hbuild : build phrases cautions = .ok rules) {rule : Rule}
    (hrule : rule ∈ rules.rules) {line : List Char} (hline : ∀ c ∈ line, Text.isBlank c = true) :
    rule.fires (.ofText line) = false := by
  by_contra hfires
  rw [Bool.not_eq_false] at hfires
  obtain ⟨c, hc, hnot⟩ := exists_not_isBlank_of_build hbuild hrule
  obtain ⟨d, hd, hsame⟩ := Rule.exists_mem_of_fires hfires hc
  obtain rfl := hsame (.inr (hline d hd))
  rw [hline c hd] at hnot
  cases hnot

/-- **An accepted table has no hits in a blank line.** -/
theorem hits_eq_nil_of_blank (hbuild : build phrases cautions = .ok rules) {line : List Char}
    (hline : ∀ c ∈ line, Text.isBlank c = true) : rules.hits (.ofText line) = [] := by
  unfold hits
  rw [List.map_eq_nil_iff, List.filter_eq_nil_iff]
  intro rule hrule
  simp [not_fires_of_blank hbuild hrule hline]

end RuleSet

end Wording
