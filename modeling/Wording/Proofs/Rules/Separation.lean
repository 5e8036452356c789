import Wording.Proofs.Rules.Faults
import Wording.Proofs.Text.Verbatim

/-!
# Phrases that are told apart by a line

* `PhraseRule.Separated` — there is a line in which one of two phrases fires and the other does not.
* **`PhraseRule.separated_iff`** — two phrases are told apart exactly when their keys differ.
* **`RuleSet.build_phrases_iff_separated`** — a table of phrases is accepted exactly when any two of
  them are told apart; of a table that is refused, two phrases fire in the same lines.

A phrase fires in the line that is its own pattern, and each key is part of itself.  If each of two
phrases fires in the other's pattern, each key is part of the other, so the keys are equal.  So one
of the two patterns is the line, also if one key is part of the other.  Nothing is used of lower
case but that a text has one.
-/

namespace Wording

namespace PhraseRule

/-- The rule with the pattern and the suggestion. -/
def ofTexts (pattern suggestion : String) : PhraseRule where
  pattern := pattern
  suggestion := suggestion

/-- The rule of an entry of the table of phrases. -/
def ofEntry (entry : String × String) : PhraseRule :=
  .ofTexts entry.1 entry.2

/-- There is a line, which may be any text, in which exactly one of the two phrases fires. -/
def Separated (p q : PhraseRule) : Prop :=
  ∃ line : Line, p.fires line ≠ q.fires line

/-- The order of the two phrases does not matter. -/
theorem Separated.symm {p q : PhraseRule} (h : Separated p q) : Separated q p := by
  obtain ⟨line, hline⟩ := h
  exact ⟨line, hline.symm⟩

/-- The key of the pattern alone decides in which lines a phrase fires. -/
theorem fires_eq_of_key_eq {p q : PhraseRule} (h : p.key = q.key) (line : Line) :
    p.fires line = q.fires line := by
  rw [fires, fires, h]

/-- A phrase fires in the pattern of another if its key is part of the other's key. -/
theorem fires_pattern_iff {p q : PhraseRule} :
    p.fires (.ofText q.pattern.toList) = true ↔ p.key <:+: q.key := by
  rw [fires_iff, p.key_eq, q.key_eq]
  rfl

/-- A phrase fires in its own pattern. -/
theorem fires_own_pattern (p : PhraseRule) : p.fires (.ofText p.pattern.toList) = true :=
  fires_pattern_iff.mpr List.infix_rfl

/-- Phrases that fire in each other's patterns have the same key. -/
theorem key_eq_of_fires {p q : PhraseRule} (hp : p.fires (.ofText q.pattern.toList) = true)
    (hq : q.fires (.ofText p.pattern.toList) = true) : p.key = q.key := by
  have hpq : p.key <:+: q.key := fires_pattern_iff.mp hp
  have hqp : q.key <:+: p.key := fires_pattern_iff.mp hq
  exact hpq.eq_of_length_le hqp.length_le

/-- **Of two phrases with different keys, one does not fire in the pattern of the other.** -/
theorem fires_ne_of_key_ne {p q : PhraseRule} (h : p.key ≠ q.key) :
    p.fires (.ofText q.pattern.toList) ≠ q.fires (.ofText q.pattern.toList) ∨
      p.fires (.ofText p.pattern.toList) ≠ q.fires (.ofText p.pattern.toList) := by
  rw [fires_own_pattern q, fires_own_pattern p]
  by_cases hp : p.fires (.ofText q.pattern.toList) = true
  · right
    intro hq
    exact h (key_eq_of_fires hp hq.symm)
  · exact .inl hp

/-- **Two phrases are told apart by a line exactly when their keys differ.** -/
theorem separated_iff {p q : PhraseRule} : Separated p q ↔ p.key ≠ q.key := by
  constructor
  · rintro ⟨line, hline⟩ hkey
    exact hline (fires_eq_of_key_eq hkey line)
  · intro hkey
    rcases fires_ne_of_key_ne hkey with hq | hp
    · exact ⟨_, hq⟩
    · exact ⟨_, hp⟩

end PhraseRule

namespace RuleSet

open PhraseRule

/-- A table of phrases alone becomes its rules, or is refused for its first fault. -/
theorem build_phrases (entries : List (String × String)) :
    build entries [] =
      match firstFault? .phrase (entries.map (·.1)) with
      | some fault => .error fault
      | none => .ok ⟨entries.map .ofEntry, []⟩ := by
  have hcautions : firstFault? .caution [] = none := rfl
  rw [build, hcautions]
  cases firstFault? .phrase (entries.map (·.1)) <;> rfl

/-- Patterns at two positions have different keys exactly when the phrases are told apart. -/
theorem nodup_keys_iff_separated {entries : List (String × String)} :
    ((entries.map (·.1)).map patternKey).Nodup ↔
      ∀ i j (hi : i < entries.length) (hj : j < entries.length), i ≠ j →
        Separated (.ofEntry entries[i]) (.ofEntry entries[j]) := by
  have hpairwise : ((entries.map (·.1)).map patternKey).Nodup ↔
      entries.Pairwise fun e e' => Separated (.ofEntry e) (.ofEntry e') := by
    rw [List.map_map, List.Nodup, List.pairwise_map]
    simp only [separated_iff]
    rfl
  rw [hpairwise, List.pairwise_iff_getElem]
  constructor
  · intro h i j hi hj hne
    rcases Nat.lt_or_gt_of_ne hne with hlt | hgt
    · exact h i j hi hj hlt
    · exact (h j i hj hi hgt).symm
  · intro h i j hi hj hlt
    exact h i j hi hj (Nat.ne_of_lt hlt)

/-- **A table of phrases is accepted exactly when any two of them are told apart by a line**, if no
pattern is blank.  An accepted table has the rules of its entries, in their order.  A table is
refused only for a pattern whose rule fires in the same lines as that of an earlier one. -/
theorem build_phrases_iff_separated {entries : List (String × String)}
    (hblank : ∀ e ∈ entries, isBlankPattern e.1 = false) :
    ((∃ rules, build entries [] = .ok rules) ↔
        ∀ i j (hi : i < entries.length) (hj : j < entries.length), i ≠ j →
          ∃ line, (ofEntry entries[i]).fires line ≠ (ofEntry entries[j]).fires line) ∧
      (∀ rules, build entries [] = .ok rules →
        rules.phrases = entries.map ofEntry ∧ rules.cautions = []) ∧
      ∀ fault, build entries [] = .error fault →
        ∃ i j, ∃ (hi : i < entries.length) (hj : j < entries.length), i < j ∧
          fault = .duplicatePattern .phrase entries[j].1 entries[i].1 ∧
          ∀ line, (ofEntry entries[i]).fires line = (ofEntry entries[j]).fires line := by
  have hfaultless : Faultless (entries.map (·.1)) ↔
      ∀ i j (hi : i < entries.length) (hj : j < entries.length), i ≠ j →
        Separated (.ofEntry entries[i]) (.ofEntry entries[j]) := by
    rw [← nodup_keys_iff_separated]
    exact ⟨Faultless.nodup_keys, fun hnodup => ⟨List.forall_mem_map.mpr hblank, hnodup⟩⟩
  rw [build_phrases]
  cases hfirst : firstFault? .phrase (entries.map (·.1)) with
  | none =>
      refine ⟨iff_of_true ⟨_, rfl⟩ (hfaultless.mp (firstFault?_eq_none_iff.mp hfirst)), ?_, nofun⟩
      rintro rules ⟨⟩
      exact ⟨rfl, rfl⟩
  | some fault =>
      obtain ⟨j, hfault, -⟩ := exists_faultAt_of_firstFault? hfirst
      refine ⟨iff_of_false nofun (mt hfaultless.mpr hfault.not_faultless), nofun, ?_⟩
      rintro fault ⟨⟩
      cases hfault with
      | empty hp hempty =>
          obtain ⟨e, he, rfl⟩ := List.mem_map.mp (List.mem_of_getElem? hp)
          rw [hblank e he] at hempty
          cases hempty
      | @duplicate p q i hq _ hlt hp hkey =>
          rw [List.getElem?_map, Option.map_eq_some_iff] at hp hq
          obtain ⟨e, he, rfl⟩ := hp
          obtain ⟨e', he', rfl⟩ := hq
          obtain ⟨hi, rfl⟩ := List.getElem?_eq_some_iff.mp he
          obtain ⟨hj, rfl⟩ := List.getElem?_eq_some_iff.mp he'
          exact ⟨i, j, hi, hj, hlt, rfl, fires_eq_of_key_eq hkey⟩

/-- Of two phrases one of which is part of the other, each is accepted. -/
theorem build_phrases_iff_separated_must :
    (∃ rules, build [("Must", "You can"), ("You must", "You may")] [] = .ok rules) ∧
      ∃ line, (ofEntry ("Must", "You can")).fires line ≠
        (ofEntry ("You must", "You may")).fires line := by
  have hblank : ∀ e ∈ [("Must", "You can"), ("You must", "You may")],
      isBlankPattern e.1 = false := by decide +kernel
  obtain ⟨haccepted, -, -⟩ := build_phrases_iff_separated hblank
  have hok : ∃ rules, build [("Must", "You can"), ("You must", "You may")] [] = .ok rules :=
    ⟨_, rfl⟩
  exact ⟨hok, haccepted.mp hok 0 1 (by decide) (by decide) (by decide)⟩

end RuleSet

end Wording
