import Wording.Proofs.Text.CaseFolding
import Wording.Proofs.Text.WholeWord
import Wording.RuleSet

/-!
# Duplicates among caution words

* `Text.occursAsWord_eq_iff` — two texts stand in the same lines as whole words exactly when they
  are the same up to case.
* `RuleSet.duplicatePattern_pair_iff` — of two caution words the second is a duplicate exactly when
  the two have the same lower-case form.
* **`RuleSet.duplicate_cautions_iff`** — so a duplicate is a word that fires in the same lines as
  another, if there are no disputed characters in the two.
* `RuleSet.duplicates_disagree` — with disputed characters neither follows from the other.

A word stands in the line that is made of nothing but the word.  If another word stands in the same
lines, it stands in this one, and so is no longer; therefore the two are equally long, and each
stands in the other.
-/

namespace Wording

namespace Text

/-! ## Words that stand in the same lines -/

/-- Texts are the same up to case one for one exactly when their folded forms are equal. -/
theorem forall₂_simpleFold_iff {text run : List Char} :
    List.Forall₂ (fun p c => simpleFold p = simpleFold c) text run ↔
      text.map simpleFold = run.map simpleFold := by
  rw [← List.forall₂_eq_eq_eq, List.forall₂_map_left_iff, List.forall₂_map_right_iff]

/-- Where a text stands as a whole word, so does any that is the same up to case. -/
theorem IsWordAt.of_map_eq {p q line : List Char} {i : Nat}
    (hsame : p.map simpleFold = q.map simpleFold) (h : IsWordAt p line i) : IsWordAt q line i := by
  have hlength : p.length = q.length := by
    simpa using congrArg List.length hsame
  refine ⟨⟨h.le_length, ?_⟩, h.before, ?_⟩
  · rw [forall₂_simpleFold_iff, ← hsame, ← hlength, ← forall₂_simpleFold_iff]
    exact h.same
  · rw [← hlength]
    exact h.after

/-- A text stands as a whole word in the line that is made of nothing else. -/
theorem isWordAt_self (text : List Char) : IsWordAt text text 0 := by
  refine ⟨⟨Nat.zero_le _, ?_⟩, ?_, ?_⟩
  · rw [forall₂_simpleFold_iff, List.drop_zero, List.take_length]
  · intro c hlt
    omega
  · intro c hc
    rw [Nat.zero_add, List.getElem?_length] at hc
    cases hc

/-- Behind a run there is as much of the line as the text is long. -/
theorem IsRunAt.add_length_le {text line : List Char} {i : Nat} (h : IsRunAt text line i) :
    i + text.length ≤ line.length := by
  have hlength := h.same.length_eq
  have hle := h.le_length
  rw [List.length_take, List.length_drop] at hlength
  omega

/-- A text that stands in another of the same length is the same up to case. -/
theorem map_eq_of_isRunAt {p q : List Char} {i : Nat} (hlength : p.length = q.length)
    (h : IsRunAt p q i) : p.map simpleFold = q.map simpleFold := by
  have hle := h.add_length_le
  have hi : i = 0 := by omega
  have hsame := forall₂_simpleFold_iff.mp h.same
  rwa [hi, List.drop_zero, hlength, List.take_length] at hsame

/-- **Two texts stand in the same lines as whole words exactly when they are the same up to
case.** -/
theorem occursAsWord_eq_iff {p q : List Char} :
    (∀ line, occursAsWord p line = occursAsWord q line) ↔
      p.map simpleFold = q.map simpleFold := by
  constructor
  · intro h
    have hstands : ∀ text, occursAsWord text text = true := fun text =>
      (occursAsWord_iff text text).mpr ⟨0, isWordAt_self text⟩
    -- each of the two stands in the other
    obtain ⟨i, hp⟩ := (occursAsWord_iff p q).mp (by rw [h, hstands])
    obtain ⟨j, hq⟩ := (occursAsWord_iff q p).mp (by rw [← h, hstands])
    have hple := hp.toIsRunAt.add_length_le
    have hqle := hq.toIsRunAt.add_length_le
    exact map_eq_of_isRunAt (by omega) hp.toIsRunAt
  · intro h line
    rw [Bool.eq_iff_iff, occursAsWord_iff, occursAsWord_iff]
    constructor
    · rintro ⟨i, hi⟩
      exact ⟨i, hi.of_map_eq h⟩
    · rintro ⟨i, hi⟩
      exact ⟨i, hi.of_map_eq h.symm⟩

end Text

/-! ## Tables of two caution words -/

namespace RuleSet

variable {p q : String}

/-- The table of the two caution words is refused for a duplicate. -/
def RefusesDuplicate (p q : String) : Prop :=
  ∃ kind pattern first, build [] [p, q] = .error (.duplicatePattern kind pattern first)

/-- The first fault of two patterns that are not blank is that they have the same key. -/
theorem firstFault?_pair (kind : RuleKind) (hp : isBlankPattern p = false)
    (hq : isBlankPattern q = false) :
    firstFault? kind [p, q] =
      if patternKey p = patternKey q then some (.duplicatePattern kind q p) else none := by
  unfold firstFault?
  simp only [firstFaultAfter, hp, hq, List.lookup_nil, Bool.false_eq_true, if_false]
  by_cases h : patternKey p = patternKey q
  · simp [h]
  · have hbeq : (patternKey q == patternKey p) = false := beq_false_of_ne fun heq => h heq.symm
    simp [h, List.lookup_cons, hbeq]

/-- **Of two caution words the second is a duplicate exactly when the two have the same lower-case
form.** -/
theorem duplicatePattern_pair_iff (hp : isBlankPattern p = false) (hq : isBlankPattern q = false) :
    RefusesDuplicate p q ↔ Text.lowercase p.toList = Text.lowercase q.toList := by
  have hphrases : firstFault? .phrase (([] : List (String × String)).map (·.1)) = none := rfl
  unfold RefusesDuplicate build
  rw [hphrases, firstFault?_pair .caution hp hq]
  by_cases h : patternKey p = patternKey q
  · rw [if_pos h]
    exact iff_of_true ⟨_, _, _, rfl⟩ h
  · rw [if_neg h]
    refine iff_of_false ?_ h
    rintro ⟨kind, pattern, first, hbuild⟩
    cases hbuild

/-- Two caution words fire in the same lines exactly when they are the same up to case. -/
theorem fires_eq_iff :
    (∀ line, (CautionRule.mk p).fires line = (CautionRule.mk q).fires line) ↔
      p.toList.map Text.simpleFold = q.toList.map Text.simpleFold := by
  rw [← Text.occursAsWord_eq_iff]
  constructor
  · intro h text
    exact h (.ofText text)
  · intro h line
    exact h line.text

/-- **When the second of two caution words is a duplicate, and when the two fire in the same
lines.**  The one goes by the lower-case forms of the words and the other by folding, and for words
without disputed characters that is the same. -/
theorem duplicate_cautions_iff (hp : isBlankPattern p = false) (hq : isBlankPattern q = false) :
    (RefusesDuplicate p q ↔ Text.lowercase p.toList = Text.lowercase q.toList) ∧
      ((∀ line, (CautionRule.mk p).fires line = (CautionRule.mk q).fires line) ↔
        p.toList.map Text.simpleFold = q.toList.map Text.simpleFold) ∧
      ((∀ c ∈ p.toList ++ q.toList, Text.isDisputed c = false) →
        (RefusesDuplicate p q ↔
          ∀ line, (CautionRule.mk p).fires line = (CautionRule.mk q).fires line)) := by
  refine ⟨duplicatePattern_pair_iff hp hq, fires_eq_iff, fun hdisputed => ?_⟩
  rw [duplicatePattern_pair_iff hp hq, fires_eq_iff]
  exact Text.lowercase_eq_iff_of_not_disputed
    (fun c hc => hdisputed c (List.mem_append_left _ hc))
    fun c hc => hdisputed c (List.mem_append_right _ hc)

/-- A word in two spellings that differ in case. -/
theorem duplicate_cautions_iff_fix :
    RefusesDuplicate "Fix" "FIX" ∧
      ∀ line, (CautionRule.mk "Fix").fires line = (CautionRule.mk "FIX").fires line := by
  obtain ⟨hduplicate, -, hsame⟩ := duplicate_cautions_iff (p := "Fix") (q := "FIX")
    (by decide +kernel) (by decide +kernel)
  have hrefused : RefusesDuplicate "Fix" "FIX" := hduplicate.mpr (by decide +kernel)
  have hdisputed : ("Fix".toList ++ "FIX".toList).any Text.isDisputed = false := by
    decide +kernel
  refine ⟨hrefused, (hsame fun c hc => ?_).mp hrefused⟩
  simpa using List.any_eq_false.mp hdisputed c hc

/-- **With disputed characters neither follows from the other**: long s and `s` are accepted side
by side and fire in the same lines; capital I with a dot is refused beside `i` with a combining dot,
and the two do not fire in the same lines. -/
theorem duplicates_disagree :
    (¬RefusesDuplicate "s" "ſ" ∧
        ∀ line, (CautionRule.mk "s").fires line = (CautionRule.mk "ſ").fires line) ∧
      RefusesDuplicate "İ" "i\u0307" ∧
        ¬∀ line, (CautionRule.mk "İ").fires line = (CautionRule.mk "i\u0307").fires line := by
  refine ⟨⟨?_, ?_⟩, ?_, ?_⟩
  · rw [duplicatePattern_pair_iff (by decide +kernel) (by decide +kernel)]
    decide +kernel
  · rw [fires_eq_iff]
    decide +kernel
  · rw [duplicatePattern_pair_iff (by decide +kernel) (by decide +kernel)]
    decide +kernel
  · rw [fires_eq_iff]
    decide +kernel

end RuleSet

end Wording
