import Mathlib.Data.List.Forall2
import Wording.Rule

/-!
# Whole-word search is exact

* `Text.IsRunAt text line i` — the characters of the line from position `i` on are those of the
  text up to case, one for one.
* `Text.IsWordAt text line i` — such a run that no word character touches on either side.
* `Text.firstRun?_eq_some_iff`, `Text.not_isRunAt_of_firstRun?_eq_none` — the search returns the
  leftmost run and fails only when there is none.
* **`CautionRule.fires_iff_exists_isWordAt`** — a caution word fires in a line exactly when it
  stands at some position as a whole word.

The search starts again one character after a rejected run.  What it must not lose is a bounded
run that overlaps the rejected one; `occursAsWordAfter_iff` carries this by saying what the loop
finds in the line that is left, seen from the character in front of it.  The loop ends because
each round leaves a shorter line.
-/

namespace Wording

namespace Text

/-! ## Runs and whole words -/

/-- The characters of the line from position `i` on are those of the text up to case. -/
structure IsRunAt (text line : List Char) (i : Nat) : Prop where
  le_length : i ≤ line.length
  same : List.Forall₂ (fun p c => simpleFold p = simpleFold c) text
    ((line.drop i).take text.length)

/-- The text stands at position `i` of the line up to case, and neither the character in front of
the run nor the one behind it, where there are such, is a word character. -/
structure IsWordAt (text chars : List Char) (i : Nat) : Prop extends IsRunAt text chars i where
  before : ∀ c, 0 < i → chars[i - 1]? = some c → isWordChar c = false
  after : ∀ c, chars[i + text.length]? = some c → isWordChar c = false

/-! ## The run at the start of a line -/

/-- What follows the text is what is left of the line behind a run that starts it. -/
theorem afterRun?_eq_some_iff {text line rest : List Char} :
    afterRun? text line = some rest ↔
      List.Forall₂ (fun p c => simpleFold p = simpleFold c) text (line.take text.length) ∧
        rest = line.drop text.length := by
  induction text generalizing line with
  | nil => simp [afterRun?, eq_comm]
  | cons p text ih =>
      cases line with
      | nil => simp [afterRun?]
      | cons c line =>
          by_cases h : simpleFold p = simpleFold c
          · simp [afterRun?, sameUpToCase, h, ih]
          · simp [afterRun?, sameUpToCase, h]

/-- Position `i` starts a run exactly when something follows the text from there on. -/
theorem isRunAt_iff {text line : List Char} {i : Nat} (hi : i ≤ line.length) :
    IsRunAt text line i ↔ afterRun? text (line.drop i) = some (line.drop (i + text.length)) := by
  rw [afterRun?_eq_some_iff, List.drop_drop]
  exact ⟨fun h => ⟨h.same, rfl⟩, fun h => ⟨hi, h.1⟩⟩

/-- Nothing follows the text where no run starts. -/
theorem afterRun?_eq_none_of_not_isRunAt {text line : List Char} {i : Nat} (hi : i ≤ line.length)
    (h : ¬IsRunAt text line i) : afterRun? text (line.drop i) = none := by
  rcases hr : afterRun? text (line.drop i) with _ | rest
  · rfl
  · exact absurd ⟨hi, (afterRun?_eq_some_iff.mp hr).1⟩ h

/-! ## The leftmost run -/

/-- The character in front of position `i` of a line that follows `before`. -/
def charBefore (before : Option Char) (chars : List Char) (i : Nat) : Option Char :=
  if i = 0 then before else chars[i - 1]?

/-- The run at position `i`, with the character in front of it and the line behind it. -/
def runAt (text : List Char) (before : Option Char) (line : List Char) (i : Nat) : Run where
  before := charBefore before line i
  start := line.drop i
  after := line.drop (i + text.length)

/-- One character further on, the first character of the line is the one in front. -/
theorem charBefore_cons_succ (before : Option Char) (c : Char) (line : List Char) (i : Nat) :
    charBefore before (c :: line) (i + 1) = charBefore (some c) line i := by
  cases i with
  | zero => rfl
  | succ i => simp [charBefore]

/-- One character further on, a run is the same run of the rest. -/
theorem runAt_cons_succ (text : List Char) (before : Option Char) (c : Char) (line : List Char)
    (i : Nat) : runAt text before (c :: line) (i + 1) = runAt text (some c) line i := by
  unfold runAt
  rw [charBefore_cons_succ, List.drop_succ_cons, Nat.add_right_comm, List.drop_succ_cons]

/-- One character further on, a run starts where it starts in the rest. -/
theorem isRunAt_cons_succ {text line : List Char} {c : Char} {i : Nat} :
    IsRunAt text (c :: line) (i + 1) ↔ IsRunAt text line i :=
  ⟨fun h => ⟨Nat.le_of_succ_le_succ h.le_length, h.same⟩,
    fun h => ⟨Nat.succ_le_succ h.le_length, h.same⟩⟩

/-- The search looks at the start of the line first. -/
theorem firstRun?_of_isRunAt_zero {text line : List Char} (before : Option Char)
    (h : IsRunAt text line 0) : firstRun? text before line = some (runAt text before line 0) := by
  have hafter := (isRunAt_iff (Nat.zero_le _)).mp h
  rw [List.drop_zero] at hafter
  cases line with
  | nil => simp [firstRun?, runAt, charBefore, hafter]
  | cons c line => simp [firstRun?, runAt, charBefore, hafter]

/-- When no run starts the line, the search goes on in the rest. -/
theorem firstRun?_cons_of_not_isRunAt_zero {text line : List Char} {c : Char}
    (before : Option Char) (h : ¬IsRunAt text (c :: line) 0) :
    firstRun? text before (c :: line) = firstRun? text (some c) line := by
  have hafter := afterRun?_eq_none_of_not_isRunAt (Nat.zero_le _) h
  rw [List.drop_zero] at hafter
  simp only [firstRun?, hafter]

/-- In an empty line no run starts unless one starts at its beginning. -/
theorem firstRun?_nil_of_not_isRunAt_zero {text : List Char} (before : Option Char)
    (h : ¬IsRunAt text [] 0) : firstRun? text before [] = none := by
  have hafter : afterRun? text [] = none :=
    afterRun?_eq_none_of_not_isRunAt (Nat.zero_le _) h
  simp only [firstRun?, hafter, Option.map_none]

/-- Position `i` starts a run and no earlier position does. -/
structure IsFirstRunAt (text line : List Char) (i : Nat) : Prop extends IsRunAt text line i where
  leftmost : ∀ j < i, ¬IsRunAt text line j

/-- There is one leftmost run at most. -/
theorem IsFirstRunAt.unique {text line : List Char} {i j : Nat} (hi : IsFirstRunAt text line i)
    (hj : IsFirstRunAt text line j) : i = j := by
  rcases Nat.lt_trichotomy i j with h | h | h
  · exact absurd hi.toIsRunAt (hj.leftmost i h)
  · exact h
  · exact absurd hj.toIsRunAt (hi.leftmost j h)

/-- Behind a character that starts no run, the leftmost run is that of the rest. -/
theorem IsFirstRunAt.cons {text line : List Char} {c : Char} {i : Nat}
    (h : IsFirstRunAt text line i) (h0 : ¬IsRunAt text (c :: line) 0) :
    IsFirstRunAt text (c :: line) (i + 1) := by
  refine ⟨isRunAt_cons_succ.mpr h.toIsRunAt, fun j hj hrun => ?_⟩
  cases j with
  | zero => exact h0 hrun
  | succ j => exact h.leftmost j (Nat.lt_of_succ_lt_succ hj) (isRunAt_cons_succ.mp hrun)

/-- What the search returns is the leftmost run. -/
theorem exists_isFirstRunAt_of_firstRun? {text line : List Char} {before : Option Char} {r : Run}
    (h : firstRun? text before line = some r) :
    ∃ i, IsFirstRunAt text line i ∧ r = runAt text before line i := by
  induction line generalizing before with
  | nil =>
      by_cases h0 : IsRunAt text [] 0
      · rw [firstRun?_of_isRunAt_zero before h0] at h
        cases h
        exact ⟨0, ⟨h0, by simp⟩, rfl⟩
      · rw [firstRun?_nil_of_not_isRunAt_zero before h0] at h
        cases h
  | cons c line ih =>
      by_cases h0 : IsRunAt text (c :: line) 0
      · rw [firstRun?_of_isRunAt_zero before h0] at h
        cases h
        exact ⟨0, ⟨h0, by simp⟩, rfl⟩
      · rw [firstRun?_cons_of_not_isRunAt_zero before h0] at h
        obtain ⟨i, hi, rfl⟩ := ih h
        exact ⟨i + 1, hi.cons h0, (runAt_cons_succ text before c line i).symm⟩

/-- The search fails only in a line without runs. -/
theorem not_isRunAt_of_firstRun?_eq_none {text line : List Char} {before : Option Char}
    (h : firstRun? text before line = none) (i : Nat) : ¬IsRunAt text line i := by
  induction line generalizing before i with
  | nil =>
      intro hi
      obtain rfl : i = 0 := Nat.le_zero.mp hi.le_length
      rw [firstRun?_of_isRunAt_zero before hi] at h
      cases h
  | cons c line ih =>
      intro hi
      by_cases h0 : IsRunAt text (c :: line) 0
      · rw [firstRun?_of_isRunAt_zero before h0] at h
        cases h
      · rw [firstRun?_cons_of_not_isRunAt_zero before h0] at h
        cases i with
        | zero => exact h0 hi
        | succ i => exact ih h i (isRunAt_cons_succ.mp hi)

/-- **The search returns the leftmost run**, and every leftmost run is returned. -/
theorem firstRun?_eq_some_iff {text line : List Char} {before : Option Char} {r : Run} :
    firstRun? text before line = some r ↔
      ∃ i, IsFirstRunAt text line i ∧ r = runAt text before line i := by
  constructor
  · exact exists_isFirstRunAt_of_firstRun?
  · rintro ⟨i, hi, rfl⟩
    rcases hr : firstRun? text before line with _ | r
    · exact absurd hi.toIsRunAt (not_isRunAt_of_firstRun?_eq_none hr i)
    · obtain ⟨j, hj, rfl⟩ := exists_isFirstRunAt_of_firstRun? hr
      rw [hi.unique hj]

/-! ## The loop over rejected runs -/

/-- Some position of a line that follows `before` starts a bounded run. -/
def HasBoundedRun (text : List Char) (before : Option Char) (line : List Char) : Prop :=
  ∃ i, IsRunAt text line i ∧ (runAt text before line i).isBounded = true

/-- Behind position `k` the line goes on like its rest. -/
theorem isRunAt_add_of_drop {text line rest : List Char} {c : Char} {k : Nat}
    (hk : line.drop k = c :: rest) (i : Nat) :
    IsRunAt text line (i + k + 1) ↔ IsRunAt text rest i := by
  induction k generalizing line with
  | zero =>
      obtain rfl : line = c :: rest := hk
      exact isRunAt_cons_succ
  | succ k ih =>
      cases line with
      | nil => simp at hk
      | cons d line => exact isRunAt_cons_succ.trans (ih hk)

/-- A run behind position `k` is that run of the rest, seen from the character at `k`. -/
theorem runAt_add_of_drop {line rest : List Char} {c : Char} {k : Nat}
    (hk : line.drop k = c :: rest) (text : List Char) (before : Option Char) (i : Nat) :
    runAt text before line (i + k + 1) = runAt text (some c) rest i := by
  induction k generalizing line before with
  | zero =>
      obtain rfl : line = c :: rest := hk
      exact runAt_cons_succ text before c rest i
  | succ k ih =>
      cases line with
      | nil => simp at hk
      | cons d line => exact (runAt_cons_succ text before d line _).trans (ih hk (some d))

/-- **Nothing is skipped**: when the leftmost run of a line is rejected, every bounded run of the
line starts behind the rejected run's first character. -/
theorem hasBoundedRun_iff_of_drop {text line rest : List Char} {before : Option Char} {c : Char}
    {k : Nat} (hfirst : IsFirstRunAt text line k)
    (hrejected : (runAt text before line k).isBounded = false) (hk : line.drop k = c :: rest) :
    HasBoundedRun text before line ↔ HasBoundedRun text (some c) rest := by
  constructor
  · rintro ⟨i, hi, hbounded⟩
    have hne : i ≠ k := by
      rintro rfl
      rw [hrejected] at hbounded
      cases hbounded
    have hlt : k < i := by
      by_contra hle
      exact hfirst.leftmost i (by omega) hi
    obtain ⟨j, rfl⟩ : ∃ j, i = j + k + 1 := ⟨i - k - 1, by omega⟩
    rw [isRunAt_add_of_drop hk] at hi
    rw [runAt_add_of_drop hk] at hbounded
    exact ⟨j, hi, hbounded⟩
  · rintro ⟨j, hj, hbounded⟩
    refine ⟨j + k + 1, (isRunAt_add_of_drop hk j).mpr hj, ?_⟩
    rw [runAt_add_of_drop hk]
    exact hbounded

/-- When the leftmost run of a line is empty and at its end, there is no other. -/
theorem not_hasBoundedRun_of_drop_eq_nil {text line : List Char} {before : Option Char} {k : Nat}
    (hfirst : IsFirstRunAt text line k)
    (hrejected : (runAt text before line k).isBounded = false) (hk : line.drop k = []) :
    ¬HasBoundedRun text before line := by
  rintro ⟨i, hi, hbounded⟩
  have hend : line.length ≤ k := List.drop_eq_nil_iff.mp hk
  rcases Nat.lt_or_ge i k with h | h
  · exact hfirst.leftmost i h hi
  · obtain rfl : i = k := by
      have := hi.le_length
      omega
    rw [hrejected] at hbounded
    cases hbounded

/-- A round that finds no run ends the loop. -/
theorem occursAsWordAfter_of_firstRun?_eq_none {text line : List Char} {before : Option Char}
    (h : firstRun? text before line = none) : occursAsWordAfter text before line = false := by
  unfold occursAsWordAfter
  split
  · rfl
  · rename_i r hr
    rw [h] at hr
    cases hr

/-- A round that finds a run ends the loop if the run is bounded or starts at the end of the line,
and otherwise goes on behind the run's first character. -/
theorem occursAsWordAfter_of_firstRun?_eq_some {text line : List Char} {before : Option Char}
    {r : Run} (h : firstRun? text before line = some r) :
    occursAsWordAfter text before line =
      (r.isBounded || match r.start with
        | [] => false
        | c :: rest => occursAsWordAfter text (some c) rest) := by
  rw [occursAsWordAfter]
  split
  · rename_i hr
    rw [h] at hr
    cases hr
  · rename_i r' hr
    obtain rfl : r = r' := Option.some.inj (h.symm.trans hr)
    congr 1
    split <;> rename_i hs <;> rw [hs]

/-- **The loop finds a bounded run of the line exactly when there is one.**  The induction is on
the rounds of the loop, each of which goes on in the line behind the start of the rejected run. -/
theorem occursAsWordAfter_iff (text : List Char) (before : Option Char) (line : List Char) :
    occursAsWordAfter text before line = true ↔ HasBoundedRun text before line := by
  induction before, line using occursAsWordAfter.induct text with
  | case1 before line hnone =>
      rw [occursAsWordAfter_of_firstRun?_eq_none hnone]
      refine iff_of_false (by simp) ?_
      rintro ⟨i, hi, -⟩
      exact not_isRunAt_of_firstRun?_eq_none hnone i hi
  | case2 before line r hr ih =>
      rw [occursAsWordAfter_of_firstRun?_eq_some hr]
      obtain ⟨k, hfirst, rfl⟩ := exists_isFirstRunAt_of_firstRun? hr
      rcases hb : (runAt text before line k).isBounded with _ | _
      · rcases hk : line.drop k with _ | ⟨c, rest⟩
        · have hnone := not_hasBoundedRun_of_drop_eq_nil hfirst hb hk
          simp [runAt, hk, hnone]
        · rw [hasBoundedRun_iff_of_drop hfirst hb hk, ← ih c rest hk]
          simp [runAt, hk]
      · simp only [Bool.true_or, true_iff]
        exact ⟨k, hfirst.toIsRunAt, hb⟩

/-! ## Caution words -/

/-- Where there may be a character, there is no word character. -/
theorem any_isWordChar_eq_false {o : Option Char} :
    o.any isWordChar = false ↔ ∀ c, o = some c → isWordChar c = false := by
  cases o with
  | none => simp
  | some c => simp

/-- No word character is in front of position `i` of a whole line, if there is any character. -/
theorem any_charBefore_none {chars : List Char} {i : Nat} :
    (charBefore none chars i).any isWordChar = false ↔
      ∀ c, 0 < i → chars[i - 1]? = some c → isWordChar c = false := by
  unfold charBefore
  split_ifs with h
  · simp [h]
  · simp [Nat.pos_of_ne_zero h, any_isWordChar_eq_false]

/-- A run of a whole line is bounded exactly when it is a whole word there. -/
theorem isWordAt_iff {text chars : List Char} {i : Nat} :
    IsWordAt text chars i ↔
      IsRunAt text chars i ∧ (runAt text none chars i).isBounded = true := by
  have hbounded : (runAt text none chars i).isBounded = true ↔
      (∀ c, 0 < i → chars[i - 1]? = some c → isWordChar c = false) ∧
        ∀ c, chars[i + text.length]? = some c → isWordChar c = false := by
    rw [← any_charBefore_none, ← any_isWordChar_eq_false]
    simp [Run.isBounded, runAt]
  rw [hbounded]
  exact ⟨fun h => ⟨h.toIsRunAt, h.before, h.after⟩, fun h => ⟨h.1, h.2.1, h.2.2⟩⟩

/-- A text occurs in a line as a whole word exactly when it stands at some position as one. -/
theorem occursAsWord_iff (text line : List Char) :
    occursAsWord text line = true ↔ ∃ i, IsWordAt text line i := by
  unfold occursAsWord
  rw [occursAsWordAfter_iff]
  exact exists_congr fun i => isWordAt_iff.symm

end Text

/-- **A caution word fires in a line exactly when it stands there as a whole word**: at some
position the characters are those of its pattern up to case, one for one, with no ASCII letter, digit
or underscore in front of them or behind them. -/
theorem CautionRule.fires_iff_exists_isWordAt (rule : CautionRule) (line : Line) :
    rule.fires line = true ↔ ∃ i, Text.IsWordAt rule.pattern.toList line.text i :=
  Text.occursAsWord_iff rule.pattern.toList line.text

end Wording
