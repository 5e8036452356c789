import Mathlib.Data.Option.Basic
import Mathlib.Tactic.SplitIfs
import Wording.Text.CaseRun

/-!
# Mappings given by runs

* `Text.CaseRun.image?_eq_some_iff` — which code points a run moves, and where to.
* `Text.mapByRuns_cases`, `Text.mapByRuns_eq_self` — a mapping takes a character where one of its
  runs does, or leaves it as it is.
* **`Text.mapByRuns_filter`** — runs that do not move a character can be left out.
* **`Text.mapByRuns_image`** — what a run takes anything to stays where it is if the runs of the
  mapping miss it.

A table has well over a thousand characters in two hundred runs.  What is said about all of them is
checked run by run, by comparing the bounds of runs, and carried to their characters by these
lemmas.
-/

namespace Wording.Text

variable {runs : List CaseRun} {c : Char}

/-! ## One run -/

/-- Which code points a run moves, and where to. -/
theorem CaseRun.image?_eq_some_iff {r : CaseRun} {m n : Nat} :
    r.image? m = some n ↔
      r.first ≤ m ∧ m ≤ r.last ∧ (m - r.first) % r.step = 0 ∧ n = r.target + (m - r.first) := by
  unfold CaseRun.image?
  split_ifs with h
  · rw [Option.some_inj]
    constructor
    · rintro rfl
      exact ⟨h.1, h.2.1, h.2.2, rfl⟩
    · rintro ⟨-, -, -, rfl⟩
      rfl
  · constructor
    · intro hnone
      cases hnone
    · rintro ⟨hfirst, hlast, hstep, -⟩
      exact absurd ⟨hfirst, hlast, hstep⟩ h

/-- What a run takes a code point to does not lie before the run's target. -/
theorem CaseRun.target_le {r : CaseRun} {m n : Nat} (h : r.image? m = some n) : r.target ≤ n := by
  obtain ⟨-, -, -, rfl⟩ := CaseRun.image?_eq_some_iff.mp h
  exact Nat.le_add_right ..

/-- By their bounds, the second run moves nothing that the first run takes anything to: all that the
first has lies before the second or behind it, or the one has odd code points only where the other
has even ones. -/
def CaseRun.misses (r s : CaseRun) : Bool :=
  Nat.blt (r.target + (r.last - r.first)) s.first || Nat.blt s.last r.target ||
    ((Nat.beq (r.step % 2) 0 || Nat.beq r.first r.last) && Nat.beq (s.step % 2) 0 &&
      Nat.beq ((r.target + s.first) % 2) 1)

/-- A number that is a multiple of an even one is even. -/
theorem even_of_mod_eq_zero {n step : Nat} (hstep : step % 2 = 0) (h : n % step = 0) : n % 2 = 0 :=
  Nat.mod_eq_zero_of_dvd (Nat.dvd_trans (Nat.dvd_of_mod_eq_zero hstep) (Nat.dvd_of_mod_eq_zero h))

/-- **A run that another misses does not move what the other takes anything to.** -/
theorem CaseRun.image?_eq_none_of_misses {r s : CaseRun} (h : r.misses s = true) {m n : Nat}
    (himage : r.image? m = some n) : s.image? n = none := by
  obtain ⟨hfirst, hlast, hstep, rfl⟩ := CaseRun.image?_eq_some_iff.mp himage
  by_contra hne
  obtain ⟨k, hk⟩ := Option.ne_none_iff_exists'.mp hne
  obtain ⟨hfirst', hlast', hstep', -⟩ := CaseRun.image?_eq_some_iff.mp hk
  simp only [CaseRun.misses, Bool.or_eq_true, Bool.and_eq_true, Nat.blt_eq, Nat.beq_eq] at h
  rcases h with (hbefore | hbehind) | ⟨⟨heven, heven'⟩, hodd⟩
  · omega
  · omega
  · have hs := even_of_mod_eq_zero heven' hstep'
    have hr : (m - r.first) % 2 = 0 := by
      rcases heven with heven | hsingle
      · exact even_of_mod_eq_zero heven hstep
      · have hm : m - r.first = 0 := by omega
        rw [hm]
    omega

/-! ## A mapping -/

/-- A character is what a run of a mapping takes it to, or no run moves it and it is left as it
is. -/
theorem mapByRuns_cases (runs : List CaseRun) (c : Char) :
    (∃ r ∈ runs, ∃ n, r.image? c.toNat = some n ∧ mapByRuns runs c = Char.ofNat n) ∨
      (∀ r ∈ runs, r.image? c.toNat = none) ∧ mapByRuns runs c = c := by
  unfold mapByRuns
  cases h : runs.findSome? (·.image? c.toNat) with
  | none => exact .inr ⟨List.findSome?_eq_none_iff.mp h, rfl⟩
  | some n =>
      obtain ⟨r, hr, himage⟩ := List.exists_of_findSome?_eq_some h
      exact .inl ⟨r, hr, n, himage, rfl⟩

/-- A character that no run moves is left as it is. -/
theorem mapByRuns_eq_self (h : ∀ r ∈ runs, r.image? c.toNat = none) : mapByRuns runs c = c := by
  rcases mapByRuns_cases runs c with ⟨r, hr, n, himage, -⟩ | ⟨-, hmap⟩
  · rw [h r hr] at himage
    cases himage
  · exact hmap

/-- **Runs that do not move a character can be left out.** -/
theorem mapByRuns_filter {keep : CaseRun → Bool}
    (h : ∀ r ∈ runs, keep r = false → r.image? c.toNat = none) :
    mapByRuns (runs.filter keep) c = mapByRuns runs c := by
  have hfind : (runs.filter keep).findSome? (·.image? c.toNat) =
      runs.findSome? (·.image? c.toNat) := by
    induction runs with
    | nil => rfl
    | cons r runs ih =>
        have hrest := ih fun s hs => h s (List.mem_cons_of_mem _ hs)
        cases hkeep : keep r with
        | true =>
            rw [List.filter_cons_of_pos hkeep, List.findSome?_cons, List.findSome?_cons, hrest]
        | false =>
            rw [List.filter_cons_of_neg (by simp [hkeep]), List.findSome?_cons,
              h r List.mem_cons_self hkeep, hrest]
  unfold mapByRuns
  rw [hfind]

/-! ## Code points -/

/-- The code point of a character that is given by one. -/
theorem toNat_ofNat {n : Nat} (h : n.isValidChar) : (Char.ofNat n).toNat = n := by
  rw [Char.ofNat, dif_pos h]
  rfl

/-- A number stands for a character, if not for the null character, only as its code point. -/
theorem eq_of_ofNat_eq {n : Nat} {c : Char} (hc : c ≠ Char.ofNat 0) (h : Char.ofNat n = c) :
    n = c.toNat := by
  by_cases hvalid : n.isValidChar
  · rw [← h, toNat_ofNat hvalid]
  · rw [Char.ofNat, dif_neg hvalid] at h
    exact absurd h.symm hc

/-- What holds of all ASCII code points holds of all ASCII characters. -/
theorem forall_ascii {P : Char → Prop} (h : ∀ n < 0x80, P (Char.ofNat n)) (hc : c.toNat < 0x80) :
    P c := by
  have hpoint := h c.toNat hc
  rwa [Char.ofNat_toNat] at hpoint

/-- **What a run takes anything to stays where it is** if the runs of a mapping miss it. -/
theorem mapByRuns_image {r : CaseRun} (hmisses : ∀ s ∈ runs, r.misses s = true) {m n : Nat}
    (hvalid : n.isValidChar) (h : r.image? m = some n) :
    mapByRuns runs (Char.ofNat n) = Char.ofNat n := by
  refine mapByRuns_eq_self fun s hs => ?_
  rw [toNat_ofNat hvalid]
  exact CaseRun.image?_eq_none_of_misses (hmisses s hs) h

end Wording.Text
