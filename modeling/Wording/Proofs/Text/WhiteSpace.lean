import Mathlib.Data.List.Basic
import Wording.Proofs.Text.CaseFolding
import Wording.Proofs.Text.Lowercase
import Wording.Text.Blank

/-!
# White space has no case

* `Text.KeepsBlank` — a mapping leaves white space as it is, and takes nothing else to white space.
* `Text.keepsBlank_lowercaseChar`, `Text.keepsBlank_simpleFold` — lower-casing and folding do so.
* `Text.eq_of_mem_lowercaseAt_of_isBlank` — if a character or one in its lower-case form is white
  space, the two are the same.
* **`Text.exists_mem_of_infix_lowercase`** — a text that is part of a line in lower case has no
  white space that the line has not, and nothing else where the line has white space only.

The tables are looked at run by run: no run begins, goes through or ends at white space, neither
with what it moves nor with what it moves it to.
-/

namespace Wording.Text

/-! ## Mappings -/

/-- The mapping leaves white space as it is, and takes nothing else to white space. -/
structure KeepsBlank (f : Char → Char) : Prop where
  eq_self : ∀ c, isBlank c = true → f c = c
  isBlank_eq : ∀ c, isBlank (f c) = isBlank c

/-- If a character or what it is taken to is white space, the two are the same. -/
theorem KeepsBlank.apply_eq {f : Char → Char} (h : KeepsBlank f) {c : Char}
    (hblank : isBlank c = true ∨ isBlank (f c) = true) : f c = c := by
  rw [h.isBlank_eq, or_self] at hblank
  exact h.eq_self c hblank

/-- Characters that are taken to the same character are the same if one of them is white space. -/
theorem KeepsBlank.eq_of_apply_eq {f : Char → Char} (h : KeepsBlank f) {c d : Char}
    (hsame : f c = f d) (hblank : isBlank c = true ∨ isBlank d = true) : c = d := by
  have hboth : isBlank c = isBlank d := by
    rw [← h.isBlank_eq c, hsame, h.isBlank_eq]
  rw [hboth, or_self] at hblank
  have hc : isBlank c = true := hboth.trans hblank
  rw [← h.eq_self c hc, hsame, h.eq_self d hblank]

/-- By its bounds, the run moves no white space, and moves nothing to white space. -/
def CaseRun.sparesBlank (r : CaseRun) : Bool :=
  blankRanges.all fun range =>
    (Nat.blt r.last range.1 || Nat.blt range.2 r.first) &&
      (Nat.blt (r.target + (r.last - r.first)) range.1 || Nat.blt range.2 r.target)

/-- Neither what a run that spares white space moves is white space, nor what it moves it to. -/
theorem CaseRun.not_isBlank_of_sparesBlank {r : CaseRun} (h : r.sparesBlank = true) {m n : Nat}
    (himage : r.image? m = some n) {c : Char} (hc : c.toNat = m ∨ c.toNat = n) :
    isBlank c = false := by
  obtain ⟨hfirst, hlast, -, hn⟩ := CaseRun.image?_eq_some_iff.mp himage
  by_contra hblank
  rw [Bool.not_eq_false, isBlank, inRanges_iff] at hblank
  obtain ⟨range, hrange, hle, hle'⟩ := hblank
  have hapart := List.all_eq_true.mp h range hrange
  simp only [Bool.and_eq_true, Bool.or_eq_true, Nat.blt_eq] at hapart
  omega

/-- **A mapping keeps white space apart if its runs do.** -/
theorem keepsBlank_mapByRuns {runs : List CaseRun} (h : ∀ r ∈ runs, r.sparesBlank = true) :
    KeepsBlank (mapByRuns runs) := by
  have hself : ∀ c, isBlank c = true → mapByRuns runs c = c := by
    intro c hc
    refine mapByRuns_eq_self fun r hr => ?_
    by_contra hne
    obtain ⟨n, himage⟩ := Option.ne_none_iff_exists'.mp hne
    rw [CaseRun.not_isBlank_of_sparesBlank (h r hr) himage (.inl rfl)] at hc
    cases hc
  have hnull : isBlank (Char.ofNat 0) = false := by decide +kernel
  refine ⟨hself, fun c => ?_⟩
  rcases mapByRuns_cases runs c with ⟨r, hr, n, himage, hmap⟩ | ⟨-, hmap⟩
  · rw [CaseRun.not_isBlank_of_sparesBlank (h r hr) himage (.inl rfl), hmap]
    -- a number that is no code point stands for the null character
    by_cases hzero : Char.ofNat n = Char.ofNat 0
    · rw [hzero, hnull]
    · exact CaseRun.not_isBlank_of_sparesBlank (h r hr) himage
        (.inr (eq_of_ofNat_eq hzero rfl).symm)
  · rw [hmap]

/-- A mapping that goes by ASCII case in ASCII and by runs beyond it keeps white space apart. -/
theorem keepsBlank_of_ascii {f : Char → Char} {runs : List CaseRun}
    (hascii : ∀ c : Char, c.toNat < 0x80 → f c = c.toLower)
    (hbeyond : ∀ c : Char, 0x80 ≤ c.toNat → f c = mapByRuns runs c)
    (h : runs.all CaseRun.sparesBlank = true) : KeepsBlank f := by
  have hlower : ∀ c : Char, c.toNat < 0x80 →
      (isBlank c = true → c.toLower = c) ∧ isBlank c.toLower = isBlank c := by
    intro c hc
    have hall : ∀ n < 0x80, (isBlank (Char.ofNat n) = true →
          (Char.ofNat n).toLower = Char.ofNat n) ∧
        isBlank (Char.ofNat n).toLower = isBlank (Char.ofNat n) := by decide +kernel
    exact forall_ascii
      (P := fun c => (isBlank c = true → c.toLower = c) ∧ isBlank c.toLower = isBlank c) hall hc
  have hruns := keepsBlank_mapByRuns (List.all_eq_true.mp h)
  constructor
  · intro c hblank
    by_cases hc : c.toNat < 0x80
    · rw [hascii c hc, (hlower c hc).1 hblank]
    · rw [hbeyond c (by omega), hruns.eq_self c hblank]
  · intro c
    by_cases hc : c.toNat < 0x80
    · rw [hascii c hc, (hlower c hc).2]
    · rw [hbeyond c (by omega), hruns.isBlank_eq]

/-- **Lower-casing keeps white space apart.** -/
theorem keepsBlank_lowercaseChar : KeepsBlank lowercaseChar := by
  have hspares : lowercaseRuns.all CaseRun.sparesBlank = true := by decide +kernel
  refine keepsBlank_of_ascii (fun c hc => ?_) (fun c hc => lowercaseChar_eq hc) hspares
  rw [lowercaseChar, if_pos hc]

/-- **Folding keeps white space apart.** -/
theorem keepsBlank_simpleFold : KeepsBlank simpleFold := by
  have hspares : simpleFoldRuns.all CaseRun.sparesBlank = true := by decide +kernel
  refine keepsBlank_of_ascii (fun c hc => ?_) (fun c hc => simpleFold_eq hc) hspares
  rw [simpleFold, if_pos hc]

/-! ## Lower-case forms -/

/-- Capital I with a dot, capital sigma and their lower-case forms are no white space. -/
theorem isBlank_special {c : Char} (h : c ∈ ['İ', 'i', '\u0307', 'Σ', 'σ', 'ς']) :
    isBlank c = false := by
  have hall : (['İ', 'i', '\u0307', 'Σ', 'σ', 'ς'].all fun c => !isBlank c) = true := by
    decide +kernel
  simpa using List.all_eq_true.mp hall c h

/-- If a character or one in its lower-case form is white space, the two are the same. -/
theorem eq_of_mem_lowercaseAt_of_isBlank {before after : List Char} {c d : Char}
    (hd : d ∈ lowercaseAt before c after) (hblank : isBlank c = true ∨ isBlank d = true) :
    d = c := by
  have hnot : ∀ {a b : Char}, a ∈ ['İ', 'i', '\u0307', 'Σ', 'σ', 'ς'] →
      b ∈ ['İ', 'i', '\u0307', 'Σ', 'σ', 'ς'] → ¬(isBlank a = true ∨ isBlank b = true) := by
    intro a b ha hb
    simp [isBlank_special ha, isBlank_special hb]
  unfold lowercaseAt at hd
  split_ifs at hd with hdotted hsigma
  · refine absurd hblank (hnot (by simp [hdotted]) ?_)
    rcases List.mem_pair.mp hd with rfl | rfl <;> simp
  · refine absurd hblank (hnot (by simp [hsigma]) ?_)
    rw [List.mem_singleton.mp hd, lowercaseSigma]
    split_ifs <;> simp
  · obtain rfl := List.mem_singleton.mp hd
    exact keepsBlank_lowercaseChar.apply_eq hblank

/-- The lower-case form of a character has characters. -/
theorem exists_mem_lowercaseAt (before : List Char) (c : Char) (after : List Char) :
    ∃ d, d ∈ lowercaseAt before c after := by
  unfold lowercaseAt
  split_ifs <;> simp

/-- Each character of the lower-case form of a text is in that of a character of the text. -/
theorem exists_of_mem_lowercaseAfter {before text : List Char} {d : Char}
    (h : d ∈ lowercaseAfter before text) :
    ∃ c ∈ text, ∃ front after, d ∈ lowercaseAt front c after := by
  induction text generalizing before with
  | nil => cases h
  | cons c rest ih =>
      rw [lowercaseAfter, List.mem_append] at h
      rcases h with hd | hrest
      · exact ⟨c, List.mem_cons_self, before, rest, hd⟩
      · obtain ⟨e, he, hmem⟩ := ih hrest
        exact ⟨e, List.mem_cons_of_mem _ he, hmem⟩

/-- Each character of a text leaves characters in the lower-case form of the text. -/
theorem exists_mem_lowercaseAfter (before : List Char) {text : List Char} {c : Char}
    (h : c ∈ text) :
    ∃ front after, ∃ d ∈ lowercaseAt front c after, d ∈ lowercaseAfter before text := by
  induction text generalizing before with
  | nil => cases h
  | cons e rest ih =>
      rw [lowercaseAfter]
      rcases List.mem_cons.mp h with rfl | hrest
      · obtain ⟨d, hd⟩ := exists_mem_lowercaseAt before c rest
        exact ⟨before, rest, d, hd, List.mem_append_left _ hd⟩
      · obtain ⟨front, after, d, hd, hmem⟩ := ih (e :: before) hrest
        exact ⟨front, after, d, hd, List.mem_append_right _ hmem⟩

/-- **A text that is part of a line in lower case has each of its characters met by one of the
line**, and if one of the two is white space, they are the same. -/
theorem exists_mem_of_infix_lowercase {text line : List Char}
    (h : lowercase text <:+: lowercase line) {c : Char} (hc : c ∈ text) :
    ∃ d ∈ line, isBlank c = true ∨ isBlank d = true → c = d := by
  obtain ⟨_, _, e, he, hmem⟩ := exists_mem_lowercaseAfter [] hc
  obtain ⟨d, hd, _, _, he'⟩ := exists_of_mem_lowercaseAfter (h.subset hmem)
  refine ⟨d, hd, ?_⟩
  rintro (hblank | hblank)
  · obtain rfl := eq_of_mem_lowercaseAt_of_isBlank he (.inl hblank)
    exact eq_of_mem_lowercaseAt_of_isBlank he' (.inr hblank)
  · obtain rfl := eq_of_mem_lowercaseAt_of_isBlank he' (.inl hblank)
    exact (eq_of_mem_lowercaseAt_of_isBlank he (.inr hblank)).symm

end Wording.Text
