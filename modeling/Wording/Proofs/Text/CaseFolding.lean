import Wording.Proofs.Text.CaseRuns
import Wording.Text.Lowercase
import Wording.Text.SimpleFold

/-!
# Lower case and case folding

* `Text.disputedRanges` — the characters on which the two ways of ignoring case do not agree.
* `Text.CaseAgrees` — lower-casing takes a character and its folded form to the same character, and
  folding a character and its lower-case form.
* **`Text.caseAgrees_of_not_disputed`** — so it is for all other characters.
* **`Text.lowercase_eq_iff_of_not_disputed`** — texts without disputed characters have the same
  lower-case form exactly when they are the same up to case.

Most runs stand in both tables, and nothing moves what they take anything to.  Apart from disputed
characters there are four stretches where the tables differ and yet agree, among them the Cherokee
letters, which one of the two takes to the small letters and the other to the capital ones; there
all characters are tried.
-/

namespace Wording.Text

/-! ## Disputed characters -/

/-- The characters on which lower-casing and folding do not agree: capital I with a dot, which has a
lower-case form of two characters; capital sigma, whose form depends on its neighbours; small
letters that fold to another small letter; and capital letters that are in the newer of the two
tables only. -/
def disputedRanges : List (Nat × Nat) := [
  (0xB5, 0xB5), (0x130, 0x130), (0x17F, 0x17F), (0x345, 0x345), (0x3A3, 0x3A3), (0x3C2, 0x3C2),
  (0x3D0, 0x3D1), (0x3D5, 0x3D6), (0x3F0, 0x3F1), (0x3F5, 0x3F5), (0x1C80, 0x1C88),
  (0x1E9B, 0x1E9B), (0x1FBE, 0x1FBE), (0x1FD3, 0x1FD3), (0x1FE3, 0x1FE3), (0xA7CE, 0xA7CE),
  (0xA7D2, 0xA7D2), (0xA7D4, 0xA7D4), (0xFB05, 0xFB05), (0x16EA0, 0x16EB8)]

/-- Lower-casing and folding do not agree on the character. -/
def isDisputed (c : Char) : Bool :=
  inRanges disputedRanges c

/-- Lower-casing takes a character and its folded form to the same character, and folding a
character and its lower-case form. -/
structure CaseAgrees (c : Char) : Prop where
  lowercaseChar_simpleFold : lowercaseChar (simpleFold c) = lowercaseChar c
  simpleFold_lowercaseChar : simpleFold (lowercaseChar c) = simpleFold c

instance : DecidablePred CaseAgrees := fun c =>
  decidable_of_iff (lowercaseChar (simpleFold c) = lowercaseChar c ∧
      simpleFold (lowercaseChar c) = simpleFold c)
    ⟨fun ⟨hlower, hfold⟩ => ⟨hlower, hfold⟩, fun ⟨hlower, hfold⟩ => ⟨hlower, hfold⟩⟩

/-- Beyond ASCII, lower-casing goes by its table. -/
theorem lowercaseChar_eq {c : Char} (h : 0x80 ≤ c.toNat) :
    lowercaseChar c = mapByRuns lowercaseRuns c := by
  rw [lowercaseChar, if_neg (by omega)]

/-- Beyond ASCII, folding goes by its table. -/
theorem simpleFold_eq {c : Char} (h : 0x80 ≤ c.toNat) :
    simpleFold c = mapByRuns simpleFoldRuns c := by
  rw [simpleFold, if_neg (by omega)]

/-- In ASCII the two are the same. -/
theorem caseAgrees_of_ascii {c : Char} (h : c.toNat < 0x80) : CaseAgrees c := by
  have hall : ∀ n < 0x80, CaseAgrees (Char.ofNat n) := by decide +kernel
  exact forall_ascii hall h

/-! ## Stretches where the tables differ -/

/-- The stretches in which the tables differ and yet agree. -/
def scatteredRanges : List (Nat × Nat) := [
  (0x3A3, 0x3AB), (0x13A0, 0x13FD), (0xA7CC, 0xA7DB), (0xAB70, 0xABBF)]

/-- The stretches with all that the tables take anything in them to. -/
def nearRanges : List (Nat × Nat) :=
  (0x3C3, 0x3CB) :: scatteredRanges

/-- The run reaches into one of the ranges. -/
def CaseRun.reaches (ranges : List (Nat × Nat)) (r : CaseRun) : Bool :=
  ranges.any fun range => Nat.ble range.1 r.last && Nat.ble r.first range.2

/-- The run lies in one of the ranges. -/
def CaseRun.liesIn (ranges : List (Nat × Nat)) (r : CaseRun) : Bool :=
  ranges.any fun range => Nat.ble range.1 r.first && Nat.ble r.last range.2

/-- A run that does not reach into the ranges moves no character of theirs. -/
theorem CaseRun.image?_eq_none_of_not_reaches {ranges : List (Nat × Nat)} {r : CaseRun} {c : Char}
    (hc : inRanges ranges c = true) (h : r.reaches ranges = false) : r.image? c.toNat = none := by
  obtain ⟨range, hrange, hfirst, hlast⟩ := inRanges_iff.mp hc
  by_contra hne
  obtain ⟨n, hn⟩ := Option.ne_none_iff_exists'.mp hne
  obtain ⟨hfirst', hlast', -, -⟩ := CaseRun.image?_eq_some_iff.mp hn
  have hreaches : r.reaches ranges = true := by
    refine List.any_eq_true.mpr ⟨range, hrange, ?_⟩
    simp only [Bool.and_eq_true, Nat.ble_eq]
    omega
  rw [h] at hreaches
  cases hreaches

/-- A run that lies in the ranges moves characters of theirs only. -/
theorem CaseRun.image?_eq_none_of_liesIn {ranges : List (Nat × Nat)} {r : CaseRun} {c : Char}
    (hc : inRanges ranges c = false) (h : r.liesIn ranges = true) : r.image? c.toNat = none := by
  obtain ⟨range, hrange, hbounds⟩ := List.any_eq_true.mp h
  simp only [Bool.and_eq_true, Nat.ble_eq] at hbounds
  by_contra hne
  obtain ⟨n, hn⟩ := Option.ne_none_iff_exists'.mp hne
  obtain ⟨hfirst, hlast, -, -⟩ := CaseRun.image?_eq_some_iff.mp hn
  have hin : inRanges ranges c = true := inRanges_iff.mpr ⟨range, hrange, by omega, by omega⟩
  rw [hc] at hin
  cases hin

/-- The runs of lower-casing that reach into the stretches. -/
def nearLowercaseRuns : List CaseRun := [
  ⟨0x3A4, 0x3AB, 1, 0x3C4⟩, ⟨0x13A0, 0x13EF, 1, 0xAB70⟩, ⟨0x13F0, 0x13F5, 1, 0x13F8⟩,
  ⟨0xA7CC, 0xA7DA, 2, 0xA7CD⟩]

/-- The runs of folding that reach into the stretches. -/
def nearFoldRuns : List CaseRun := [
  ⟨0x3A3, 0x3AB, 1, 0x3C3⟩, ⟨0x13F8, 0x13FD, 1, 0x13F0⟩, ⟨0xA7CC, 0xA7CC, 1, 0xA7CD⟩,
  ⟨0xA7D0, 0xA7D0, 1, 0xA7D1⟩, ⟨0xA7D6, 0xA7DA, 2, 0xA7D7⟩, ⟨0xAB70, 0xABBF, 1, 0x13A0⟩]

/-- What is tried for each character of the stretches: it is disputed, or the few runs do not take
it out of the stretches, and what they come to agrees. -/
def agreesNear (c : Char) : Bool :=
  let lower := mapByRuns nearLowercaseRuns c
  let folded := mapByRuns nearFoldRuns c
  isDisputed c || (inRanges nearRanges lower && inRanges nearRanges folded &&
    mapByRuns nearLowercaseRuns folded == lower && mapByRuns nearFoldRuns lower == folded)

/-- All characters of the stretches pass. -/
theorem agreesNear_of_scattered :
    ∀ range ∈ scatteredRanges, ∀ n < range.2 + 1 - range.1,
      agreesNear (Char.ofNat (range.1 + n)) = true := by
  decide +kernel

/-- In the stretches, lower-casing and folding go by few runs. -/
theorem maps_near {c : Char} (hc : inRanges nearRanges c = true) :
    lowercaseChar c = mapByRuns nearLowercaseRuns c ∧
      simpleFold c = mapByRuns nearFoldRuns c := by
  have hbeyond : 0x80 ≤ c.toNat := by
    have hall : ∀ range ∈ nearRanges, 0x80 ≤ range.1 := by decide +kernel
    obtain ⟨range, hrange, hfirst, -⟩ := inRanges_iff.mp hc
    exact Nat.le_trans (hall range hrange) hfirst
  have hlower : lowercaseRuns.filter (CaseRun.reaches nearRanges) = nearLowercaseRuns := by
    decide +kernel
  have hfold : simpleFoldRuns.filter (CaseRun.reaches nearRanges) = nearFoldRuns := by
    decide +kernel
  rw [lowercaseChar_eq hbeyond, simpleFold_eq hbeyond, ← hlower, ← hfold]
  constructor
  · exact (mapByRuns_filter fun r _ hr => CaseRun.image?_eq_none_of_not_reaches hc hr).symm
  · exact (mapByRuns_filter fun r _ hr => CaseRun.image?_eq_none_of_not_reaches hc hr).symm

/-- **In the stretches where the tables differ they agree**, but for disputed characters. -/
theorem caseAgrees_of_scattered {c : Char} (hdisputed : isDisputed c = false)
    (hc : inRanges scatteredRanges c = true) : CaseAgrees c := by
  obtain ⟨range, hrange, hfirst, hlast⟩ := inRanges_iff.mp hc
  have htried := agreesNear_of_scattered range hrange (c.toNat - range.1) (by omega)
  rw [Nat.add_sub_cancel' hfirst, Char.ofNat_toNat] at htried
  simp only [agreesNear, hdisputed, Bool.false_or, Bool.and_eq_true, beq_iff_eq] at htried
  obtain ⟨⟨⟨hlower, hfolded⟩, hlowerFolded⟩, hfoldedLower⟩ := htried
  have hnear : inRanges nearRanges c = true :=
    inRanges_iff.mpr ⟨range, List.mem_cons_of_mem _ hrange, hfirst, hlast⟩
  obtain ⟨hlowercase, hfold⟩ := maps_near hnear
  constructor
  · rw [hfold, (maps_near hfolded).1, hlowercase, hlowerFolded]
  · rw [hlowercase, (maps_near hlower).2, hfold, hfoldedLower]

/-! ## Runs in both tables -/

/-- A run that lies in none of the stretches and has no disputed characters only. -/
def CaseRun.isCommon (r : CaseRun) : Bool :=
  !r.liesIn (disputedRanges ++ scatteredRanges)

/-- The runs that stand in both tables. -/
def commonRuns : List CaseRun :=
  simpleFoldRuns.filter CaseRun.isCommon

/-- What is left of the table of lower-casing stands in the other table too. -/
theorem filter_isCommon_lowercaseRuns : lowercaseRuns.filter CaseRun.isCommon = commonRuns := by
  decide +kernel

/-- Nothing moves what a common run takes anything to: so say the bounds of all runs, of which those
in both tables are looked at once. -/
theorem misses_of_mem_commonRuns {r s : CaseRun} (hr : r ∈ commonRuns)
    (hs : s ∈ lowercaseRuns ∨ s ∈ simpleFoldRuns) : r.misses s = true := by
  have hall : (commonRuns.all fun r =>
      (lowercaseRuns ++ simpleFoldRuns.filter fun s => !s.isCommon).all r.misses) = true := by
    decide +kernel
  refine List.all_eq_true.mp (List.all_eq_true.mp hall r hr) s ?_
  rw [List.mem_append, List.mem_filter]
  rcases hs with hs | hs
  · exact .inl hs
  · by_cases hcommon : s.isCommon = true
    · have hboth : s ∈ lowercaseRuns.filter CaseRun.isCommon := by
        rw [filter_isCommon_lowercaseRuns]
        exact List.mem_filter.mpr ⟨hs, hcommon⟩
      exact .inl (List.mem_filter.mp hboth).1
    · exact .inr ⟨hs, by simpa using hcommon⟩

/-- A common run takes characters to characters, in ASCII to one small letter at most. -/
def CaseRun.isSound (r : CaseRun) : Bool :=
  let last := r.target + (r.last - r.first)
  (Nat.ble 0x80 r.target &&
      (Nat.blt last 0xD800 || Nat.blt 0xDFFF r.target && Nat.blt last 0x110000)) ||
    r == ⟨0x212A, 0x212A, 1, 0x6B⟩

/-- What a common run takes a character to is left as it is by lower-casing and by folding. -/
theorem fixed_of_image? {r : CaseRun} (hr : r ∈ commonRuns) {m n : Nat}
    (h : r.image? m = some n) :
    lowercaseChar (Char.ofNat n) = Char.ofNat n ∧ simpleFold (Char.ofNat n) = Char.ofNat n := by
  have hsound : r.isSound = true := by
    have hall : commonRuns.all CaseRun.isSound = true := by decide +kernel
    exact List.all_eq_true.mp hall r hr
  obtain ⟨hfirst, hlast, -, hn⟩ := CaseRun.image?_eq_some_iff.mp h
  simp only [CaseRun.isSound, Bool.or_eq_true, Bool.and_eq_true, Nat.ble_eq, Nat.blt_eq,
    beq_iff_eq] at hsound
  rcases hsound with ⟨hbeyond, hvalid⟩ | rfl
  · have hchar : n.isValidChar := by
      unfold Nat.isValidChar
      omega
    have hle : 0x80 ≤ (Char.ofNat n).toNat := by
      rw [toNat_ofNat hchar]
      omega
    rw [lowercaseChar_eq hle, simpleFold_eq hle]
    exact ⟨mapByRuns_image (fun s hs => misses_of_mem_commonRuns hr (.inl hs)) hchar h,
      mapByRuns_image (fun s hs => misses_of_mem_commonRuns hr (.inr hs)) hchar h⟩
  · -- the run has one character, the Kelvin sign
    have hk : n = 0x6B := by
      simp only at hfirst hlast hn
      omega
    subst hk
    decide +kernel

/-- Of a character in no stretch that is not disputed, both tables say what the common runs do. -/
theorem mapByRuns_commonRuns {c : Char} (hdisputed : isDisputed c = false)
    (hc : inRanges scatteredRanges c = false) :
    mapByRuns commonRuns c = mapByRuns lowercaseRuns c ∧
      mapByRuns commonRuns c = mapByRuns simpleFoldRuns c := by
  have hranges : inRanges (disputedRanges ++ scatteredRanges) c = false := by
    unfold isDisputed at hdisputed
    unfold inRanges at hdisputed hc ⊢
    rw [List.any_append, hdisputed, hc]
    rfl
  have hleft : ∀ r : CaseRun, r.isCommon = false → r.image? c.toNat = none := by
    intro r hr
    refine CaseRun.image?_eq_none_of_liesIn hranges ?_
    simpa [CaseRun.isCommon] using hr
  constructor
  · rw [← filter_isCommon_lowercaseRuns]
    exact mapByRuns_filter fun r _ hr => hleft r hr
  · exact mapByRuns_filter fun r _ hr => hleft r hr

/-- **Lower-casing and folding agree on all characters that are not disputed.** -/
theorem caseAgrees_of_not_disputed {c : Char} (h : isDisputed c = false) : CaseAgrees c := by
  by_cases hascii : c.toNat < 0x80
  · exact caseAgrees_of_ascii hascii
  · cases hscattered : inRanges scatteredRanges c with
    | true => exact caseAgrees_of_scattered h hscattered
    | false =>
        have hbeyond : 0x80 ≤ c.toNat := by omega
        obtain ⟨hlower, hfold⟩ := mapByRuns_commonRuns h hscattered
        rw [← lowercaseChar_eq hbeyond] at hlower
        rw [← simpleFold_eq hbeyond] at hfold
        have hsame : lowercaseChar c = simpleFold c := hlower.symm.trans hfold
        rcases mapByRuns_cases commonRuns c with ⟨r, hr, n, himage, hmap⟩ | ⟨-, hself⟩
        · obtain ⟨hfixed, hfixed'⟩ := fixed_of_image? hr himage
          rw [hfold] at hmap
          constructor
          · rw [hmap, hfixed, hsame, hmap]
          · rw [hsame, hmap, hfixed']
        · rw [hfold] at hself
          constructor
          · rw [hself]
          · rw [hsame, hself, hself]

/-! ## Texts -/

/-- A text whose characters have lower-case forms of their own goes to lower case one by one. -/
theorem lowercaseAfter_eq_map {text : List Char} (h : ∀ c ∈ text, c ≠ 'İ' ∧ c ≠ 'Σ')
    (before : List Char) : lowercaseAfter before text = text.map lowercaseChar := by
  induction text generalizing before with
  | nil => rfl
  | cons c rest ih =>
      obtain ⟨hdotted, hsigma⟩ := h c List.mem_cons_self
      have hrest := ih (fun d hd => h d (List.mem_cons_of_mem _ hd)) (c :: before)
      rw [lowercaseAfter, lowercaseAt, if_neg hdotted, if_neg hsigma, hrest]
      rfl

/-- A text without disputed characters goes to lower case one by one. -/
theorem lowercase_eq_map {text : List Char} (h : ∀ c ∈ text, isDisputed c = false) :
    lowercase text = text.map lowercaseChar := by
  have hdotted : isDisputed 'İ' = true := by decide +kernel
  have hsigma : isDisputed 'Σ' = true := by decide +kernel
  refine lowercaseAfter_eq_map (fun c hc => ⟨?_, ?_⟩) []
  · rintro rfl
    rw [h _ hc] at hdotted
    cases hdotted
  · rintro rfl
    rw [h _ hc] at hsigma
    cases hsigma

/-- Characters that are not disputed have the same lower-case form exactly when they are the same up
to case. -/
theorem lowercaseChar_eq_iff {c d : Char} (hc : isDisputed c = false) (hd : isDisputed d = false) :
    lowercaseChar c = lowercaseChar d ↔ simpleFold c = simpleFold d := by
  have hc' := caseAgrees_of_not_disputed hc
  have hd' := caseAgrees_of_not_disputed hd
  constructor
  · intro h
    rw [← hc'.simpleFold_lowercaseChar, h, hd'.simpleFold_lowercaseChar]
  · intro h
    rw [← hc'.lowercaseChar_simpleFold, h, hd'.lowercaseChar_simpleFold]

/-- **Texts without disputed characters have the same lower-case form exactly when they are the same
up to case.** -/
theorem lowercase_eq_iff_of_not_disputed {p q : List Char} (hp : ∀ c ∈ p, isDisputed c = false)
    (hq : ∀ c ∈ q, isDisputed c = false) :
    lowercase p = lowercase q ↔ p.map simpleFold = q.map simpleFold := by
  rw [lowercase_eq_map hp, lowercase_eq_map hq]
  induction p generalizing q with
  | nil => cases q <;> simp
  | cons c p ih =>
      cases q with
      | nil => simp
      | cons d q =>
          have hhead := lowercaseChar_eq_iff (hp c List.mem_cons_self) (hq d List.mem_cons_self)
          have hrest := ih (fun x hx => hp x (List.mem_cons_of_mem _ hx)) fun x hx =>
            hq x (List.mem_cons_of_mem _ hx)
          simp only [List.map_cons, List.cons.injEq, hhead, hrest]

end Wording.Text
