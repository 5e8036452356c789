import Mathlib
import Wording.Proofs.Text.Lowercase
import Wording.Proofs.Text.WholeWord
import Wording.Text.Blank

/-!
# The case of ASCII letters

* `Text.Recased` — a text with some of its ASCII letters changed in case.
* `Text.apply_toLower` — what tells no ASCII capital from its small form tells no character from it.
* **`Text.lowercase_map_toLower`**, **`Text.occursAsWord_map_toLower`** — what becomes of the ASCII
  capitals of a text changes neither its lower-case form nor where it stands as a whole word.
* `Text.Recased.lowercase_eq`, `Text.Recased.occursAsWord_eq` — so changing case changes neither.

A text and the same text recased have one form with small letters for all ASCII capitals.  Therefore
nothing has to be proved of two texts side by side: each is compared with that form.
-/

namespace Wording.Text

/-! ## Changing case -/

/-- The second text is the first one with some of its ASCII letters changed in case. -/
def Recased (text text' : List Char) : Prop :=
  List.Forall₂ (fun c d => d = c ∨ d = c.toLower ∨ d = c.toUpper) text text'

instance : DecidableRel Recased := fun text text' =>
  inferInstanceAs (Decidable (List.Forall₂ _ text text'))

/-- A text that is recased keeps the form with small letters. -/
theorem Recased.map_toLower_eq {text text' : List Char} (h : Recased text text') :
    text.map Char.toLower = text'.map Char.toLower := by
  induction h with
  | nil => rfl
  | cons hchar _ ih =>
      rw [List.map_cons, List.map_cons, ih]
      rcases hchar with rfl | rfl | rfl
      · rfl
      · rw [Char.toLower_toLower_eq_toLower]
      · rw [Char.toLower_toUpper_eq_toLower]

/-- Only ASCII letters count as capitals here. -/
theorem toNat_lt_of_isUpper {c : Char} (h : c.isUpper = true) : c.toNat < 0x80 := by
  simp only [Char.isUpper, ge_iff_le, UInt32.le_iff_toNat_le, decide_eq_true_eq] at h
  exact Nat.lt_of_le_of_lt h.2 (by decide)

/-- **What tells no ASCII capital from its small form** tells no character from it. -/
theorem apply_toLower {α : Type} (f : Char → α)
    (h : ∀ n < 0x80, (Char.ofNat n).isUpper = true →
      f (Char.ofNat n).toLower = f (Char.ofNat n)) (c : Char) : f c.toLower = f c := by
  by_cases hupper : c.isUpper = true
  · exact forall_ascii (P := fun c => c.isUpper = true → f c.toLower = f c) h
      (toNat_lt_of_isUpper hupper) hupper
  · rw [Char.toLower_eq_of_not_isUpper hupper]

/-! ## Lower case -/

/-- Whether a letter has case does not depend on its case. -/
theorem isCased_comp_toLower : isCased ∘ Char.toLower = isCased :=
  funext (apply_toLower isCased (by decide +kernel))

/-- Whether a character is passed over does not depend on its case. -/
theorem isCaseIgnorable_comp_toLower : isCaseIgnorable ∘ Char.toLower = isCaseIgnorable :=
  funext (apply_toLower isCaseIgnorable (by decide +kernel))

/-- Whether a cased letter is met does not depend on its case, nor on that of others. -/
theorem meetsCased_map_toLower (text : List Char) :
    meetsCased (text.map Char.toLower) = meetsCased text := by
  rw [meetsCased_eq, meetsCased_eq, verdict?, verdict?, List.dropWhile_map, List.head?_map,
    Option.map_map, isCased_comp_toLower, isCaseIgnorable_comp_toLower]

/-- The form of a sigma does not depend on the case of what is around it. -/
theorem lowercaseSigma_map_toLower (before after : List Char) :
    lowercaseSigma (before.map Char.toLower) (after.map Char.toLower) =
      lowercaseSigma before after := by
  rw [lowercaseSigma, lowercaseSigma, meetsCased_map_toLower, meetsCased_map_toLower]

/-- A character has the lower-case form of its small form. -/
theorem lowercaseAt_toLower (before : List Char) (c : Char) (after : List Char) :
    lowercaseAt (before.map Char.toLower) c.toLower (after.map Char.toLower) =
      lowercaseAt before c after := by
  have hdotted := apply_toLower (fun c => decide (c = 'İ')) (by decide +kernel) c
  have hsigma := apply_toLower (fun c => decide (c = 'Σ')) (by decide +kernel) c
  have hchar := apply_toLower lowercaseChar (by decide +kernel) c
  rw [decide_eq_decide] at hdotted hsigma
  simp only [lowercaseAt, hdotted, hsigma, hchar, lowercaseSigma_map_toLower]

/-- A text after another has the lower-case form of its form with small letters. -/
theorem lowercaseAfter_map_toLower (before text : List Char) :
    lowercaseAfter (before.map Char.toLower) (text.map Char.toLower) =
      lowercaseAfter before text := by
  induction text generalizing before with
  | nil => rfl
  | cons c rest ih =>
      rw [List.map_cons, lowercaseAfter, lowercaseAfter, lowercaseAt_toLower, ← List.map_cons, ih]

/-- **A text has the lower-case form of its form with small letters.** -/
theorem lowercase_map_toLower (text : List Char) :
    lowercase (text.map Char.toLower) = lowercase text :=
  lowercaseAfter_map_toLower [] text

/-! ## Whole words -/

/-- A character folds to the same as its small form. -/
theorem simpleFold_toLower (c : Char) : simpleFold c.toLower = simpleFold c :=
  apply_toLower simpleFold (by decide +kernel) c

/-- Whether a character is one of words does not depend on its case. -/
theorem isWordChar_toLower (c : Char) : isWordChar c.toLower = isWordChar c :=
  apply_toLower isWordChar (by decide +kernel) c

/-- A run is one in the forms with small letters too. -/
theorem isRunAt_map_toLower {text line : List Char} {i : Nat} :
    IsRunAt (text.map Char.toLower) (line.map Char.toLower) i ↔ IsRunAt text line i := by
  have hsame : List.Forall₂ (fun p c => simpleFold p = simpleFold c) (text.map Char.toLower)
        (((line.map Char.toLower).drop i).take (text.map Char.toLower).length) ↔
      List.Forall₂ (fun p c => simpleFold p = simpleFold c) text
        ((line.drop i).take text.length) := by
    rw [List.length_map, ← List.map_drop, ← List.map_take, List.forall₂_map_left_iff,
      List.forall₂_map_right_iff]
    simp only [simpleFold_toLower]
  constructor
  · rintro ⟨hle, h⟩
    exact ⟨by rwa [List.length_map] at hle, hsame.mp h⟩
  · rintro ⟨hle, h⟩
    exact ⟨by rwa [List.length_map], hsame.mpr h⟩

/-- A whole word is one in the forms with small letters too. -/
theorem isWordAt_map_toLower {text chars : List Char} {i : Nat} :
    IsWordAt (text.map Char.toLower) (chars.map Char.toLower) i ↔ IsWordAt text chars i := by
  have hat : ∀ j : Nat,
      (∀ c, (chars.map Char.toLower)[j]? = some c → isWordChar c = false) ↔
        ∀ c, chars[j]? = some c → isWordChar c = false := by
    intro j
    rw [List.getElem?_map, ← any_isWordChar_eq_false, ← any_isWordChar_eq_false]
    cases chars[j]? with
    | none => rfl
    | some c => rw [Option.map_some, Option.any_some, Option.any_some, isWordChar_toLower]
  constructor
  · intro h
    refine ⟨isRunAt_map_toLower.mp h.toIsRunAt, fun c hi => ?_, ?_⟩
    · exact (hat _).mp (fun c => h.before c hi) c
    · have hafter := h.after
      rw [List.length_map] at hafter
      exact (hat _).mp hafter
  · intro h
    refine ⟨isRunAt_map_toLower.mpr h.toIsRunAt, fun c hi => ?_, ?_⟩
    · exact (hat _).mpr (fun c => h.before c hi) c
    · rw [List.length_map]
      exact (hat _).mpr h.after

/-- **A text stands in a line as a whole word** if their forms with small letters do so. -/
theorem occursAsWord_map_toLower (text line : List Char) :
    occursAsWord (text.map Char.toLower) (line.map Char.toLower) = occursAsWord text line := by
  rw [Bool.eq_iff_iff, occursAsWord_iff, occursAsWord_iff]
  exact exists_congr fun _ => isWordAt_map_toLower

/-! ## Blank texts -/

/-- Whether a character is white space does not depend on its case. -/
theorem isBlank_comp_toLower : isBlank ∘ Char.toLower = isBlank :=
  funext (apply_toLower isBlank (by decide +kernel))

/-- The form with small letters is trimmed where the text is. -/
theorem trim_map_toLower (text : List Char) :
    trim (text.map Char.toLower) = (trim text).map Char.toLower := by
  rw [trim, trim, trimEnd, trimEnd, List.dropWhile_map, isBlank_comp_toLower, ← List.map_reverse,
    List.dropWhile_map, isBlank_comp_toLower, ← List.map_reverse]

/-! ## Recased texts -/

variable {text text' line line' : List Char}

/-- **Changing case does not change the lower-case form.** -/
theorem Recased.lowercase_eq (h : Recased text text') : lowercase text = lowercase text' := by
  rw [← lowercase_map_toLower text, h.map_toLower_eq, lowercase_map_toLower]

/-- **Changing case does not change whether a text stands in a line as a whole word.** -/
theorem Recased.occursAsWord_eq (h : Recased text text') (hline : Recased line line') :
    occursAsWord text line = occursAsWord text' line' := by
  rw [← occursAsWord_map_toLower text, h.map_toLower_eq, hline.map_toLower_eq,
    occursAsWord_map_toLower]

/-- Changing case does not change whether there is anything but white space. -/
theorem Recased.isEmpty_trim_eq (h : Recased text text') :
    (trim text).isEmpty = (trim text').isEmpty := by
  rw [← List.isEmpty_map (f := Char.toLower), ← trim_map_toLower, h.map_toLower_eq,
    trim_map_toLower, List.isEmpty_map]

end Wording.Text
