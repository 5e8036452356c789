import Mathlib.Data.List.DropRight
import Wording.Text.Blank

/-!
# Trimming

* `Text.IsTrimming` — a text is cut into white space, a text with no white space at its ends, and
  white space again.
* `Text.isTrimming`, **`Text.IsTrimming.trim_eq`** — a text can be cut so, and what stands in the
  middle is the trimmed text, however it is cut.
* `Text.trim_eq_nil_iff` — nothing is left of a text that is white space throughout, and only then.

Where nothing is left in the middle, the white space can be cut anywhere, so that only the middle
is settled by the text.
-/

namespace Wording.Text

/-- The text is `before`, `kept` and `behind` one after another, where `before` and `behind` are
white space, and `kept` neither begins nor ends with white space. -/
structure IsTrimming (text before kept behind : List Char) : Prop where
  text_eq : text = before ++ kept ++ behind
  before_blank : ∀ c ∈ before, isBlank c = true
  behind_blank : ∀ c ∈ behind, isBlank c = true
  head_not_blank : ∀ c ∈ kept.head?, isBlank c = false
  last_not_blank : ∀ c ∈ kept.getLast?, isBlank c = false

/-! ## Both ends -/

/-- What stands behind white space at the beginning of a text does not begin with white space. -/
theorem isBlank_eq_false_of_mem_head?_dropWhile {text : List Char} {c : Char}
    (h : c ∈ (text.dropWhile isBlank).head?) : isBlank c = false := by
  have hnot := List.head?_dropWhile_not isBlank text
  rwa [Option.mem_def.mp h] at hnot

/-- A text without the white space at its end does not end with white space. -/
theorem isBlank_eq_false_of_mem_getLast?_trimEnd {text : List Char} {c : Char}
    (h : c ∈ (trimEnd text).getLast?) : isBlank c = false := by
  rw [trimEnd, List.getLast?_reverse] at h
  exact isBlank_eq_false_of_mem_head?_dropWhile h

/-- No white space is dropped from a text that does not begin with white space. -/
theorem dropWhile_isBlank_eq_self {text : List Char} (h : ∀ c ∈ text.head?, isBlank c = false) :
    text.dropWhile isBlank = text := by
  cases text with
  | nil => rfl
  | cons c rest => exact List.dropWhile_cons_of_neg (by simp [h c rfl])

/-- White space behind a text that does not end with white space is all that is cut off there. -/
theorem trimEnd_append {kept behind : List Char} (hbehind : ∀ c ∈ behind, isBlank c = true)
    (hlast : ∀ c ∈ kept.getLast?, isBlank c = false) : trimEnd (kept ++ behind) = kept := by
  have hback : ∀ c ∈ behind.reverse, isBlank c = true := by simpa using hbehind
  have hhead : ∀ c ∈ kept.reverse.head?, isBlank c = false := by simpa using hlast
  rw [trimEnd, List.reverse_append, List.dropWhile_append_of_pos hback,
    dropWhile_isBlank_eq_self hhead, List.reverse_reverse]

/-! ## The text in the middle -/

/-- **A text can be cut into white space, the trimmed text, and white space.** -/
theorem isTrimming (text : List Char) :
    IsTrimming text (text.takeWhile isBlank) (trim text)
      ((text.dropWhile isBlank).rtakeWhile isBlank) where
  text_eq := by
    have hback : trim text ++ (text.dropWhile isBlank).rtakeWhile isBlank =
        text.dropWhile isBlank := List.rdropWhile_append_rtakeWhile
    rw [List.append_assoc, hback, List.takeWhile_append_dropWhile]
  before_blank := fun _ hc => List.mem_takeWhile_imp hc
  behind_blank := fun _ hc => List.mem_rtakeWhile_imp hc
  head_not_blank := by
    intro c hc
    obtain ⟨rest, hrest⟩ := List.head?_eq_some_iff.mp hc
    -- what the trimmed text begins with stands behind the white space at the beginning
    obtain ⟨behind, hbehind⟩ := List.rdropWhile_prefix isBlank (text.dropWhile isBlank)
    have hstart : text.dropWhile isBlank = c :: (rest ++ behind) :=
      hbehind.symm.trans (congrArg (· ++ behind) hrest)
    have hhead : c ∈ (text.dropWhile isBlank).head? := by
      rw [hstart]
      rfl
    exact isBlank_eq_false_of_mem_head?_dropWhile hhead
  last_not_blank := fun _ hc => isBlank_eq_false_of_mem_getLast?_trimEnd hc

/-- **However a text is cut, the middle is the trimmed text.** -/
theorem IsTrimming.trim_eq {text before kept behind : List Char}
    (h : IsTrimming text before kept behind) : trim text = kept := by
  rw [h.text_eq, List.append_assoc, trim, List.dropWhile_append_of_pos h.before_blank]
  cases kept with
  | nil =>
      rw [List.nil_append, List.dropWhile_eq_nil_iff.mpr h.behind_blank]
      rfl
  | cons c rest =>
      have hstart : (c :: rest ++ behind).dropWhile isBlank = c :: rest ++ behind :=
        dropWhile_isBlank_eq_self fun d hd => h.head_not_blank d hd
      rw [hstart, trimEnd_append h.behind_blank h.last_not_blank]

/-- The trimmed text is a part of the text. -/
theorem trim_isInfix (text : List Char) : trim text <:+: text :=
  ⟨_, _, (isTrimming text).text_eq.symm⟩

/-- Nothing is left of a text that is trimmed if all of it is white space. -/
theorem trim_eq_nil_iff {text : List Char} :
    trim text = [] ↔ ∀ c ∈ text, isBlank c = true := by
  constructor
  · intro hnil c hc
    have hcut := isTrimming text
    rw [hcut.text_eq, hnil, List.append_nil, List.mem_append] at hc
    exact hc.elim (hcut.before_blank c) (hcut.behind_blank c)
  · intro hblank
    have hcut : IsTrimming text text [] [] :=
      { text_eq := by simp
        before_blank := hblank
        behind_blank := nofun
        head_not_blank := nofun
        last_not_blank := nofun }
    exact hcut.trim_eq

end Wording.Text
