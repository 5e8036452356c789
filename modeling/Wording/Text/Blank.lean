import Wording.Text.CodeRange

/-!
# Blank text

Blankness and trimming go by the Unicode property `White_Space`, which has the no-break spaces
and U+0085 in it, but not the zero-width space.
-/

namespace Wording.Text

/-- The ranges of the property `White_Space`. -/
def blankRanges : List (Nat × Nat) := [
  (0x9, 0xD), (0x20, 0x20), (0x85, 0x85), (0xA0, 0xA0), (0x1680, 0x1680), (0x2000, 0x200A),
  (0x2028, 0x2029), (0x202F, 0x202F), (0x205F, 0x205F), (0x3000, 0x3000)]

/-- A white-space character. -/
def isBlank (c : Char) : Bool :=
  inRanges blankRanges c

/-- The text without the white space at its end. -/
def trimEnd (text : List Char) : List Char :=
  (text.reverse.dropWhile isBlank).reverse

/-- The text without the white space around it. -/
def trim (text : List Char) : List Char :=
  trimEnd (text.dropWhile isBlank)

/-- The text trimmed and cut to at most `limit` characters.  Nothing marks the cut. -/
def excerpt (limit : Nat) (text : List Char) : List Char :=
  (trim text).take limit

end Wording.Text
