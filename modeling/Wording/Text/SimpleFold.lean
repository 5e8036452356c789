import Wording.Text.SimpleFold.Table

/-!
# Simple case folding

Two characters are the same up to case when they fold to the same character.  Folding goes one
character to one character, so texts that are the same up to case have the same length; it is
coarser than lower-casing (long s folds to `s`, the Kelvin sign to `k`, final sigma to sigma).  The
table is a version behind that of lower-casing: letters which version 17 brought fold to
themselves.
-/

namespace Wording.Text

/-- The character that stands for all those that are the same up to case. -/
def simpleFold (c : Char) : Char :=
  if c.toNat < 0x80 then c.toLower else mapByRuns simpleFoldRuns c

/-- Two characters that differ at most in case. -/
def sameUpToCase (c d : Char) : Bool :=
  simpleFold c == simpleFold d

end Wording.Text
