import Wording.Text.Lowercase.Table

/-!
# Lower case

Full Unicode lower-casing of a text.  All but two characters go to one fixed character each.
Capital I with a dot above goes to `i` and a combining dot.  Capital sigma goes to the final
form at the end of a word and to the ordinary form elsewhere, so it is the one character whose
image depends on its neighbours.
-/

namespace Wording.Text

/-- The lower-case form of a character taken alone, where that is one character. -/
def lowercaseChar (c : Char) : Char :=
  if c.toNat < 0x80 then c.toLower else mapByRuns lowercaseRuns c

/-- A letter that has case, or looks as if it had. -/
def isCased (c : Char) : Bool :=
  inRanges casedRanges c

/-- A character that the search for a neighbouring letter passes over. -/
def isCaseIgnorable (c : Char) : Bool :=
  inRanges caseIgnorableRanges c

/-- The first character that is not passed over is a cased letter. -/
def meetsCased (text : List Char) : Bool :=
  match text.dropWhile isCaseIgnorable with
  | c :: _ => isCased c
  | [] => false

/-- The form of a capital sigma between `before` (read backwards) and `after`: final if a cased
letter precedes it and none follows. -/
def lowercaseSigma (before after : List Char) : Char :=
  if meetsCased before && !meetsCased after then 'ς' else 'σ'

/-- The lower-case form of one character between `before` (read backwards) and `after`. -/
def lowercaseAt (before : List Char) (c : Char) (after : List Char) : List Char :=
  if c = 'İ' then ['i', '\u0307']
  else if c = 'Σ' then [lowercaseSigma before after]
  else [lowercaseChar c]

/-- The lower-case form of a text that follows `before` (read backwards). -/
def lowercaseAfter (before : List Char) : List Char → List Char
  | [] => []
  | c :: after => lowercaseAt before c after ++ lowercaseAfter (c :: before) after

/-- The lower-case form of a text. -/
def lowercase (text : List Char) : List Char :=
  lowercaseAfter [] text

end Wording.Text
