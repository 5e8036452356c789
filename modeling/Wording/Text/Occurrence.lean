import Wording.Text.SimpleFold

/-!
# Occurrences of a text in a line

Two ways of being in a line.  `occursIn` asks for a contiguous run of equal characters.
`occursAsWord` asks for a run that is the same up to case and that no word character touches on
either side; it searches for the leftmost run and, when that one is touched, starts again one
character after its beginning, so an occurrence that overlaps a rejected one still counts.
-/

namespace Wording.Text

/-- The text is a contiguous part of the line. -/
def occursIn (text : List Char) : List Char → Bool
  | [] => text.isEmpty
  | c :: rest => text.isPrefixOf (c :: rest) || occursIn text rest

/-- A word character: an ASCII letter or digit, or the underscore. -/
def isWordChar (c : Char) : Bool :=
  c.isAlphanum || c == '_'

/-- What follows the text at the start of the line, where the line starts with it up to case. -/
def afterRun? : List Char → List Char → Option (List Char)
  | [], line => some line
  | _ :: _, [] => none
  | p :: text, c :: line => if sameUpToCase p c then afterRun? text line else none

/-- A run of characters in a line that is the same as the text up to case: the character before
it, the line from its start on, and the line after it. -/
structure Run where
  before : Option Char
  start : List Char
  after : List Char
deriving DecidableEq

/-- The leftmost run in the line, where `before` is the character in front of the line. -/
def firstRun? (text : List Char) (before : Option Char) : List Char → Option Run
  | [] => (afterRun? text []).map fun after => ⟨before, [], after⟩
  | c :: line =>
    match afterRun? text (c :: line) with
    | some after => some ⟨before, c :: line, after⟩
    | none => firstRun? text (some c) line

/-- The leftmost run starts within the line. -/
theorem length_start_le_of_firstRun? {text line : List Char} {before : Option Char} {r : Run}
    (h : firstRun? text before line = some r) : r.start.length ≤ line.length := by
  induction line generalizing before with
  | nil =>
    simp only [firstRun?, Option.map_eq_some_iff] at h
    obtain ⟨_, _, rfl⟩ := h
    simp
  | cons c line ih =>
    simp only [firstRun?] at h
    split at h
    · cases h; simp
    · exact Nat.le_trans (ih h) (by simp)

/-- No word character touches the run. -/
def Run.isBounded (r : Run) : Bool :=
  !r.before.any isWordChar && !r.after.head?.any isWordChar

/-- Some run in the line that follows `before` is bounded on both sides. -/
def occursAsWordAfter (text : List Char) (before : Option Char) (line : List Char) : Bool :=
  match _h : firstRun? text before line with
  | none => false
  | some r =>
    r.isBounded ||
      match _hs : r.start with
      | [] => false
      | c :: rest => occursAsWordAfter text (some c) rest
termination_by line.length
decreasing_by
  have := length_start_le_of_firstRun? _h
  simp [_hs] at this
  omega

/-- The text occurs in the line, up to case, as a whole word. -/
def occursAsWord (text line : List Char) : Bool :=
  occursAsWordAfter text none line

end Wording.Text
