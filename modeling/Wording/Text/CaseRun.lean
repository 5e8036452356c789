import Wording.Text.CodeRange

/-!
# One-to-one character mappings given by runs

Case mappings come in runs: the capital letters of an alphabet stand side by side (or at every
second place) and all move by the same distance.  A `CaseRun` is such a run; a mapping is a list
of them, and a character that lies in none is mapped to itself.
-/

namespace Wording.Text

/-- The code points `first`, `first + step`, …, `last`, moved together so that `first` goes to
`target`. -/
structure CaseRun where
  first : Nat
  last : Nat
  step : Nat
  target : Nat
deriving DecidableEq

/-- Where the run takes a code point, if the point is one of the run's. -/
def CaseRun.image? (r : CaseRun) (n : Nat) : Option Nat :=
  if r.first ≤ n ∧ n ≤ r.last ∧ (n - r.first) % r.step = 0 then
    some (r.target + (n - r.first))
  else
    none

/-- The mapping given by a list of runs. -/
def mapByRuns (runs : List CaseRun) (c : Char) : Char :=
  match runs.findSome? (·.image? c.toNat) with
  | some n => Char.ofNat n
  | none => c

end Wording.Text
