/-!
# Shapes of byte sequences

A `Shape` describes a set of byte sequences: one byte out of some ranges, any sequence, one shape
after another, one shape or another.  A sequence is tested byte by byte: `Shape.after` gives the
shapes that the rest may have, and the test keeps the set of those, so its work is bounded by the
size of the shape times the length of the sequence.
-/

namespace Wording.Glob

/-- A set of byte sequences. -/
inductive Shape where
  /-- The empty sequence. -/
  | empty
  /-- One byte that lies in one of the ranges (or, negated, in none of them). -/
  | byte (negated : Bool) (ranges : List (UInt8 × UInt8))
  /-- Any sequence. -/
  | any
  | seq (first second : Shape)
  | alt (left right : Shape)
deriving DecidableEq

namespace Shape

/-- The byte lies in one of the ranges, or in none of them if negated. -/
def admits (negated : Bool) (ranges : List (UInt8 × UInt8)) (b : UInt8) : Bool :=
  (ranges.any fun r => r.1 ≤ b && b ≤ r.2) != negated

/-- The empty sequence has the shape. -/
def isNullable : Shape → Bool
  | empty => true
  | byte _ _ => false
  | any => true
  | seq r s => r.isNullable && s.isNullable
  | alt r s => r.isNullable || s.isNullable

/-- One shape after another, where an empty one leaves no trace. -/
def join : Shape → Shape → Shape
  | empty, s => s
  | r, empty => r
  | r, s => seq r s

/-- The shapes that can remain after the byte. -/
def after (b : UInt8) : Shape → List Shape
  | empty => []
  | byte negated ranges => if admits negated ranges b then [empty] else []
  | any => [any]
  | seq r s => (r.after b).map (join · s) ++ if r.isNullable then s.after b else []
  | alt r s => r.after b ++ s.after b

/-- The sequence has one of the shapes. -/
def someMatch : List Shape → List UInt8 → Bool
  | shapes, [] => shapes.any isNullable
  | shapes, b :: bytes => someMatch (shapes.flatMap (after b)).eraseDups bytes

/-- The sequence has the shape. -/
def isMatch (s : Shape) (bytes : List UInt8) : Bool :=
  someMatch [s] bytes

/-- Exactly one byte. -/
def exactly (b : UInt8) : Shape :=
  byte false [(b, b)]

/-- Any one byte. -/
def anyByte : Shape :=
  byte true []

/-- Exactly these bytes. -/
def bytes (bs : List UInt8) : Shape :=
  bs.foldr (fun b s => join (exactly b) s) empty

/-- The slash between the components of a path. -/
def slash : Shape :=
  exactly 0x2F

/-- One of the shapes; the empty sequence if there are none. -/
def oneOf : List Shape → Shape
  | [] => empty
  | [s] => s
  | s :: rest => alt s (oneOf rest)

end Shape

end Wording.Glob
