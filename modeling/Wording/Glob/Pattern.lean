import Wording.Glob.Shape

/-!
# Glob patterns

A pattern is a list of tokens, each of which stands for a set of byte sequences; it matches a path
when the bytes of the whole path are of the patterns' shapes in a row.  `?`, `*` and classes take
slashes like any other byte.  `**` between slashes stands for any number of directories, none
included.

In a class, a character beyond ASCII counts as its UTF-8 bytes: each of them belongs to the class,
and a range runs from the last byte of its lower end to the first byte of its upper end.
-/

namespace Wording.Glob

/-- A part of a pattern. -/
inductive Token where
  | literal (c : Char)
  /-- `?` -/
  | anyByte
  /-- `*` -/
  | anyRun
  /-- `**` at the beginning, with the slash after it. -/
  | leadingDirs
  /-- `**` at the end, with the slash before it. -/
  | trailingDirs
  /-- `**` in the middle, with the slashes around it. -/
  | middleDirs
  /-- `[…]` or `[!…]` -/
  | charClass (negated : Bool) (ranges : List (Char × Char))
  /-- Alternatives in braces. -/
  | choice (alternatives : List (List Token))

/-- The UTF-8 bytes of a character. -/
def charBytes (c : Char) : List UInt8 :=
  String.utf8EncodeChar c

/-- The byte ranges of one range of a class. -/
def rangeBytes (range : Char × Char) : List (UInt8 × UInt8) :=
  if range.1 = range.2 then
    (charBytes range.1).map fun b => (b, b)
  else
    let low := charBytes range.1
    let high := charBytes range.2
    (low.dropLast.map fun b => (b, b)) ++
      (match low.getLast?, high.head? with
        | some b, some c => [(b, c)]
        | _, _ => []) ++
      (high.tail.map fun b => (b, b))

mutual

/-- The byte sequences that a token stands for. -/
def Token.shape : Token → Shape
  | .literal c => Shape.bytes (charBytes c)
  | .anyByte => Shape.anyByte
  | .anyRun => Shape.any
  | .leadingDirs => .alt (.alt .empty Shape.slash) (.seq .any Shape.slash)
  | .trailingDirs => .seq Shape.slash .any
  | .middleDirs => .alt Shape.slash (.seq Shape.slash (.seq .any Shape.slash))
  | .charClass negated ranges => .byte negated (ranges.flatMap rangeBytes)
  | .choice alternatives => Shape.oneOf (alternativeShapes alternatives)

/-- The byte sequences that tokens in a row stand for. -/
def tokensShape : List Token → Shape
  | [] => .empty
  | t :: rest => t.shape.join (tokensShape rest)

/-- The shapes of alternatives; one that stands for nothing but the empty sequence is left out. -/
def alternativeShapes : List (List Token) → List Shape
  | [] => []
  | ts :: rest =>
    if tokensShape ts = .empty then alternativeShapes rest
    else tokensShape ts :: alternativeShapes rest

end

/-- A token that stands for itself. -/
def Token.isLiteral : Token → Bool
  | .literal _ => true
  | _ => false

/-- A pattern that names one base name, in any directory. -/
def isBaseName : List Token → Bool
  | .leadingDirs :: t :: rest => (t :: rest).all fun
    | .literal c => c != '/'
    | _ => false
  | _ => false

/-- A text other than a lone dot. -/
def isEnding : List Token → Bool
  | [.literal '.'] => false
  | text => text.all Token.isLiteral

/-- A pattern that asks for a text as the whole path or as its end. -/
def isPlain : List Token → Bool
  | .leadingDirs :: .anyRun :: text => isEnding text
  | .anyRun :: text => isEnding text
  | .leadingDirs :: text => text.all Token.isLiteral
  | text => text.all Token.isLiteral

/-- A pattern that asks for a base name with nothing after its last dot. -/
def isDotted (tokens : List Token) : Bool :=
  match tokens.getLast? with
  | some (.literal '.') => !isPlain tokens
  | _ => false

/-- The path's last component is `..`, which is no base name. -/
def endsInParent (path : List UInt8) : Bool :=
  path == [0x2E, 0x2E] || [0x2F, 0x2E, 0x2E].isSuffixOf path

/-- A pattern made ready for matching. -/
structure Pattern where
  tokens : List Token

namespace Pattern

/-- The byte sequences that the pattern stands for. -/
def shape (p : Pattern) : Shape :=
  match p.tokens with
  | [.leadingDirs] => .any
  | tokens => tokensShape tokens

/-- The pattern matches the whole path.  A pattern that asks for a base name never takes `..` for
one. -/
def isMatch (p : Pattern) (path : List UInt8) : Bool :=
  !((isBaseName p.tokens || isDotted p.tokens) && endsInParent path) && p.shape.isMatch path

end Pattern

end Wording.Glob
