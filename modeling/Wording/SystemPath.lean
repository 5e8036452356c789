import Wording.Path

/-!
# Paths as the system has them

A path of the system is made of bytes, and most are texts.  One that is not has components like any
other.  It can only be shown as a text that stands for it, and this text is the path of something
else.
-/

namespace Wording

namespace Letter

/-- The character that the letter is shown as. -/
def shown : Letter → Char
  | .char c => c
  | .broken _ => '\uFFFD'

/-- The text that the letters are, if all of them are characters. -/
def text? : List Letter → Option (List Char)
  | [] => some []
  | .char c :: rest => (text? rest).map (c :: ·)
  | .broken _ :: _ => none

end Letter

/-- A path as the system has it. -/
structure SystemPath where
  letters : List Letter
deriving DecidableEq

namespace SystemPath

/-- The path that is a text. -/
def ofText (path : String) : SystemPath :=
  ⟨path.toList.map .char⟩

/-- The text that the path is shown as. -/
def display (p : SystemPath) : String :=
  String.ofList (p.letters.map Letter.shown)

/-- The path begins at the root of the file system. -/
def isAbsolute (p : SystemPath) : Bool :=
  p.letters.head? == some (.char '/')

/-- The pieces of the path, the root apart. -/
def pieces (p : SystemPath) : List (List Letter) :=
  Text.pieces (.char '/') (if p.isAbsolute then p.letters.tail else p.letters)

/-- The component that a piece stands for, if any. -/
def pieceComponent? (piece : List Letter) : Option Component :=
  match Letter.text? piece with
  | some text => Path.pieceComponent? text
  | none => some (.foreign piece)

/-- The components of the path. -/
def components (p : SystemPath) : List Component :=
  let inner := p.pieces.filterMap pieceComponent?
  if p.isAbsolute then .root :: inner
  else if p.pieces.head? = some [.char '.'] then .current :: inner
  else inner

/-- The path of what has the name in the directory with this path. -/
def join (p : SystemPath) (name : String) : SystemPath :=
  if p.letters.isEmpty || p.letters.getLast? == some (.char '/') then
    ⟨p.letters ++ (ofText name).letters⟩
  else ⟨p.letters ++ .char '/' :: (ofText name).letters⟩

end SystemPath

end Wording
