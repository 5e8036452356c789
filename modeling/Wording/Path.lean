import Wording.Text.Pieces

/-!
# Paths

A path is kept as it was written and compared by its components: repeated and trailing slashes
and single dots say nothing, except that a dot at the very beginning counts.

A path is a text.  The system has names that are not UTF-8, too; for paths with such names see
`SystemPath`.
-/

namespace Wording

/-- A letter of a name. -/
inductive Letter where
  | char (c : Char)
  /-- Bytes that are not UTF-8: one that begins no character, or those of one that is cut short. -/
  | broken (bytes : List UInt8)
deriving DecidableEq

/-- A part of a path. -/
inductive Component where
  | root
  | current
  | parent
  | name (value : String)
  /-- A name that is not UTF-8, which no text has among its components. -/
  | foreign (letters : List Letter)
deriving DecidableEq

namespace Path

/-- The path begins at the root of the file system. -/
def isAbsolute (path : String) : Bool :=
  path.toList.head? == some '/'

/-- The pieces of a path, the root apart. -/
def pieces (path : String) : List (List Char) :=
  Text.pieces '/' (if isAbsolute path then path.toList.tail else path.toList)

/-- The component that a piece stands for, if any. -/
def pieceComponent? (piece : List Char) : Option Component :=
  if piece = [] ∨ piece = ['.'] then none
  else if piece = ['.', '.'] then some .parent
  else some (.name (String.ofList piece))

/-- The components of a path. -/
def components (path : String) : List Component :=
  let inner := (pieces path).filterMap pieceComponent?
  if isAbsolute path then .root :: inner
  else if (pieces path).head? = some ['.'] then .current :: inner
  else inner

/-- Two paths with the same components. -/
def same (p q : String) : Bool :=
  components p == components q

/-- The last component, if it is a name. -/
def fileName? (path : String) : Option String :=
  match (components path).getLast? with
  | some (.name value) => some value
  | _ => none

/-- The last component, or the whole path if that is no name. -/
def fileName (path : String) : String :=
  (fileName? path).getD path

/-- A path and what is added to it, with a slash in between unless there is one. -/
def join (path name : String) : String :=
  if isAbsolute name then name
  else if path.isEmpty || path.toList.getLast? == some '/' then path ++ name
  else path ++ "/" ++ name

/-- The pieces without those at either end that stand for no component. -/
def trimPieces (pieces : List (List Char)) : List (List Char) :=
  let isVoid (piece : List Char) : Bool := (pieceComponent? piece).isNone
  ((pieces.dropWhile isVoid).reverse.dropWhile isVoid).reverse

/-- Pieces with slashes in between. -/
def joinPieces (pieces : List (List Char)) : String :=
  String.ofList (['/'].intercalate pieces)

/-- The pieces after those that stand for so many components. -/
def dropComponents : Nat → List (List Char) → List (List Char)
  | 0, pieces => pieces
  | _, [] => []
  | count + 1, piece :: pieces =>
    if (pieceComponent? piece).isNone then dropComponents (count + 1) pieces
    else dropComponents count pieces

/-- What of the path follows the first components, as it is written, if its components begin with
them. -/
def belowOf? (first : List Component) (path : String) : Option String :=
  if first.isPrefixOf (components path) then
    let inner := first.filter fun c => c ≠ .root && c ≠ .current
    some (joinPieces (trimPieces (dropComponents inner.length (pieces path))))
  else none

/-- What of the path follows the base, as it is written, if the path's components begin with the
base's. -/
def below? (base path : String) : Option String :=
  belowOf? (components base) path

/-- The path without its last component, as it is written; nothing for a path without one or for
the root. -/
def parent? (path : String) : Option String :=
  match (components path).getLast? with
  | none => none
  | some .root => none
  | some .current => some ""
  | some _ =>
    let isVoid (piece : List Char) : Bool := (pieceComponent? piece).isNone
    let before := ((pieces path).reverse.dropWhile isVoid).tail.dropWhile isVoid
    let leading := if isAbsolute path then "/" else ""
    let dot := !isAbsolute path && (pieces path).head? == some ['.'] && before.isEmpty
    some (leading ++ if dot then "." else joinPieces before.reverse)

end Path

end Wording
