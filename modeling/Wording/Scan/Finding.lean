import Wording.RuleSet
import Wording.Text.Pieces

/-!
# Findings in a file's text

The text is cut into lines at line feeds, and a carriage return at the end of a line is no part
of it.  Every rule that fires in a line gives one finding there, in the order of lines and then
of rules.
-/

namespace Wording

/-- A file to be scanned: the path that reports name it by, and its text. -/
structure SourceFile where
  path : String
  content : String
deriving DecidableEq

/-- One rule firing in one line of one file. -/
structure Finding where
  file : String
  /-- The number of the line, from 1. -/
  line : Nat
  kind : RuleKind
  pattern : String
  suggestion : Option String
  /-- The line trimmed and cut to the limit of the scan. -/
  excerpt : String
deriving DecidableEq

/-- The characters that an excerpt has at most, when a scan sets no other limit. -/
def defaultExcerptLimit : Nat := 100

namespace Text

/-- The piece without one carriage return at its end. -/
def dropCarriageReturn (piece : List Char) : List Char :=
  if piece.getLast? = some '\r' then piece.dropLast else piece

/-- The lines of a text; one more than there are line feeds. -/
def lines (text : List Char) : List (List Char) :=
  (pieces '\n' text).map dropCarriageReturn

end Text

/-- The findings in one line of a file. -/
def findingsInLine (rules : RuleSet) (path : String) (limit number : Nat) (line : List Char) :
    List Finding :=
  (rules.hits (.ofText line)).map fun hit =>
    { file := path, line := number, kind := hit.kind, pattern := hit.pattern
      suggestion := hit.suggestion, excerpt := String.ofList (Text.excerpt limit line) }

/-- The findings in lines that are numbered from `number` on. -/
def findingsFrom (rules : RuleSet) (path : String) (limit : Nat) :
    Nat → List (List Char) → List Finding
  | _, [] => []
  | number, line :: rest =>
    findingsInLine rules path limit number line ++ findingsFrom rules path limit (number + 1) rest

/-- The findings in a file. -/
def SourceFile.findings (file : SourceFile) (rules : RuleSet) (limit : Nat) : List Finding :=
  findingsFrom rules file.path limit 1 (Text.lines file.content.toList)

end Wording
