import Wording.Yaml.Character

/-!
# Scalars

How the text of a scalar is read, in each of its styles: quoted, plain, and as an indented block.
In the first two a scalar may run over several lines, and the white space in between is folded:
one line break becomes a space, and of more breaks the first is dropped.
-/

namespace Wording.Yaml

/-! ## White space within a scalar -/

/-- White space that has been read within a scalar and that belongs to it if more text follows.
Both lists have the last character first. -/
inductive Gap where
  /-- Spaces and tabs of one line. -/
  | spaces (chars : List Char)
  /-- Line breaks: the first (none, if it is escaped) and those after it. -/
  | breaks (first : Option Char) (more : List Char)

namespace Gap

/-- No white space. -/
def none : Gap := .spaces []

/-- The gap with one more space or tab; what stands at the beginning of a line is indentation. -/
def addSpace (c : Char) : Gap → Gap
  | .spaces chars => .spaces (c :: chars)
  | .breaks first more => .breaks first more

/-- The gap with one more line break; spaces before the first one are dropped. -/
def addBreak (c : Char) : Gap → Gap
  | .spaces _ => .breaks (some c) []
  | .breaks first more => .breaks first (c :: more)

/-- The gap has line breaks in it. -/
def isBroken : Gap → Bool
  | .spaces _ => false
  | .breaks _ _ => true

/-- There is white space in the gap. -/
def isOpen : Gap → Bool
  | .spaces chars => !chars.isEmpty
  | .breaks _ _ => true

/-- What the gap contributes to the scalar's text, the last character first. -/
def text : Gap → List Char
  | .spaces chars => chars
  | .breaks (some '\n') [] => [' ']
  | .breaks (some '\n') more => more
  | .breaks (some c) more => more ++ [c]
  | .breaks Option.none more => more

end Gap

/-! ## Quoted scalars -/

/-- The character that a backslash and this character stand for. -/
def escapedChar? : Char → Option Char
  | '0' => some '\x00'
  | 'a' => some '\x07'
  | 'b' => some '\x08'
  | 't' => some '\t'
  | '\t' => some '\t'
  | 'n' => some '\n'
  | 'v' => some '\x0B'
  | 'f' => some '\x0C'
  | 'r' => some '\r'
  | 'e' => some '\x1B'
  | ' ' => some ' '
  | '"' => some '"'
  | '/' => some '/'
  | '\\' => some '\\'
  | 'N' => some '\u0085'
  | '_' => some '\u00A0'
  | 'L' => some '\u2028'
  | 'P' => some '\u2029'
  | _ => none

/-- How many hexadecimal digits follow a backslash and this character. -/
def escapeDigits? : Char → Option Nat
  | 'x' => some 2
  | 'u' => some 4
  | 'U' => some 8
  | _ => none

/-- The value of a hexadecimal digit. -/
def hexDigit? (c : Char) : Option Nat :=
  if '0' ≤ c ∧ c ≤ '9' then some (c.toNat - '0'.toNat)
  else if 'a' ≤ c ∧ c ≤ 'f' then some (c.toNat - 'a'.toNat + 10)
  else if 'A' ≤ c ∧ c ≤ 'F' then some (c.toNat - 'A'.toNat + 10)
  else none

/-- The number written with exactly `count` hexadecimal digits at the beginning of the text. -/
def hexNumber? (count : Nat) (text : List Char) : Option Nat :=
  if (text.take count).length = count then
    (text.take count).foldl (fun n c => do return (← n) * 16 + (← hexDigit? c)) (some 0)
  else
    none

/-- The character with the code point, if it has one. -/
def charOfCode? (n : Nat) : Option Char :=
  if n < 0xD800 ∨ (0xDFFF < n ∧ n ≤ 0x10FFFF) then some (Char.ofNat n) else none

/-- Reads a quoted scalar after its opening quote.  `acc` is the text so far, the last character
first. -/
def readQuoted (single : Bool) (gap : Gap) (acc : List Char) (line column : Nat) :
    List Char → Except Fault (List Char × Cursor)
  | [] => .error .endInsideScalar
  | c :: rest =>
    if column = 0 && atDocumentMarker (c :: rest) then
      .error .documentMarkerInsideScalar
    else if isSpace c then
      readQuoted single (gap.addSpace c) acc line (column + 1) rest
    else if isBreak c then
      readQuoted single (gap.addBreak c) acc (line + 1) 0 rest
    else
      let acc := gap.text ++ acc
      if single then
        if c = '\'' then
          match rest with
          | '\'' :: rest => readQuoted single .none ('\'' :: acc) line (column + 2) rest
          | _ => .ok (acc, ⟨rest, line, column + 1⟩)
        else
          readQuoted single .none (c :: acc) line (column + 1) rest
      else if c = '"' then
        .ok (acc, ⟨rest, line, column + 1⟩)
      else if c = '\\' then
        match rest with
        | [] => .error .unknownEscape
        | d :: rest =>
          if isBreak d then
            readQuoted single (.breaks Option.none []) acc (line + 1) 0 rest
          else
            match escapedChar? d, escapeDigits? d with
            | some e, _ => readQuoted single .none (e :: acc) line (column + 2) rest
            | Option.none, some count =>
              match (hexNumber? count rest).bind charOfCode? with
              | some e =>
                readQuoted single .none (e :: acc) line (column + 2 + count) (rest.drop count)
              | Option.none => .error .badCharacterCode
            | Option.none, Option.none => .error .unknownEscape
      else
        readQuoted single .none (c :: acc) line (column + 1) rest
termination_by text => text.length

/-! ## Plain scalars -/

/-- The brackets and the comma of flow collections. -/
def isFlowIndicator (c : Char) : Bool :=
  c == ',' || c == '[' || c == ']' || c == '\x7b' || c == '\x7d'

/-- A flow indicator or a question mark follows. -/
def atFlowIndicator : List Char → Bool
  | [] => false
  | c :: _ => isFlowIndicator c || c == '?'

/-- What ends a plain scalar after white space: less indentation than the block around it has, a
document marker, or a comment. -/
def endsPlainAfterGap (inFlow : Bool) (indent column : Nat) (text : List Char) : Bool :=
  (!inFlow && column < indent) || (column == 0 && atDocumentMarker text) ||
    text.head? == some '#'

/-- Reads a plain scalar.  `indent` is the least column for its further lines in a block.  The
answer has the text, the last character first, and whether line breaks follow it. -/
def readPlain (inFlow : Bool) (indent : Nat) (gap : Gap) (acc : List Char) (line column : Nat) :
    List Char → Except Fault (List Char × Bool × Cursor)
  | [] => .ok (acc, gap.isBroken, ⟨[], line, column⟩)
  | c :: rest =>
    if isSpace c then
      if gap.isBroken && c == '\t' && column < indent then .error .tabAsIndentation
      else readPlain inFlow indent (gap.addSpace c) acc line (column + 1) rest
    else if isBreak c then
      readPlain inFlow indent (gap.addBreak c) acc (line + 1) 0 rest
    else if gap.isOpen && endsPlainAfterGap inFlow indent column (c :: rest) then
      .ok (acc, gap.isBroken, ⟨c :: rest, line, column⟩)
    else if inFlow && c == ':' && atFlowIndicator rest then
      .error .colonBeforeFlowIndicator
    else if (c == ':' && atGap rest) || (inFlow && isFlowIndicator c) then
      .ok (acc, gap.isBroken, ⟨c :: rest, line, column⟩)
    else
      readPlain inFlow indent .none (c :: (gap.text ++ acc)) line (column + 1) rest

/-! ## Block scalars -/

/-- What becomes of the line breaks at the end of a block scalar. -/
inductive Chomping where
  /-- All are dropped. -/
  | strip
  /-- The first is kept. -/
  | clip
  /-- All are kept. -/
  | keep
deriving DecidableEq

/-- The header of a block scalar: chomping and explicit indentation, in either order. -/
def readBlockHeader : List Char → Except Fault (Chomping × Option Nat × List Char)
  | '+' :: rest => (digit? rest).map fun (n, rest) => (.keep, n, rest)
  | '-' :: rest => (digit? rest).map fun (n, rest) => (.strip, n, rest)
  | text =>
    match digit? text with
    | .ok (some n, '+' :: rest) => .ok (.keep, some n, rest)
    | .ok (some n, '-' :: rest) => .ok (.strip, some n, rest)
    | .ok (n, rest) => .ok (.clip, n, rest)
    | .error fault => .error fault
where
  /-- An indentation digit, which is not zero. -/
  digit? : List Char → Except Fault (Option Nat × List Char)
    | c :: rest =>
      if c = '0' then .error .badBlockHeader
      else if c.isDigit then .ok (some (c.toNat - '0'.toNat), rest)
      else .ok (none, c :: rest)
    | [] => .ok (none, [])

/-- Passes the blank lines and the indentation at the beginning of a block scalar: the widest
indentation, the line breaks (the last one first), and what follows. -/
def readLeadingLines (widest : Nat) (breaks : List Char) (line column : Nat) :
    List Char → Except Fault (Nat × List Char × Cursor)
  | [] => .ok (max widest column, breaks, ⟨[], line, column⟩)
  | c :: rest =>
    if c = ' ' then readLeadingLines widest breaks line (column + 1) rest
    else if c = '\t' then .error .tabAsIndentation
    else if isBreak c then readLeadingLines (max widest column) (c :: breaks) (line + 1) 0 rest
    else .ok (max widest column, breaks, ⟨c :: rest, line, column⟩)

/-- A block scalar that is being read.  The lists have the last character first. -/
structure BlockText where
  folded : Bool
  indent : Nat
  /-- The text, without the line breaks after it. -/
  text : List Char := []
  /-- The line break after the last line with text. -/
  lineEnd : Option Char := none
  /-- The line breaks of blank lines after that. -/
  blankLines : List Char := []
  /-- The last line with text begins with white space, which keeps it from being folded. -/
  startsBlank : Bool := false

namespace BlockText

/-- Begins a line with text, whose first character is given. -/
def beginLine (b : BlockText) (c : Char) : BlockText :=
  let joins := b.folded && b.lineEnd == some '\n' && !b.startsBlank && !isSpace c
  let between :=
    if joins then (if b.blankLines.isEmpty then [' '] else b.blankLines)
    else b.blankLines ++ b.lineEnd.toList
  { b with
    text := c :: (between ++ b.text), lineEnd := none, blankLines := [], startsBlank := isSpace c }

/-- The whole text, the last character first. -/
def finish (b : BlockText) : Chomping → List Char
  | .strip => b.text
  | .clip => b.lineEnd.toList ++ b.text
  | .keep => b.blankLines ++ b.lineEnd.toList ++ b.text

/-- Reads the lines of a block scalar; `inLine` says whether the cursor is past the indentation
of a line with text. -/
def readLines (b : BlockText) (inLine : Bool) (line column : Nat) :
    List Char → Except Fault (BlockText × Cursor)
  | [] => .ok (b, ⟨[], line, column⟩)
  | c :: rest =>
    if inLine then
      if isBreak c then
        readLines { b with lineEnd := some c } false (line + 1) 0 rest
      else
        readLines { b with text := c :: b.text } true line (column + 1) rest
    else if column < b.indent && c == ' ' then
      readLines b false line (column + 1) rest
    else if column < b.indent && c == '\t' then
      .error .tabAsIndentation
    else if isBreak c then
      readLines { b with blankLines := c :: b.blankLines } false (line + 1) 0 rest
    else if column < b.indent then
      .ok (b, ⟨c :: rest, line, column⟩)
    else
      readLines (b.beginLine c) true line (column + 1) rest

end BlockText

/-- The cursor after the white space and the comment at the end of a line.  The line has to end
there; its break is passed too. -/
def readLineEnd (fault : Fault) (line column : Nat) (inComment : Bool) :
    List Char → Except Fault Cursor
  | [] => .ok ⟨[], line, column⟩
  | c :: rest =>
    if isBreak c then .ok ⟨rest, line + 1, 0⟩
    else if inComment || isSpace c then readLineEnd fault line (column + 1) inComment rest
    else if c = '#' then readLineEnd fault line (column + 1) true rest
    else .error fault

/-- Reads a block scalar after its indicator.  `parent` is the number of columns that a block
inside the current one is indented by at least. -/
def readBlock (folded : Bool) (parent : Nat) (start : Cursor) :
    Except Fault (List Char × Cursor) := do
  let (chomping, explicit, rest) ← readBlockHeader start.rest
  let header := (if chomping = .clip then 0 else 1) + (if explicit.isSome then 1 else 0)
  let c ← readLineEnd .badBlockHeader start.line (start.column + header) false rest
  match explicit with
  | some n =>
    let b : BlockText := { folded, indent := parent - 1 + n }
    let (b, c) ← b.readLines false c.line c.column c.rest
    return (b.finish chomping, c)
  | none =>
    let (widest, breaks, c) ← readLeadingLines 0 [] c.line c.column c.rest
    let b : BlockText := { folded, indent := max widest (max parent 1), blankLines := breaks }
    let (b, c) ← b.readLines false c.line c.column c.rest
    return (b.finish chomping, c)

end Wording.Yaml
