import Wording.Yaml.Token

/-!
# Cutting a text into tokens

The lexer goes through the text once.  It keeps the columns of the open block collections, since
a line that begins further left closes the inner ones, and for each level of flow collections the
place of the last thing that may turn out to be a key.  Such a candidate is given up when its
line ends or when 1024 characters follow without the colon.  A candidate in the column of the
innermost block collection has to be a key.
-/

namespace Wording.Yaml

/-- Something that is a key if a colon follows. -/
structure Candidate where
  line : Nat
  column : Nat
  /-- The number of tokens before it. -/
  token : Nat
  /-- There is no other way to go on. -/
  required : Bool

/-- The candidate can no longer be a key. -/
def Candidate.isStale (k : Candidate) (line column : Nat) : Bool :=
  k.line < line || k.column + 1024 < column

/-- The state of the lexer. -/
structure Lexer where
  cursor : Cursor
  /-- The tokens so far, the last one first. -/
  tokens : List Token := []
  /-- How many tokens there are so far. -/
  count : Nat := 0
  /-- The columns of the open block collections, the innermost first. -/
  columns : List Nat := []
  /-- A key may begin here. -/
  keyAllowed : Bool := true
  /-- The candidate of the current level. -/
  candidate : Option Candidate := none
  /-- The candidates of the levels around it; one for each open flow collection. -/
  outer : List (Option Candidate) := []

namespace Lexer

/-- The lexer is inside of a flow collection. -/
def inFlow (l : Lexer) : Bool :=
  !l.outer.isEmpty

/-- The least column of what belongs to the innermost block collection: one more than the
collection's own, and 0 outside of all. -/
def innerColumn (l : Lexer) : Nat :=
  match l.columns with
  | [] => 0
  | column :: _ => column + 1

/-- Adds a token. -/
def emit (l : Lexer) (t : Token) : Lexer :=
  { l with tokens := t :: l.tokens, count := l.count + 1 }

/-- Puts a token in front of all but the first `before` tokens. -/
def insert (l : Lexer) (before : Nat) (t : Token) : Lexer :=
  { l with tokens := l.tokens.insertIdx (l.count - before) t, count := l.count + 1 }

/-- Adds a token of so many characters and goes on after them. -/
def take (l : Lexer) (t : Token) (count : Nat) : Lexer :=
  { l.emit t with cursor := l.cursor.skip count }

/-! ## Block collections -/

/-- Opens a block collection at the column, if it is further right than the innermost one; its
opening token goes in front of all but the first `before` tokens. -/
def openBlock (l : Lexer) (column before : Nat) (t : Token) : Lexer :=
  if !l.inFlow && l.innerColumn ≤ column then
    { l.insert before t with columns := column :: l.columns }
  else
    l

/-- Closes the block collections that are further right than `keep` says. -/
def closeBlocks (l : Lexer) (keep : Nat → Bool) : Lexer :=
  if l.inFlow then l
  else
    let closed := l.columns.takeWhile fun column => !keep column
    { l with
      tokens := closed.map (fun _ => Token.blockEnd) ++ l.tokens
      count := l.count + closed.length
      columns := l.columns.drop closed.length }

/-! ## Keys -/

/-- Gives up the candidates that are too far back. -/
def dropStale (l : Lexer) : Except Fault Lexer :=
  let isStale := fun (k : Candidate) => k.isStale l.cursor.line l.cursor.column
  if (l.candidate :: l.outer).any fun k => k.any fun k => k.required && isStale k then
    .error .keyWithoutColon
  else
    .ok { l with
      candidate := l.candidate.filter (!isStale ·)
      outer := l.outer.map fun k => k.filter (!isStale ·) }

/-- Gives up the candidate of the current level. -/
def dropCandidate (l : Lexer) : Except Fault Lexer :=
  match l.candidate with
  | some k => if k.required then .error .keyWithoutColon else .ok { l with candidate := none }
  | none => .ok l

/-- Notes that what begins here may be a key. -/
def noteCandidate (l : Lexer) : Except Fault Lexer :=
  if l.keyAllowed then do
    let l ← l.dropCandidate
    return { l with
      candidate := some
        { line := l.cursor.line, column := l.cursor.column, token := l.count
          required := !l.inFlow && l.columns.head? == some l.cursor.column } }
  else
    .ok l

/-! ## White space between tokens -/

/-- The cursor before the next token, and whether a key may begin there.  Comments are passed, and
so is a byte order mark at the beginning of a line, which takes a column but says nothing; in a
block, a tab cannot be indentation. -/
def passGap (inFlow keyAllowed inComment : Bool) (line column : Nat) :
    List Char → Cursor × Bool
  | [] => (⟨[], line, column⟩, keyAllowed)
  | c :: rest =>
    if isBreak c then passGap inFlow (keyAllowed || !inFlow) false (line + 1) 0 rest
    else if inComment || c = ' ' || (c = '\uFEFF' && column = 0) ||
        (c = '\t' && (inFlow || !keyAllowed)) then
      passGap inFlow keyAllowed inComment line (column + 1) rest
    else if c = '#' then
      passGap inFlow keyAllowed true line (column + 1) rest
    else
      (⟨c :: rest, line, column⟩, keyAllowed)

/-- Goes to the next token and closes the blocks that end before it. -/
def advance (l : Lexer) : Except Fault Lexer := do
  let (cursor, keyAllowed) :=
    passGap l.inFlow l.keyAllowed false l.cursor.line l.cursor.column l.cursor.rest
  let l ← dropStale { l with cursor, keyAllowed }
  return l.closeBlocks (· ≤ l.cursor.column)

/-! ## Tokens -/

/-- The end of the text, which also ends its last line. -/
def atEnd (l : Lexer) : Except Fault (List Token) := do
  let l ← (l.closeBlocks fun _ => false).dropCandidate
  return (Token.streamEnd :: l.tokens).reverse

/-- A directive line. -/
def directive (l : Lexer) : Except Fault Lexer := do
  let l ← (l.closeBlocks fun _ => false).dropCandidate
  let text := l.cursor.rest.tail
  let (t, rest) ← readDirective text
  let cursor ← readLineEnd .badDirective l.cursor.line (l.cursor.rest.length - rest.length) false
    rest
  return { l.emit t with cursor, keyAllowed := false }

/-- The mark of the beginning or the end of a document. -/
def documentMarker (l : Lexer) (t : Token) : Except Fault Lexer := do
  let l ← (l.closeBlocks fun _ => false).dropCandidate
  return { l.take t 3 with keyAllowed := false }

/-- An opening bracket. -/
def openFlow (l : Lexer) (t : Token) : Except Fault Lexer := do
  let l ← l.noteCandidate
  return { l.take t 1 with candidate := none, outer := l.candidate :: l.outer, keyAllowed := true }

/-- A closing bracket. -/
def closeFlow (l : Lexer) (t : Token) : Except Fault Lexer := do
  let l ← l.dropCandidate
  let l := match l.outer with
    | [] => l
    | candidate :: outer => { l with candidate, outer }
  return { l.take t 1 with keyAllowed := false }

/-- A comma in a flow collection. -/
def flowEntry (l : Lexer) : Except Fault Lexer := do
  let l ← l.dropCandidate
  return { l.take .flowEntry 1 with keyAllowed := true }

/-- The dash of a block sequence. -/
def blockEntry (l : Lexer) : Except Fault Lexer := do
  if !l.inFlow && !l.keyAllowed then throw .misplacedEntry
  let l ← (l.openBlock l.cursor.column l.count .blockSequenceStart).dropCandidate
  return { l.take .blockEntry 1 with keyAllowed := true }

/-- The question mark before a key. -/
def explicitKey (l : Lexer) : Except Fault Lexer := do
  if !l.inFlow && !l.keyAllowed then throw .misplacedKey
  let l ← (l.openBlock l.cursor.column l.count .blockMappingStart).dropCandidate
  return { l.take .key 1 with keyAllowed := !l.inFlow }

/-- The colon before a value.  It makes a key of the candidate, if there is one. -/
def value (l : Lexer) : Except Fault Lexer :=
  match l.candidate with
  | some k =>
    let l := (l.insert k.token .key).openBlock k.column k.token .blockMappingStart
    .ok { l.take .value 1 with candidate := none, keyAllowed := false }
  | none =>
    if !l.inFlow && !l.keyAllowed then .error .misplacedValue
    else
      let l := l.openBlock l.cursor.column l.count .blockMappingStart
      .ok { l.take .value 1 with keyAllowed := !l.inFlow }

/-- An anchor or an alias, made of its name. -/
def named (l : Lexer) (t : String → Token) : Except Fault Lexer := do
  let l ← l.noteCandidate
  let name ← readAnchorName l.cursor.rest.tail
  return { l.take (t name) (name.length + 1) with keyAllowed := false }

/-- A tag. -/
def tag (l : Lexer) : Except Fault Lexer := do
  let l ← l.noteCandidate
  let (name, rest) ← readTag l.inFlow l.cursor.rest
  return { l.take (.tag name) (l.cursor.rest.length - rest.length) with keyAllowed := false }

/-- A block scalar. -/
def blockScalar (l : Lexer) (folded : Bool) : Except Fault Lexer := do
  let l ← l.dropCandidate
  let (text, cursor) ← readBlock folded l.innerColumn (l.cursor.skip 1)
  return { l.emit (.scalar (String.ofList text.reverse) false) with cursor, keyAllowed := true }

/-- A quoted scalar. -/
def quotedScalar (l : Lexer) (single : Bool) : Except Fault Lexer := do
  let l ← l.noteCandidate
  let (text, cursor) ←
    readQuoted single .none [] l.cursor.line (l.cursor.column + 1) l.cursor.rest.tail
  return { l.emit (.scalar (String.ofList text.reverse) false) with cursor, keyAllowed := false }

/-- A plain scalar.  If it ends with its line, a key may follow. -/
def plainScalar (l : Lexer) : Except Fault Lexer := do
  let l ← l.noteCandidate
  let (text, broken, cursor) ←
    readPlain l.inFlow l.innerColumn .none [] l.cursor.line l.cursor.column l.cursor.rest
  return { l.emit (.scalar (String.ofList text.reverse) true) with cursor, keyAllowed := broken }

/-- The characters that mean something where a token begins, and so cannot begin a plain
scalar. -/
def isIndicator (c : Char) : Bool :=
  "-?:,[]\x7b\x7d#&*!|>'\"%@`".toList.contains c

/-- A plain scalar may begin with the character that has `rest` after it. -/
def beginsPlain (inFlow : Bool) (c : Char) (rest : List Char) : Bool :=
  !(isIndicator c || isSpace c) || (c == '-' && !(rest.head?.any isSpace)) ||
    (!inFlow && (c == '?' || c == ':') && !atGap rest)

/-- Reads the next token, which begins with the character `c` and has `rest` after that. -/
def next (l : Lexer) (c : Char) (rest : List Char) : Except Fault Lexer :=
  if l.cursor.column = 0 && c == '%' then l.directive
  else if l.cursor.column = 0 && atDocumentMarker (c :: rest) then
    l.documentMarker (if c = '-' then .documentStart else .documentEnd)
  else match c with
    | '[' => l.openFlow .flowSequenceStart
    | '\x7b' => l.openFlow .flowMappingStart
    | ']' => l.closeFlow .flowSequenceEnd
    | '\x7d' => l.closeFlow .flowMappingEnd
    | ',' => l.flowEntry
    | '*' => l.named .alias
    | '&' => l.named .anchor
    | '!' => l.tag
    | '\'' => l.quotedScalar true
    | '"' => l.quotedScalar false
    | _ =>
      if c == '-' && atGap rest then l.blockEntry
      else if c == '?' && (l.inFlow || atGap rest) then l.explicitKey
      else if c == ':' && (l.inFlow || atGap rest) then l.value
      else if c == '|' && !l.inFlow then l.blockScalar false
      else if c == '>' && !l.inFlow then l.blockScalar true
      else if beginsPlain l.inFlow c rest then l.plainScalar
      else .error .unexpectedCharacter

/-- Reads all tokens from here on, `fuel` of them at most. -/
def readAll : Nat → Lexer → Except Fault (List Token)
  | 0, _ => .error .unexpectedCharacter
  | fuel + 1, l =>
    match l.advance with
    | .error fault => .error fault
    | .ok l =>
      match l.cursor.rest with
      | [] => l.atEnd
      | c :: rest =>
        match l.next c rest with
        | .error fault => .error fault
        | .ok l => readAll fuel l

end Lexer

/-- The tokens of a text, of which each has a character at least. -/
def Token.ofText? (text : List Char) : Except Fault (List Token) :=
  if text.all isReadable then
    let text := unifyBreaks text
    Lexer.readAll (text.length + 1) { cursor := ⟨text, 0, 0⟩ }
  else
    .error .forbiddenCharacter

end Wording.Yaml
