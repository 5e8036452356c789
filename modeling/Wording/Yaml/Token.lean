import Wording.Yaml.Scalar

/-!
# Tokens

What a text is cut into.  A token that opens a block collection has no character of its own: it
is put where the first entry or key of the collection stands, and `key` is put in front of what
turns out to be a key when the colon after it is met.
-/

namespace Wording.Yaml

/-- The name of a tag: a handle that a directive gives a meaning to (none, if the suffix is the
whole name) and a suffix, in bytes. -/
structure TagName where
  handle : String
  suffix : List UInt8
deriving DecidableEq

/-- A piece of a YAML text. -/
inductive Token where
  | versionDirective (major minor : Nat)
  | tagDirective (handle : String) (meaning : List UInt8)
  | documentStart
  | documentEnd
  | blockSequenceStart
  | blockMappingStart
  | blockEnd
  | blockEntry
  | flowSequenceStart
  | flowSequenceEnd
  | flowMappingStart
  | flowMappingEnd
  | flowEntry
  | key
  | value
  | alias (name : String)
  | anchor (name : String)
  | tag (name : TagName)
  | scalar (text : String) (plain : Bool)
  | streamEnd
deriving DecidableEq

/-! ## Anchors and tags -/

/-- The name characters at the beginning of the text, and the rest. -/
def splitName (text : List Char) : List Char × List Char :=
  text.span isNameChar

/-- What may follow the name of an anchor or an alias. -/
def endsAnchor : List Char → Bool
  | [] => true
  | c :: rest =>
    atGap (c :: rest) || c == '?' || c == ':' || c == ',' || c == ']' || c == '\x7d' || c == '%' ||
      c == '@' || c == '`'

/-- Reads the name of an anchor or an alias after its indicator. -/
def readAnchorName (text : List Char) : Except Fault String :=
  let (name, rest) := splitName text
  if name.isEmpty || !endsAnchor rest then .error .badAnchor
  else .ok (String.ofList name)

/-- A character of the URI of a tag; within angle brackets a few more are allowed. -/
def isUriChar (inBrackets : Bool) (c : Char) : Bool :=
  isNameChar c || ";/?:@&=+$.%!~*'()".toList.contains c ||
    (inBrackets && (c == ',' || c == '[' || c == ']'))

/-- The byte written as a percent sign and two hexadecimal digits. -/
def percentByte? : List Char → Option (Nat × List Char)
  | '%' :: a :: b :: rest => do
    return ((← hexDigit? a) * 16 + (← hexDigit? b), rest)
  | _ => none

/-- How many bytes a UTF-8 sequence has that begins with the byte. -/
def sequenceWidth? (byte : Nat) : Option Nat :=
  if byte < 0x80 then some 1
  else if byte < 0xC0 then none
  else if byte < 0xE0 then some 2
  else if byte < 0xF0 then some 3
  else if byte < 0xF8 then some 4
  else none

/-- Reads the URI of a tag: its bytes (the last one first) and the rest of the text.  `owed` is
the number of bytes that a sequence begun by percent bytes still lacks. -/
def readUri (inBrackets : Bool) (owed : Nat) (acc : List UInt8) :
    List Char → Except Fault (List UInt8 × List Char)
  | [] => if owed = 0 then .ok (acc, []) else .error .badTag
  | c :: rest =>
    if owed ≠ 0 || c = '%' then
      match percentByte? (c :: rest) with
      | none => .error .badTag
      | some (byte, _) =>
        if owed = 0 then
          match sequenceWidth? byte with
          | none => .error .badTag
          | some width => readUri inBrackets (width - 1) (byte.toUInt8 :: acc) (rest.drop 2)
        else if byte < 0x80 || 0xC0 ≤ byte then .error .badTag
        else readUri inBrackets (owed - 1) (byte.toUInt8 :: acc) (rest.drop 2)
    else if isUriChar inBrackets c then
      readUri inBrackets 0 (c.toNat.toUInt8 :: acc) rest
    else
      .ok (acc, c :: rest)
termination_by text => text.length

/-- The name that a URI writes, whose bytes are given with the last one first.  A zero byte, which
only percent signs can write, ends it. -/
def nameOfUri (uri : List UInt8) : List UInt8 :=
  uri.reverse.takeWhile (· ≠ 0)

/-- The bytes of a text. -/
def textBytes (text : List Char) : List UInt8 :=
  text.flatMap String.utf8EncodeChar

/-- Reads the handle of a tag: an exclamation mark, name characters, and perhaps another mark. -/
def readHandle : List Char → Except Fault (List Char × List Char)
  | '!' :: text =>
    let (name, rest) := splitName text
    match rest with
    | '!' :: rest => .ok ('!' :: name ++ ['!'], rest)
    | rest => .ok ('!' :: name, rest)
  | _ => .error .badTag

/-- A tag ends at white space, or in flow collections at a comma. -/
def endsTag (inFlow : Bool) (text : List Char) : Bool :=
  atGap text || (inFlow && text.head? == some ',')

/-- Reads a tag from its exclamation mark on. -/
def readTag (inFlow : Bool) (text : List Char) : Except Fault (TagName × List Char) := do
  let (name, rest) ← match text with
    | '!' :: '<' :: text => do
      let (uri, rest) ← readUri true 0 [] text
      match rest with
      | '>' :: rest =>
        if uri.isEmpty then throw .badTag
        pure (⟨"", nameOfUri uri⟩, rest)
      | _ => throw .badTag
    | text => do
      let (handle, rest) ← readHandle text
      if handle.length > 1 && handle.getLast? == some '!' then
        let (uri, rest) ← readUri false 0 [] rest
        if uri.isEmpty then throw .badTag
        pure ((⟨String.ofList handle, nameOfUri uri⟩ : TagName), rest)
      else
        let (uri, rest) ← readUri false 0 (textBytes handle.tail).reverse rest
        let suffix := nameOfUri uri
        if suffix.isEmpty then pure (⟨"", textBytes ['!']⟩, rest)
        else pure (⟨"!", suffix⟩, rest)
  if endsTag inFlow rest then return (name, rest) else throw .badTag

/-! ## Directives -/

/-- Reads a number of a version: one to nine digits. -/
def readVersionNumber (text : List Char) : Except Fault (Nat × List Char) :=
  let (digits, rest) := text.span Char.isDigit
  if digits.isEmpty || digits.length > 9 then .error .badDirective
  else .ok (digits.foldl (fun n c => n * 10 + (c.toNat - '0'.toNat)) 0, rest)

/-- Reads a directive after its percent sign, up to the end of its value. -/
def readDirective (text : List Char) : Except Fault (Token × List Char) := do
  let (name, rest) := splitName text
  if !atGap rest then throw .badDirective
  let value := rest.dropWhile isSpace
  match String.ofList name with
  | "YAML" =>
    let (major, rest) ← readVersionNumber value
    match rest with
    | '.' :: rest =>
      let (minor, rest) ← readVersionNumber rest
      return (.versionDirective major minor, rest)
    | _ => throw .badDirective
  | "TAG" =>
    let (handle, rest) ← readHandle value
    if handle.length > 1 && handle.getLast? != some '!' then throw .badDirective
    match rest with
    | c :: _ => if !isSpace c then throw .badDirective
    | [] => throw .badDirective
    let (uri, rest) ← readUri true 0 [] (rest.dropWhile isSpace)
    if uri.isEmpty || !atGap rest then throw .badDirective
    return (.tagDirective (String.ofList handle) (nameOfUri uri), rest)
  | _ => throw .badDirective

end Wording.Yaml
