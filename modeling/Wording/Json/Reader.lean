import Wording.Json.Value

/-!
# Reading JSON

Reading is strict: nothing but the grammar's white space may stand around tokens, numbers have no
superfluous signs or zeros, and strings have no raw control characters.  An escape of half a
surrogate pair is well-formed, but a string with one has no text.
-/

namespace Wording.Json

/-- White space between tokens. -/
def isSpace (c : Char) : Bool :=
  c == ' ' || c == '\n' || c == '\t' || c == '\r'

/-- The text from the next token on. -/
def skipSpace (text : List Char) : List Char :=
  text.dropWhile isSpace

/-! ## Numbers -/

/-- Splits off the digits at the beginning, of which there has to be one. -/
def digits? (text : List Char) : Option (List Char × List Char) :=
  match text.span Char.isDigit with
  | ([], _) => none
  | (digits, rest) => some (digits, rest)

/-- The digits of an integer: a zero alone, or digits that begin with another. -/
def integer? (text : List Char) : Option (List Char × List Char) := do
  let (digits, rest) ← digits? text
  if digits.head? = some '0' && digits.length ≠ 1 then none else some (digits, rest)

/-- The rest after the fraction of a number, if there is one. -/
def afterFraction? : List Char → Option (List Char)
  | '.' :: text => (digits? text).map (·.2)
  | text => some text

/-- The rest after the exponent of a number, if there is one. -/
def afterExponent? : List Char → Option (List Char)
  | c :: text =>
    if c = 'e' || c = 'E' then
      match text with
      | '+' :: text => (digits? text).map (·.2)
      | '-' :: text => (digits? text).map (·.2)
      | text => (digits? text).map (·.2)
    else some (c :: text)
  | [] => some []

/-- The number that decimal digits write. -/
def ofDigits (digits : List Char) : Nat :=
  digits.foldl (fun n c => n * 10 + (c.toNat - '0'.toNat)) 0

/-- Reads a number without its sign. -/
def readMagnitude (text : List Char) : Option (Json × List Char) := do
  let (digits, rest) ← integer? text
  let after ← afterExponent? (← afterFraction? rest)
  if after.length = rest.length then some (.number (ofDigits digits), rest)
  else some (.other, after)

/-- Reads a number. -/
def readNumber : List Char → Option (Json × List Char)
  | '-' :: text => (readMagnitude text).map fun (_, rest) => (.other, rest)
  | text => readMagnitude text

/-! ## Strings -/

/-- The value of a hexadecimal digit. -/
def hexDigit? (c : Char) : Option Nat :=
  if '0' ≤ c ∧ c ≤ '9' then some (c.toNat - '0'.toNat)
  else if 'a' ≤ c ∧ c ≤ 'f' then some (c.toNat - 'a'.toNat + 10)
  else if 'A' ≤ c ∧ c ≤ 'F' then some (c.toNat - 'A'.toNat + 10)
  else none

/-- The code unit written by four hexadecimal digits. -/
def codeUnit? (a b c d : Char) : Option Nat := do
  return ((← hexDigit? a) * 16 + (← hexDigit? b)) * 256 +
    ((← hexDigit? c) * 16 + (← hexDigit? d))

/-- The character that a backslash and this character stand for. -/
def unescape? : Char → Option Char
  | '"' => some '"'
  | '\\' => some '\\'
  | '/' => some '/'
  | 'b' => some '\x08'
  | 'f' => some '\x0C'
  | 'n' => some '\n'
  | 'r' => some '\r'
  | 't' => some '\t'
  | _ => none

/-- The text of a string so far, its last character first; nothing, if it can have none.  `high`
is the first half of a surrogate pair whose second half has to follow. -/
structure Partial where
  text : Option (List Char) := some []
  high : Option Nat := none

namespace Partial

/-- Adds a character. -/
def add (p : Partial) (c : Char) : Partial :=
  if p.high.isSome then ⟨none, none⟩ else ⟨p.text.map (c :: ·), none⟩

/-- Adds a code unit. -/
def addUnit (p : Partial) (n : Nat) : Partial :=
  match p.high with
  | some high =>
    if 0xDC00 ≤ n ∧ n ≤ 0xDFFF then
      ⟨p.text.map (Char.ofNat (0x10000 + (high - 0xD800) * 0x400 + (n - 0xDC00)) :: ·), none⟩
    else ⟨none, none⟩
  | none =>
    if 0xD800 ≤ n ∧ n ≤ 0xDBFF then { p with high := some n }
    else if 0xDC00 ≤ n ∧ n ≤ 0xDFFF then ⟨none, none⟩
    else p.add (Char.ofNat n)

/-- The text of the string at its end. -/
def finish (p : Partial) : Option String :=
  if p.high.isSome then none else p.text.map fun text => String.ofList text.reverse

end Partial

/-- Reads a string after its opening quote: its text, if it has one, and the rest. -/
def readString (p : Partial) : List Char → Option (Option String × List Char)
  | [] => none
  | '"' :: rest => some (p.finish, rest)
  | '\\' :: 'u' :: a :: b :: c :: d :: rest =>
    match codeUnit? a b c d with
    | some n => readString (p.addUnit n) rest
    | none => none
  | '\\' :: c :: rest =>
    match unescape? c with
    | some e => readString (p.add e) rest
    | none => none
  | c :: rest => if c = '\\' ∨ c.toNat < 0x20 then none else readString (p.add c) rest

/-! ## Values -/

/-- The string with the text, if it has one. -/
def ofText : Option String → Json
  | some text => .string text
  | none => .other

/-- The object with the fields, if all their names have texts. -/
def ofFields (fields : List (Option String × Json)) : Json :=
  match fields.mapM fun f => f.1.map fun name => (name, f.2) with
  | some fields => .object fields
  | none => .other

mutual

/-- Reads a value, with at most `fuel` steps inwards or onwards. -/
def readValue : Nat → List Char → Option (Json × List Char)
  | 0, _ => none
  | fuel + 1, text =>
    match skipSpace text with
    | 'n' :: 'u' :: 'l' :: 'l' :: rest => some (.null, rest)
    | 't' :: 'r' :: 'u' :: 'e' :: rest => some (.bool true, rest)
    | 'f' :: 'a' :: 'l' :: 's' :: 'e' :: rest => some (.bool false, rest)
    | '"' :: rest => (readString {} rest).map fun (text, rest) => (ofText text, rest)
    | '[' :: rest =>
      match skipSpace rest with
      | ']' :: rest => some (.array [], rest)
      | rest => (readItems fuel rest).map fun (items, rest) => (.array items, rest)
    | '\x7b' :: rest =>
      match skipSpace rest with
      | '\x7d' :: rest => some (.object [], rest)
      | rest => (readFields fuel rest).map fun (fields, rest) => (ofFields fields, rest)
    | text => readNumber text

/-- Reads the items of an array up to its closing bracket. -/
def readItems : Nat → List Char → Option (List Json × List Char)
  | 0, _ => none
  | fuel + 1, text =>
    match readValue fuel text with
    | none => none
    | some (item, rest) =>
      match skipSpace rest with
      | ']' :: rest => some ([item], rest)
      | ',' :: rest => (readItems fuel rest).map fun (items, rest) => (item :: items, rest)
      | _ => none

/-- Reads the fields of an object up to its closing brace. -/
def readFields : Nat → List Char → Option (List (Option String × Json) × List Char)
  | 0, _ => none
  | fuel + 1, text =>
    match skipSpace text with
    | '"' :: rest =>
      match readString {} rest with
      | none => none
      | some (name, rest) =>
        match skipSpace rest with
        | ':' :: rest =>
          match readValue fuel rest with
          | none => none
          | some (value, rest) =>
            match skipSpace rest with
            | '\x7d' :: rest => some ([(name, value)], rest)
            | ',' :: rest =>
              (readFields fuel rest).map fun (fields, rest) => ((name, value) :: fields, rest)
            | _ => none
        | _ => none
    | _ => none

end

/-- The value that a text writes. -/
def ofText? (text : String) : Option Json :=
  match readValue (2 * text.toList.length + 2) text.toList with
  | some (value, rest) => if (skipSpace rest).isEmpty then some value else none
  | none => none

end Wording.Json
