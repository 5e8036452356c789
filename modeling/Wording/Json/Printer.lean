import Wording.Json.Value

/-!
# Writing JSON

A value is written on one line without any blanks, or laid out: each item and each field on a
line of its own, indented by two spaces for each level, and with a space after the colon.  In
strings, only the quote, the backslash and the characters below U+0020 are escaped.
-/

namespace Wording.Json

/-- The two hexadecimal digits of a number below 256. -/
def twoHexDigits (n : Nat) : List Char :=
  [Nat.digitChar (n / 16), Nat.digitChar (n % 16)]

/-- A character as it stands between the quotes. -/
def escapeChar (c : Char) : List Char :=
  if c = '"' then ['\\', '"']
  else if c = '\\' then ['\\', '\\']
  else if c = '\x08' then ['\\', 'b']
  else if c = '\x0C' then ['\\', 'f']
  else if c = '\n' then ['\\', 'n']
  else if c = '\r' then ['\\', 'r']
  else if c = '\t' then ['\\', 't']
  else if c.toNat < 0x20 then ['\\', 'u', '0', '0'] ++ twoHexDigits c.toNat
  else [c]

/-- A string with its quotes. -/
def renderString (s : String) : List Char :=
  '"' :: (s.toList.flatMap escapeChar ++ ['"'])

/-- The line break in front of what stands at the level; none on one line. -/
def lineBreak : Option Nat → List Char
  | none => []
  | some level => '\n' :: List.replicate (2 * level) ' '

/-- What stands between a field's name and its value. -/
def colon : Option Nat → List Char
  | none => [':']
  | some _ => [':', ' ']

mutual

/-- A value at a level of the layout, or on one line.  A value that is none of the others is
written as a negative zero, which is such a value. -/
def render (level : Option Nat) : Json → List Char
  | .null => ['n', 'u', 'l', 'l']
  | .bool true => ['t', 'r', 'u', 'e']
  | .bool false => ['f', 'a', 'l', 's', 'e']
  | .number value => Nat.toDigits 10 value
  | .string value => renderString value
  | .array [] => ['[', ']']
  | .array (item :: items) =>
    '[' :: (renderItems (level.map (· + 1)) (item :: items) ++ (lineBreak level ++ [']']))
  | .object [] => ['\x7b', '\x7d']
  | .object (field :: fields) =>
    '\x7b' ::
      (renderFields (level.map (· + 1)) (field :: fields) ++ (lineBreak level ++ ['\x7d']))
  | .other => ['-', '0']

/-- Items with commas between them. -/
def renderItems (level : Option Nat) : List Json → List Char
  | [] => []
  | [item] => lineBreak level ++ render level item
  | item :: next :: items =>
    lineBreak level ++ (render level item ++ (',' :: renderItems level (next :: items)))

/-- Fields with commas between them. -/
def renderFields (level : Option Nat) : List (String × Json) → List Char
  | [] => []
  | [(name, value)] =>
    lineBreak level ++ (renderString name ++ (colon level ++ render level value))
  | (name, value) :: next :: fields =>
    lineBreak level ++ (renderString name ++ (colon level ++ (render level value ++
      (',' :: renderFields level (next :: fields)))))

end

/-- A value on one line. -/
def compact (value : Json) : String :=
  String.ofList (render none value)

/-- A value laid out on lines, with a line break at the end. -/
def pretty (value : Json) : String :=
  String.ofList (render (some 0) value ++ ['\n'])

end Wording.Json
