import Wording.Text.Printable

/-!
# Quoted text in messages

A message that repeats a text from its input puts it in double quotes and escapes what could be
misread: the quote and the backslash, the common controls by their letters, and any other
character that is not printable by its code point.
-/

namespace Wording.Text

/-- A code point in lower-case hexadecimal digits, without padding. -/
def hexDigits (n : Nat) : List Char :=
  Nat.toDigits 16 n

/-- One character as it stands between the quotes. -/
def quoteChar (c : Char) : List Char :=
  if c = '\x00' then ['\\', '0']
  else if c = '\t' then ['\\', 't']
  else if c = '\n' then ['\\', 'n']
  else if c = '\r' then ['\\', 'r']
  else if c = '"' then ['\\', '"']
  else if c = '\\' then ['\\', '\\']
  else if isPrintable c then [c]
  else "\\u\x7b".toList ++ hexDigits c.toNat ++ "\x7d".toList

/-- A text in double quotes, with what could be misread escaped. -/
def quote (text : String) : String :=
  "\"" ++ String.ofList (text.toList.flatMap quoteChar) ++ "\""

end Wording.Text
