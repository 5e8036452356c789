/-!
# JSON values

The values that reports are written in and read back from.  Of numbers only the unsigned integers
are told apart, since reports have no others.
-/

namespace Wording

/-- A JSON value. -/
inductive Json where
  | null
  | bool (value : Bool)
  | number (value : Nat)
  | string (value : String)
  | array (items : List Json)
  | object (fields : List (String × Json))
  /-- Any other well-formed value: a number that is no unsigned integer (or is not written as
  one), a string whose escapes form no text, or an object that has such a string for a key. -/
  | other

namespace Json

/-- The values of an object's fields of the given name. -/
def valuesOf (fields : List (String × Json)) (name : String) : List Json :=
  (fields.filter (·.1 = name)).map (·.2)

/-- The values of a record's fields, in the order of the names.  A record is an object, in which
each of the fields stands once at most and others say nothing, or an array of all the fields'
values in order. -/
def record? (names : List String) : Json → Option (List (Option Json))
  | .array items => if items.length = names.length then some (items.map some) else none
  | .object fields =>
    names.mapM fun name =>
      match valuesOf fields name with
      | [] => some none
      | [value] => some (some value)
      | _ => none
  | _ => none

/-- The text of a string. -/
def text? : Json → Option String
  | .string value => some value
  | _ => none

/-- The greatest number that a count or a line number can have. -/
def maxCount : Nat := 0xFFFFFFFFFFFFFFFF

/-- The value of a count or a line number. -/
def count? : Json → Option Nat
  | .number value => if value ≤ maxCount then some value else none
  | _ => none

/-- The text of a string, or nothing for null. -/
def optionalText? : Json → Option (Option String)
  | .null => some none
  | .string value => some (some value)
  | _ => none

/-- The items of an array, each read by `read`. -/
def list? {α : Type} (read : Json → Option α) : Json → Option (List α)
  | .array items => items.mapM read
  | _ => none

end Json

end Wording
