import Wording.Log.Record
import Wording.Program
import Wording.Text.Alphanumeric
import Wording.Text.Blank
import Wording.Text.Pieces

/-!
# Which log records are shown

A filter is a list of directives, written with commas between them.  A directive names a level,
the part of the program that it is about, or both; of all that are about a record, the most
specific one decides whether it is shown.
-/

namespace Wording

/-- Shows the records of a part of the program (or of all) up to a level.  It can be confined to
records that have a field, or to what happens within a span of work. -/
structure LogDirective where
  target : Option String := none
  level : LogLevel
  field : Option String := none
  inSpan : Bool := false
deriving DecidableEq

namespace LogDirective

/-- A directive may begin with the character. -/
def mayBegin (c : Char) : Bool :=
  c == '[' || Text.isAlphanumeric c || c == '-' || c == ':' || c == '_'

/-- The level that stands after an equals sign; nothing stands for all. -/
def levelAfter? (text : List Char) : Option LogLevel :=
  if text.isEmpty then some .trace else LogLevel.ofText? (String.ofList text)

/-- A part of a directive in square brackets: a span, a field in braces, or both. -/
structure Confinement where
  inSpan : Bool
  /-- The field and the rest of the directive from there on. -/
  field : Option (List Char × List Char)
  /-- What follows the brackets. -/
  rest : List Char

/-- Reads what stands in brackets, and the closing one. -/
def confinement? (text : List Char) : Option Confinement :=
  let span := text.takeWhile fun c => c ≠ ']' && c ≠ '\x7b'
  match text.drop span.length with
  | ']' :: rest => some ⟨true, none, rest⟩
  | _ :: inner =>
    let field := inner.takeWhile (· ≠ '\x7d')
    match inner.drop field.length with
    | '\x7d' :: ']' :: rest =>
      if field.isEmpty then none else some ⟨!span.isEmpty, some (field, inner), rest⟩
    | _ => none
  | [] => none

/-- A directive: a level, a target, or a target and a level with an equals sign between them.  A
target without a level shows all its records.  Square brackets after the target confine it.  Where
the parts stand is counted without the white space around the directive. -/
def ofText? (text : List Char) : Option LogDirective :=
  let trimmed := Text.trim text
  let after (rest : List Char) := text.drop (trimmed.length - rest.length)
  let target := trimmed.takeWhile fun c => c ≠ '=' && c ≠ '['
  let written := String.ofList (text.take target.length)
  if !trimmed.head?.any mayBegin then none
  else
    match trimmed.drop target.length with
    | '=' :: level => (levelAfter? (after level)).map fun level => { target := some written, level }
    | '[' :: inner => do
      let c ← confinement? inner
      let level ← match c.rest with
        | [] => some .trace
        | '=' :: level => levelAfter? (after level)
        | _ => none
      let field := c.field.map fun (field, rest) => (after rest).take field.length
      return {
        target := if target.isEmpty then none else some written
        level
        field := field.map String.ofList
        inSpan := c.inSpan || field.any (·.contains '=') }
    | _ =>
      match LogLevel.ofText? (String.ofList text) with
      | some level => some { level }
      | none => some { target := some (String.ofList text), level := .trace }

/-- The directive is about the record.  No record is made within a span, and a field with a value
is a span's. -/
def isAbout (d : LogDirective) (record : LogRecord) : Bool :=
  !d.inSpan && d.target.all (·.toList.isPrefixOf record.target.toList) &&
    d.field.all (record.fields.contains ·)

/-- How long the target is; having one counts too. -/
def weight (d : LogDirective) : Nat :=
  match d.target with
  | none => 0
  | some t => t.utf8ByteSize + 1

/-- The directive is at least as specific as the other: by its target, or else by its field, of
which the later one by its name counts more. -/
def outweighs (d e : LogDirective) : Bool :=
  e.weight < d.weight ||
    (e.weight = d.weight &&
      match e.field, d.field with
      | none, _ => true
      | some _, none => false
      | some f, some g => f ≤ g)

end LogDirective

/-- Which records are shown. -/
structure LogFilter where
  directives : List LogDirective

namespace LogFilter

/-- The filter of directives with commas between them; errors are shown if there is none. -/
def ofText? (text : String) : Option LogFilter := do
  let directives ←
    ((Text.pieces ',' text.toList).filter (· ≠ [])).mapM LogDirective.ofText?
  return ⟨if directives.isEmpty then [{ level := .error }] else directives⟩

/-- The filter that applies if no other is set, or none that can be read. -/
def default (verbose : Bool) : LogFilter :=
  if verbose then ⟨[{ target := some programName, level := .debug }]⟩
  else ⟨[{ level := .warn }]⟩

/-- The filter that the setting asks for. -/
def ofSetting (setting : Option String) (verbose : Bool) : LogFilter :=
  (setting.bind ofText?).getD (default verbose)

/-- The more specific of two directives; the later one of two that are equally so. -/
def pick : Option LogDirective → LogDirective → Option LogDirective
  | none, d => some d
  | some e, d => if d.outweighs e then some d else some e

/-- The record is shown: the most specific directive about its target decides. -/
def shows (f : LogFilter) (record : LogRecord) : Bool :=
  match (f.directives.filter (·.isAbout record)).foldl pick none with
  | some d => record.level.rank ≤ d.level.rank
  | none => false

end LogFilter

end Wording
