/-!
# The words of a command line

A word that begins with a dash is an option, in a long form (`--format`, `--format=json`) or in
the short form of one or more letters (`-v`, `-fjson`).  Two dashes alone separate the options from
what follows.  All other words are plain; so is a dash alone.
-/

namespace Wording

/-- A word of a command line, by its form. -/
inductive Word where
  | separator
  /-- The long form of an option, with a value if an equals sign follows its name. -/
  | long (name : String) (value : Option String)
  /-- The short form: the letter after the dash, and what follows it. -/
  | short (letter : Char) (rest : List Char)
  | plain (text : String)
deriving DecidableEq

namespace Word

/-- The long form of an option, without its dashes. -/
def ofLong (text : List Char) : Word :=
  let name := String.ofList (text.takeWhile (· ≠ '='))
  match text.dropWhile (· ≠ '=') with
  | [] => .long name none
  | _ :: value => .long name (some (String.ofList value))

/-- A word by its form. -/
def ofText (text : String) : Word :=
  match text.toList with
  | ['-', '-'] => .separator
  | '-' :: '-' :: rest => ofLong rest
  | '-' :: letter :: rest => .short letter rest
  | _ => .plain text

end Word

end Wording
