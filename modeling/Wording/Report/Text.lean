import Wording.Path
import Wording.Scan.Scanner

/-!
# The text report

A banner, two lines for each finding, and one line for each failure.  Nothing in the texts is
escaped.  On a terminal the tags and the failures are coloured; a text that brings its own code
for the end of colouring gets the colour back after it.
-/

namespace Wording.TextReport

/-- A colour of the report. -/
inductive Colour where
  | boldYellow
  | magenta
  | red
deriving DecidableEq

/-- The code that begins a colour. -/
def Colour.code : Colour → List Char
  | .boldYellow => ['\x1B', '[', '1', ';', '3', '3', 'm']
  | .magenta => ['\x1B', '[', '3', '5', 'm']
  | .red => ['\x1B', '[', '3', '1', 'm']

/-- The code that ends all colouring. -/
def resetCode : List Char := ['\x1B', '[', '0', 'm']

/-- The text with the colour begun again after every end of colouring. -/
def resume (code : List Char) : List Char → List Char
  | '\x1B' :: '[' :: '0' :: 'm' :: rest => resetCode ++ code ++ resume code rest
  | c :: rest => c :: resume code rest
  | [] => []

/-- The text in the colour, if there are colours. -/
def paint (coloured : Bool) (colour : Colour) (text : String) : String :=
  if coloured then
    String.ofList (colour.code ++ resume colour.code text.toList ++ resetCode)
  else text

/-- The first line of the report. -/
def banner (root : String) : String :=
  s!"Scanning {root}...\n"

/-- The tag of a finding of the kind. -/
def tag (coloured : Bool) : RuleKind → String
  | .phrase => paint coloured .boldYellow "[MATCH]"
  | .caution => paint coloured .magenta "[CAUTION]"

/-- What a finding of either kind says.  A blocked phrase always has a suggestion. -/
def message (f : Finding) : String :=
  match f.kind with
  | .phrase =>
    let suggestion := f.suggestion.getD ""
    s!"Found '{f.pattern}'. Suggestion: '{suggestion}'"
  | .caution => s!"Found restricted word '{f.pattern}'"

/-- The two lines of a finding.  The dots at the end stand there whether the excerpt is cut or
not. -/
def finding (coloured : Bool) (f : Finding) : String :=
  s!"{tag coloured f.kind} {Path.fileName f.file}:{f.line} -> {message f}\n" ++
    s!"   Line: {f.excerpt}...\n"

/-- The line of a failure. -/
def failure (coloured : Bool) (f : ReadFailure) : String :=
  paint coloured .red f.message ++ "\n"

/-- The lines of an event. -/
def event (coloured : Bool) : Event → String
  | .finding f => finding coloured f
  | .failure f => failure coloured f

/-- The lines of events in a row. -/
def events (coloured : Bool) (es : List Event) : String :=
  String.join (es.map (event coloured))

/-- How many findings the report has told of after the events, if it began with so many. -/
def count (counted : Nat) : List Event → Nat
  | [] => counted
  | .finding _ :: rest => count (counted + 1) rest
  | .failure _ :: rest => count counted rest

/-- The report of a whole scan. -/
def report (coloured : Bool) (root : String) (es : List Event) : String :=
  banner root ++ events coloured es

end Wording.TextReport
