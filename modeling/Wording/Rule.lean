import Wording.Text.Lowercase
import Wording.Text.Occurrence

/-!
# Rules on wording

A blocked phrase is a text that should not be written and comes with another to suggest.  It
is found anywhere in a line, inside words too, whatever the case.  A caution word is a text to
think about, and is found only as a whole word.
-/

namespace Wording

/-- Which of the two tables a rule stands in. -/
inductive RuleKind where
  | phrase
  | caution
deriving DecidableEq

/-- The kind as reports name it. -/
def RuleKind.id : RuleKind → String
  | .phrase => "blocked_phrase"
  | .caution => "caution_word"

/-- The kind as messages about the table name it. -/
def RuleKind.noun : RuleKind → String
  | .phrase => "phrase"
  | .caution => "caution"

/-- The form in which a pattern is compared with the other patterns of its table. -/
def patternKey (pattern : String) : List Char :=
  Text.lowercase pattern.toList

/-- A blocked phrase and the wording to suggest in its place. -/
structure PhraseRule where
  pattern : String
  suggestion : String
  /-- The lower-case form that is looked for. -/
  key : List Char := patternKey pattern
  key_eq : key = patternKey pattern := by rfl
deriving DecidableEq

/-- A caution word. -/
structure CautionRule where
  pattern : String
deriving DecidableEq

/-- A line made ready for all rules: its text and its lower-case form. -/
structure Line where
  text : List Char
  lower : List Char := Text.lowercase text
  lower_eq : lower = Text.lowercase text := by rfl

/-- The line with the given text. -/
def Line.ofText (text : List Char) : Line where
  text := text

/-- The phrase is part of the line in lower case. -/
def PhraseRule.fires (r : PhraseRule) (line : Line) : Bool :=
  Text.occursIn r.key line.lower

/-- The word is in the line as a whole word, up to case. -/
def CautionRule.fires (r : CautionRule) (line : Line) : Bool :=
  Text.occursAsWord r.pattern.toList line.text

/-- A rule of either table. -/
inductive Rule where
  | phrase (rule : PhraseRule)
  | caution (rule : CautionRule)
deriving DecidableEq

namespace Rule

/-- The table that the rule stands in. -/
def kind : Rule → RuleKind
  | .phrase _ => .phrase
  | .caution _ => .caution

/-- The pattern as it was declared. -/
def pattern : Rule → String
  | .phrase r => r.pattern
  | .caution r => r.pattern

/-- The wording to suggest; only blocked phrases have one. -/
def suggestion? : Rule → Option String
  | .phrase r => some r.suggestion
  | .caution _ => none

/-- The rule finds its pattern in the line. -/
def fires : Rule → Line → Bool
  | .phrase r, line => r.fires line
  | .caution r, line => r.fires line

end Rule

end Wording
