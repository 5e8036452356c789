import Wording.Rule
import Wording.Text.Blank
import Wording.Text.Quoted

/-!
# Rule sets

A rule set is a table of blocked phrases and a table of caution words, each in the order of its
declaration.  It is built only from tables in which no pattern is blank and no two patterns of
one table have the same lower-case form; the first fault, phrases before caution words, is the
reason for refusing a table.

Patterns have no greatest length here.  A matcher that is compiled from a caution word of some hundred
thousand characters can come out too big, and is then a fault of its own; that fault is left out.
-/

namespace Wording

/-- Why tables are refused. -/
inductive TableFault where
  /-- The pattern at this position (from 0) is empty or all white space. -/
  | emptyPattern (kind : RuleKind) (index : Nat)
  /-- The pattern has the same lower-case form as an earlier one of its table. -/
  | duplicatePattern (kind : RuleKind) (pattern first : String)
deriving DecidableEq

/-- What is said about a refused table. -/
def TableFault.message : TableFault → String
  | .emptyPattern kind index => s!"{kind.noun} rule #{index} has an empty pattern"
  | .duplicatePattern kind pattern first =>
    s!"duplicate {kind.noun} pattern {Text.quote pattern} " ++
      s!"(collides with {Text.quote first} when case-folded)"

/-- A pattern with nothing but white space in it. -/
def isBlankPattern (pattern : String) : Bool :=
  (Text.trim pattern.toList).isEmpty

/-- The first fault of the patterns that follow those of `seen` in one table.  The patterns of
`seen` have passed; each stands there with its key. -/
def firstFaultAfter (kind : RuleKind) (seen : List (List Char × String)) :
    List String → Option TableFault
  | [] => none
  | pattern :: rest =>
    if isBlankPattern pattern then
      some (.emptyPattern kind seen.length)
    else
      let key := patternKey pattern
      match seen.lookup key with
      | some first => some (.duplicatePattern kind pattern first)
      | none => firstFaultAfter kind ((key, pattern) :: seen) rest

/-- The first fault of the patterns of one table. -/
def firstFault? (kind : RuleKind) (patterns : List String) : Option TableFault :=
  firstFaultAfter kind [] patterns

/-- What a rule that fires in a line has to say about it. -/
structure Hit where
  kind : RuleKind
  pattern : String
  suggestion : Option String
deriving DecidableEq

/-- The hit of a rule that fires. -/
def Rule.hit (r : Rule) : Hit :=
  ⟨r.kind, r.pattern, r.suggestion?⟩

/-- Blocked phrases and caution words, each in the order of their declaration. -/
structure RuleSet where
  phrases : List PhraseRule
  cautions : List CautionRule
deriving DecidableEq

namespace RuleSet

/-- The rule set of the given tables, or their first fault.  No pattern is too long to be looked
for. -/
def build (phrases : List (String × String)) (cautions : List String) :
    Except TableFault RuleSet :=
  match firstFault? .phrase (phrases.map (·.1)), firstFault? .caution cautions with
  | some fault, _ => .error fault
  | none, some fault => .error fault
  | none, none =>
    .ok ⟨phrases.map fun p => { pattern := p.1, suggestion := p.2 },
      cautions.map fun w => { pattern := w }⟩

/-- The number of rules. -/
def size (rules : RuleSet) : Nat :=
  rules.phrases.length + rules.cautions.length

/-- The rules in the order in which they are tried: phrases, then caution words. -/
def rules (s : RuleSet) : List Rule :=
  s.phrases.map .phrase ++ s.cautions.map .caution

/-- The hits of the rules that fire in the line, one for each, in the order of the rules. -/
def hits (s : RuleSet) (line : Line) : List Hit :=
  (s.rules.filter (·.fires line)).map Rule.hit

end RuleSet

end Wording
