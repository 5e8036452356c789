import Wording.Glob.Pattern

/-!
# Reading glob patterns

A pattern is read from left to right.  The state of the reading holds the tokens of the innermost
list that is still open (the whole pattern, or the current alternative of a group), the groups
around it, and the class that is being read, if any.
-/

namespace Wording.Glob

/-- Why a pattern is refused. -/
inductive Fault where
  | unclosedClass
  | invalidRange (low high : Char)
  | unopenedGroup
  | unclosedGroup
  | danglingEscape
deriving DecidableEq

/-- What is said about a refused pattern. -/
def Fault.message : Fault → String
  | .unclosedClass => "unclosed character class; missing ']'"
  | .invalidRange low high => s!"invalid range; '{low}' > '{high}'"
  | .unopenedGroup =>
    "unopened alternate group; missing '\x7b' (maybe escape '\x7d' with '[\x7d]'?)"
  | .unclosedGroup =>
    "unclosed alternate group; missing '\x7d' (maybe escape '\x7b' with '[\x7b]'?)"
  | .danglingEscape => "dangling '\\'"

/-- A class that is being read. -/
structure OpenClass where
  negated : Bool
  /-- The ranges, the last one first. -/
  ranges : List (Char × Char) := []
  /-- No character of the class has been read. -/
  atStart : Bool := true
  /-- A dash has been read that may make the last character the low end of a range. -/
  inRange : Bool := false

namespace OpenClass

/-- Makes the character the high end of the last range. -/
def extend (k : OpenClass) (c : Char) : Except Fault OpenClass :=
  match k.ranges with
  | [] => .ok k
  | (low, _) :: rest =>
    if c < low then .error (.invalidRange low c)
    else .ok { k with ranges := (low, c) :: rest, inRange := false }

/-- The class after a character that does not close it. -/
def add (k : OpenClass) (c : Char) : Except Fault OpenClass :=
  if k.atStart then .ok { k with ranges := [(c, c)], atStart := false }
  else if k.inRange then k.extend c
  else if c = '-' then .ok { k with inRange := true }
  else .ok { k with ranges := (c, c) :: k.ranges }

/-- The token of the class when it is closed; a dash at its end stands for itself. -/
def close (k : OpenClass) : Token :=
  .charClass k.negated (if k.inRange then ('-', '-') :: k.ranges else k.ranges).reverse

end OpenClass

/-- A group of alternatives that is being read. -/
structure OpenGroup where
  /-- The tokens before the group, the last one first. -/
  outer : List Token
  /-- The alternatives that have been read, the last one first. -/
  closed : List (List Token) := []

/-- The state of reading a pattern. -/
structure Reading where
  /-- The tokens of the innermost open list, the last one first. -/
  current : List Token := []
  /-- The open groups, the innermost first. -/
  groups : List OpenGroup := []
  openClass : Option OpenClass := none
  /-- The character before the next one. -/
  previous : Option Char := none

namespace Reading

/-- Adds a token to the innermost list. -/
def push (r : Reading) (t : Token) : Reading :=
  { r with current := t :: r.current }

/-- Adds the tokens of two stars with no meaning beyond that of one. -/
def pushRuns (r : Reading) : Reading :=
  (r.push .anyRun).push .anyRun

/-- Puts the token in place of the last one (the slash before a double star), unless that one is
itself a double star at the edge of its list. -/
def replaceSlash (r : Reading) (t : Token) : Reading :=
  match r.current with
  | .leadingDirs :: _ => r
  | .trailingDirs :: _ => r
  | _ :: rest => { r with current := t :: rest }
  | [] => { r with current := [t] }

/-- A double star can stand for directories only after a slash, or, within a group, where an
alternative begins. -/
def mayStartDirs (r : Reading) : Bool :=
  match r.previous with
  | some '/' => true
  | some ',' => !r.groups.isEmpty
  | some '\x7b' => !r.groups.isEmpty
  | _ => false

/-- Opens a group. -/
def openGroup (r : Reading) : Reading :=
  { r with current := [], groups := ⟨r.current, []⟩ :: r.groups }

/-- Goes on to the next alternative; outside of groups a comma stands for itself. -/
def nextAlternative (r : Reading) : Reading :=
  match r.groups with
  | [] => r.push (.literal ',')
  | g :: rest =>
    { r with current := [], groups := { g with closed := r.current.reverse :: g.closed } :: rest }

/-- Closes the innermost group. -/
def closeGroup (r : Reading) : Except Fault Reading :=
  match r.groups with
  | [] => .error .unopenedGroup
  | g :: rest =>
    let choice := Token.choice (r.current.reverse :: g.closed).reverse
    .ok { r with current := choice :: g.outer, groups := rest }

/-- The pattern that has been read, if nothing is left open. -/
def finish (r : Reading) : Except Fault Pattern :=
  if r.openClass.isSome then .error .unclosedClass
  else if !r.groups.isEmpty then .error .unclosedGroup
  else .ok ⟨r.current.reverse⟩

/-- The character has been read. -/
def passed (r : Reading) (c : Char) : Reading :=
  { r with previous := some c }

/-- Reads a character outside of classes that is neither a star nor an escape. -/
def plain (r : Reading) (c : Char) : Except Fault Reading :=
  match c with
  | '?' => .ok (r.push .anyByte)
  | '[' => .ok { r with openClass := some { negated := false } }
  | '\x7b' => .ok r.openGroup
  | '\x7d' => r.closeGroup
  | ',' => .ok r.nextAlternative
  | _ => .ok (r.push (.literal c))

/-- Reads the rest of a pattern. -/
def readAll (r : Reading) : List Char → Except Fault Pattern
  | [] => r.finish
  | c :: rest =>
    match r.openClass with
    | some k =>
      if c = ']' && !k.atStart then
        readAll ({ r with openClass := none }.push k.close |>.passed c) rest
      else
        match k.add c with
        | .error fault => .error fault
        | .ok k => readAll ({ r with openClass := some k }.passed c) rest
    | none =>
      match c, rest with
      | '\\', [] => .error .danglingEscape
      | '\\', d :: rest => readAll (r.push (.literal d) |>.passed d) rest
      | '[', '!' :: rest =>
        readAll ({ r with openClass := some { negated := true } }.passed '!') rest
      | '[', '^' :: rest =>
        readAll ({ r with openClass := some { negated := true } }.passed '^') rest
      | '*', '*' :: rest =>
        if r.current.isEmpty then
          match rest with
          | [] => (r.push .leadingDirs).finish
          | '/' :: rest => readAll (r.push .leadingDirs |>.passed '/') rest
          | rest => readAll (r.pushRuns.passed '*') rest
        else if r.mayStartDirs then
          match rest with
          | [] => (r.replaceSlash .trailingDirs).finish
          | '/' :: rest => readAll (r.replaceSlash .middleDirs |>.passed '/') rest
          | d :: rest =>
            if (d = ',' || d = '\x7d') && !r.groups.isEmpty then
              readAll (r.replaceSlash .trailingDirs |>.passed '*') (d :: rest)
            else
              readAll (r.pushRuns.passed '*') (d :: rest)
        else
          readAll (r.pushRuns.passed '*') rest
      | '*', rest => readAll (r.push .anyRun |>.passed '*') rest
      | _, rest =>
        match r.plain c with
        | .error fault => .error fault
        | .ok r => readAll (r.passed c) rest
termination_by chars => chars.length

end Reading

/-- Reads a pattern. -/
def Pattern.ofText? (text : String) : Except Fault Pattern :=
  Reading.readAll {} text.toList

end Wording.Glob
