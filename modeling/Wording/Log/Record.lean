import Wording.Scan.Scanner
import Wording.Text.Quoted

/-!
# Log records

What the program tells about its work, beside its output.  Each record has a level, and a target
that names the part of the program it comes from.
-/

namespace Wording

/-- How much a record matters; `off` is the level of filters that show nothing. -/
inductive LogLevel where
  | off
  | error
  | warn
  | info
  | debug
  | trace
deriving DecidableEq

namespace LogLevel

/-- The place of the level among all, from nothing to everything. -/
def rank : LogLevel → Nat
  | off => 0
  | error => 1
  | warn => 2
  | info => 3
  | debug => 4
  | trace => 5

/-- The levels in the order of their ranks. -/
def all : List LogLevel := [off, error, warn, info, debug, trace]

/-- The name of the level. -/
def name : LogLevel → String
  | off => "OFF"
  | error => "ERROR"
  | warn => "WARN"
  | info => "INFO"
  | debug => "DEBUG"
  | trace => "TRACE"

/-- The level with the rank that the digits write; a plus sign may stand before them. -/
def ofDigits? (text : List Char) : Option LogLevel :=
  let digits := match text with
    | '+' :: digits => digits
    | digits => digits
  if digits.isEmpty || !digits.all Char.isDigit then none
  else all[digits.foldl (fun n c => n * 10 + (c.toNat - '0'.toNat)) 0]?

/-- The level that a word or a digit names, in any case. -/
def ofText? (text : String) : Option LogLevel :=
  match ofDigits? text.toList with
  | some level => some level
  | none => all.find? fun level => level.name.toLower == text.toLower

end LogLevel

/-- One record of the log. -/
inductive LogRecord where
  | rulesLoaded (origin name : String) (phrases cautions : Nat)
  | scanning (path : String)
  | skipping (failure : ReadFailure)
  | scanComplete (stats : Stats)
  | excluded (path : String)
  | traversalFault (failure : ReadFailure)
deriving DecidableEq

namespace LogRecord

/-- How much the record matters. -/
def level : LogRecord → LogLevel
  | .rulesLoaded .. => .info
  | .scanning _ => .debug
  | .skipping _ => .warn
  | .scanComplete _ => .info
  | .excluded _ => .debug
  | .traversalFault _ => .warn

/-- The part of the program that the record comes from. -/
def target : LogRecord → String
  | .rulesLoaded .. => "tonecheck::cli"
  | .scanning _ => "tonecheck::scan::scanner"
  | .skipping _ => "tonecheck::scan::scanner"
  | .scanComplete _ => "tonecheck::scan::scanner"
  | .excluded _ => "tonecheck::scan::source"
  | .traversalFault _ => "tonecheck::scan::source"

/-- What the record says. -/
def message : LogRecord → String
  | .rulesLoaded origin name phrases cautions =>
    s!"rules loaded source={origin} name={Text.quote name} phrases={phrases} caution={cautions}"
  | .scanning path => s!"scanning file={path}"
  | .skipping failure => s!"skipping file: {failure.reason.message} path={failure.path}"
  | .scanComplete stats =>
    s!"scan complete files={stats.filesScanned} findings={stats.findings} " ++
      s!"read_errors={stats.readErrors}"
  | .excluded path => s!"excluded path={path}"
  | .traversalFault failure => s!"traversal error: {failure.reason.message} path={failure.path}"

/-- The names of the record's fields; its text is one of them. -/
def fields : LogRecord → List String
  | .rulesLoaded .. => ["message", "source", "name", "phrases", "caution"]
  | .scanning _ => ["message", "file"]
  | .skipping _ => ["message", "path"]
  | .scanComplete _ => ["message", "files", "findings", "read_errors"]
  | .excluded _ => ["message", "path"]
  | .traversalFault _ => ["message", "path"]

end LogRecord

end Wording
