import Wording.BuiltinRules
import Wording.FileTree.Access
import Wording.Log.Record

/-!
# Loading the rules of a scan

The rules come from the file that the user names, or else from the first rules file in the working
directory, or else from the built-in table.  Once a file is chosen its rules are used or the scan
fails: a faulty file is never passed over in favour of the next candidate.
-/

namespace Wording

/-- Where rules come from. -/
inductive RulesOrigin where
  | file (path : String)
  | builtin
deriving DecidableEq

/-- The origin as messages call it. -/
def RulesOrigin.name : RulesOrigin → String
  | .file path => path
  | .builtin => "built-in"

/-- Why rules cannot be loaded. -/
inductive LoadFault where
  | unreadable (path : String) (fault : IoFault)
  | refused (fault : RulesFault)
deriving DecidableEq

/-- The cause behind a fault, if there is one. -/
def LoadFault.cause? : LoadFault → Option String
  | .unreadable _ fault => some fault.message
  | .refused (.malformed fault) => some fault.message
  | .refused (.unsupportedVersion _) => none
  | .refused (.invalidTable fault) => some fault.message

/-- What is said about the fault. -/
def LoadFault.message : LoadFault → String
  | .unreadable path fault => s!"reading rules file {path}: {fault.message}"
  | .refused fault => fault.message

/-- What is said about the fault, and then its cause, even if that has been said already. -/
def LoadFault.report (fault : LoadFault) : String :=
  match fault.cause? with
  | some cause => s!"{fault.message}: {cause}"
  | none => fault.message

/-- Rules ready for use. -/
structure LoadedRules where
  origin : RulesOrigin
  document : RulesDocument
  rules : RuleSet

namespace LoadedRules

/-- The names under which a rules file is looked for, in this order. -/
def fileNames : List String := ["tonecheck.yaml", ".tonecheck.yaml"]

/-- The first rules file in the directory.  What is no regular file is passed over. -/
def discovered? (t : FileTree) (cwd : Place) (directory : String) : Option String :=
  (fileNames.map (Path.join directory)).find? (t.isFile cwd)

/-- The origin of the rules: the named file, or one in the directory, or the built-in table. -/
def chooseOrigin (t : FileTree) (cwd : Place) (explicit : Option String) (directory : String) :
    RulesOrigin :=
  match explicit.or (discovered? t cwd directory) with
  | some path => .file path
  | none => .builtin

/-- The text of the rules document. -/
def text? (t : FileTree) (cwd : Place) : RulesOrigin → Except LoadFault String
  | .builtin => .ok builtinText
  | .file path => (t.readText cwd path).mapError (.unreadable path)

/-- The rules of the document that the text holds. -/
def ofText? (origin : RulesOrigin) (text : String) : Except LoadFault LoadedRules :=
  match RulesDocument.read text with
  | .error fault => .error (.refused fault)
  | .ok document =>
    match document.ruleSet with
    | .error fault => .error (.refused fault)
    | .ok rules => .ok ⟨origin, document, rules⟩

/-- Loads the rules from where they come from. -/
def load (t : FileTree) (cwd : Place) (explicit : Option String) (directory : String) :
    Except LoadFault LoadedRules :=
  let origin := chooseOrigin t cwd explicit directory
  match text? t cwd origin with
  | .error fault => .error fault
  | .ok text => ofText? origin text

/-- The log record of the loading. -/
def record (l : LoadedRules) : LogRecord :=
  .rulesLoaded l.origin.name l.document.displayName l.rules.phrases.length l.rules.cautions.length

end LoadedRules

end Wording
