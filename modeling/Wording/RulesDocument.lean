import Wording.RuleSet
import Wording.Yaml.Builder

/-!
# Rules documents

A table of rules as it is written down:

    version: "1"
    name: "my-rules"
    phrases:
      - pattern: "Calm down"
        suggestion: "Take a short pause"
    caution:
      - "Fix"

Every part may be left out, and unknown keys say nothing.  Any scalar is taken as its text.  Only
the version and the name know a null; a list may be left empty by writing nothing at all.
-/

namespace Wording

/-- Why a text is no rules document. -/
inductive DocumentFault where
  | yaml (fault : Yaml.Fault)
  | notAMapping
  | notAList (field : String)
  | notAText (field : String)
  | notAPhrase
  | missingField (field : String)
  | repeatedField (field : String)
  | tooManyAliases
deriving DecidableEq

/-- What is said about the text. -/
def DocumentFault.message : DocumentFault → String
  | .yaml fault => fault.message
  | .notAMapping => "expected a rules table"
  | .notAList field => s!"{field}: expected a list"
  | .notAText field => s!"{field}: expected a text"
  | .notAPhrase => "expected a phrase with a pattern and a suggestion"
  | .missingField field => s!"missing field {field}"
  | .repeatedField field => s!"repeated field {field}"
  | .tooManyAliases => "repetition limit exceeded"

/-- A rules document. -/
structure RulesDocument where
  version : Option String := none
  name : Option String := none
  phrases : List (String × String) := []
  cautions : List String := []
deriving DecidableEq

namespace RulesDocument

open Yaml (Node Document)

/-! ## Reading the parts of a document -/

/-- The plain texts that stand for nothing. -/
def isNull (text : String) : Bool :=
  text = "~" || text = "null" || text = "Null" || text = "NULL"

/-- The tag that a null has. -/
def nullTag : List UInt8 :=
  Yaml.textBytes "tag:yaml.org,2002:null".toList

/-- The text of a scalar. -/
def text? (d : Document) (field : String) (node : Node) : Except DocumentFault String :=
  match d.resolve? node with
  | some (.scalar text _ _) => .ok text
  | _ => .error (.notAText field)

/-- A text that may be null.  In plain style and without a tag, nothing and the words for null
are; with the tag of null, anything else is refused. -/
def optionalText? (d : Document) (field : String) (node : Node) :
    Except DocumentFault (Option String) :=
  match d.resolve? node with
  | some (.scalar text plain tag) =>
    if !plain then .ok (some text)
    else if tag = some nullTag then
      if isNull text then .ok none else .error (.notAText field)
    else if tag.isNone && (text.isEmpty || isNull text) then .ok none
    else .ok (some text)
  | _ => .error (.notAText field)

/-- A list; nothing at all is the empty one. -/
def list? (d : Document) (field : String) (node : Node) : Except DocumentFault (List Node) :=
  match d.resolve? node with
  | some (.sequence items) => .ok items
  | some (.scalar text true _) => if text.isEmpty then .ok [] else .error (.notAList field)
  | _ => .error (.notAList field)

/-- The entries of a mapping; nothing at all is the empty one. -/
def entries? (d : Document) (fault : DocumentFault) (node : Node) :
    Except DocumentFault (List (String × Node)) :=
  match d.resolve? node with
  | some (.mapping entries) => entries.mapM fun (key, value) => return (← text? d "key" key, value)
  | some (.scalar text true _) => if text.isEmpty then .ok [] else .error fault
  | _ => .error fault

/-- The value of a field, which is there at most once. -/
def field? (entries : List (String × Node)) (name : String) :
    Except DocumentFault (Option Node) :=
  match entries.filter (·.1 = name) with
  | [] => .ok none
  | [entry] => .ok (some entry.2)
  | _ => .error (.repeatedField name)

/-- The text of a field that has to be there. -/
def requiredText? (d : Document) (entries : List (String × Node)) (name : String) :
    Except DocumentFault String := do
  match ← field? entries name with
  | some node => text? d name node
  | none => throw (.missingField name)

/-- A phrase: its pattern and the suggestion for it. -/
def phrase? (d : Document) (node : Node) : Except DocumentFault (String × String) := do
  let entries ← entries? d .notAPhrase node
  return (← requiredText? d entries "pattern", ← requiredText? d entries "suggestion")

/-- The value of an optional field, read by `read`. -/
def optionalField? {α : Type} (entries : List (String × Node)) (name : String) (default : α)
    (read : Node → Except DocumentFault α) : Except DocumentFault α := do
  match ← field? entries name with
  | some node => read node
  | none => return default

/-! ## How often aliases are followed

A short document can make reading long, if aliases stand for many nodes with aliases in them.  So
there is a limit, which goes with the size of the document. -/

/-- How often an alias is followed in reading a text, or in finding what a list holds. -/
def follows (node : Node) : Nat :=
  if node.isAlias then 1 else 0

/-- How often aliases are followed in reading a mapping, where `read` says how often they are for
the value of a key.  Values of unknown keys are not looked at. -/
def followsInEntries (d : Document) (read : String → Node → Nat) (node : Node) : Nat :=
  (d.entries node).foldl (fun n (key, value) =>
    n + follows key + (text? d "key" key).toOption.elim 0 (read · value)) (follows node)

/-- How often aliases are followed in reading a list, where `read` says it for an item. -/
def followsInItems (d : Document) (read : Node → Nat) (node : Node) : Nat :=
  (d.items node).foldl (fun n item => n + read item) (follows node)

/-- How often aliases are followed in reading a phrase. -/
def followsInPhrase (d : Document) : Node → Nat :=
  followsInEntries d fun key value =>
    if key = "pattern" || key = "suggestion" then follows value else 0

/-- How often aliases are followed in reading a table. -/
def followsInTable (d : Document) : Node → Nat :=
  followsInEntries d fun key value =>
    if key = "version" || key = "name" then follows value
    else if key = "phrases" then followsInItems d (followsInPhrase d) value
    else if key = "caution" then followsInItems d follows value
    else 0

/-- The greatest number of times that aliases are followed in a document. -/
def maxFollows (root : Node) : Nat :=
  100 * root.size

/-- The rules document that a YAML document holds. -/
def ofYaml? (d : Document) : Except DocumentFault RulesDocument := do
  match d.root with
  | none => return {}
  | some root =>
    if maxFollows root < followsInTable d root then throw .tooManyAliases
    let entries ← entries? d .notAMapping root
    return {
      version := ← optionalField? entries "version" none (optionalText? d "version")
      name := ← optionalField? entries "name" none (optionalText? d "name")
      phrases := ← optionalField? entries "phrases" [] fun node => do
        (← list? d "phrases" node).mapM (phrase? d)
      cautions := ← optionalField? entries "caution" [] fun node => do
        (← list? d "caution" node).mapM (text? d "caution") }

/-- The rules document that a text holds. -/
def ofText? (text : String) : Except DocumentFault RulesDocument :=
  match Document.ofText? text with
  | .error fault => .error (.yaml fault)
  | .ok d => ofYaml? d

/-- The name by which messages call the table. -/
def displayName (d : RulesDocument) : String :=
  d.name.getD "unnamed"

end RulesDocument

/-! ## From a document to rules -/

/-- Why a text gives no rules. -/
inductive RulesFault where
  | malformed (fault : DocumentFault)
  | unsupportedVersion (version : String)
  | invalidTable (fault : TableFault)
deriving DecidableEq

/-- What is said about the text. -/
def RulesFault.message : RulesFault → String
  | .malformed fault => s!"parsing rules file: {fault.message}"
  | .unsupportedVersion version =>
    s!"unsupported rules file version {Text.quote version}, expected \"1\""
  | .invalidTable fault => s!"invalid rule table: {fault.message}"

namespace RulesDocument

/-- The version that documents have, if they give one. -/
def supportedVersion : String := "1"

/-- The document that a text holds, if its version is supported. -/
def read (text : String) : Except RulesFault RulesDocument :=
  match ofText? text with
  | .error fault => .error (.malformed fault)
  | .ok d =>
    match d.version with
    | none => .ok d
    | some version =>
      if version = supportedVersion then .ok d else .error (.unsupportedVersion version)

/-- The rule set of the document's tables. -/
def ruleSet (d : RulesDocument) : Except RulesFault RuleSet :=
  (RuleSet.build d.phrases d.cautions).mapError .invalidTable

end RulesDocument

end Wording
