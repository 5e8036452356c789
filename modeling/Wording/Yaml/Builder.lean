import Wording.Yaml.Lexer
import Wording.Yaml.Node

/-!
# Building a document from tokens

The builder takes one token after another.  It keeps the collections that are open, the innermost
first, and what may come next.  A token that shows that a node is left empty, or that a collection
without a closing token of its own is over, is then looked at again in the new state.
-/

namespace Wording.Yaml

/-- The place that an anchor has taken. -/
structure Registration where
  slot : Nat
  place : Nat

/-- An open collection, with the items or entries so far (the last one first), and what of it is
being built. -/
inductive Frame where
  /-- The node of the document. -/
  | document
  | blockSequence (items : List Node)
  /-- A sequence whose dashes are in the column of the keys around it. -/
  | alignedSequence (items : List Node)
  | blockMapping (entries : List (Node × Node))
  | blockKey (entries : List (Node × Node))
  | blockValue (entries : List (Node × Node)) (key : Node)
  | flowSequence (items : List Node)
  | flowMapping (entries : List (Node × Node))
  | flowKey (entries : List (Node × Node))
  /-- A key without an indicator or a colon; its value is empty. -/
  | flowBareKey (entries : List (Node × Node))
  | flowValue (entries : List (Node × Node)) (key : Node)
  /-- A mapping of one entry, which stands in a flow sequence without brackets of its own. -/
  | pairKey (items : List Node)
  | pairValue (items : List Node) (key : Node)

/-- Block collections may begin in the frame. -/
def Frame.allowsBlock : Frame → Bool
  | .document => true
  | .blockSequence _ => true
  | .alignedSequence _ => true
  | .blockKey _ => true
  | .blockValue _ _ => true
  | _ => false

/-- A sequence in the column of the keys may begin in the frame. -/
def Frame.allowsAligned : Frame → Bool
  | .blockKey _ => true
  | .blockValue _ _ => true
  | _ => false

/-- The token shows that the node at the place is empty. -/
def Frame.endsSlot : Frame → Token → Bool
  | .document, t =>
    match t with
    | .versionDirective _ _ => true
    | .tagDirective _ _ => true
    | .documentStart => true
    | .documentEnd => true
    | .streamEnd => true
    | _ => false
  | .blockSequence _, t => t = .blockEntry || t = .blockEnd
  | .alignedSequence _, t => t = .blockEntry || t = .key || t = .value || t = .blockEnd
  | .blockKey _, t => t = .key || t = .value || t = .blockEnd
  | .blockValue _ _, t => t = .key || t = .value || t = .blockEnd
  | .flowKey _, t => t = .value || t = .flowEntry || t = .flowMappingEnd
  | .flowValue _ _, t => t = .flowEntry || t = .flowMappingEnd
  | .pairKey _, t => t = .value || t = .flowEntry || t = .flowSequenceEnd
  | .pairValue _ _, t => t = .flowEntry || t = .flowSequenceEnd
  | _, _ => false

/-- An open collection and its anchor. -/
structure OpenNode where
  frame : Frame
  registration : Option Registration := none

/-- The anchor and the tag in front of a node. -/
structure Properties where
  anchor : Option String := none
  tag : Option TagName := none

/-- What may come next. -/
inductive Mode where
  /-- A document, if there has been none yet. -/
  | beforeDocument
  /-- More directives, or the beginning of the document. -/
  | directives (hasVersion : Bool)
  /-- A node, or a token that shows that it is empty. -/
  | slot
  /-- A node with these properties. -/
  | content (properties : Properties)
  /-- A colon and the value of the key, or a token that shows that the value is empty. -/
  | afterKey
  /-- An item or the end of a flow collection. -/
  | item
  /-- The next item of a collection, or its end. -/
  | between
  /-- The end of the document. -/
  | afterDocument
  /-- Nothing but ends of documents. -/
  | afterAll
  | ended

/-- The state of the builder. -/
structure Builder where
  mode : Mode := .beforeDocument
  stack : List OpenNode := []
  /-- The handles of tags and their meanings. -/
  handles : List (String × List UInt8) := []
  /-- The names of anchors and their slots. -/
  names : List (String × Nat) := []
  anchorCount : Nat := 0
  anchored : List Anchored := []
  root : Option Node := none

namespace Builder

/-- The handles that have a meaning in every document. -/
def defaultHandles : List (String × List UInt8) :=
  [("!", textBytes ['!']), ("!!", textBytes "tag:yaml.org,2002:".toList)]

/-- The meaning of a tag's name. -/
def resolveTag (b : Builder) (name : TagName) : Except Fault (List UInt8) :=
  if name.handle = "" then .ok name.suffix
  else
    match (b.handles ++ defaultHandles).lookup name.handle with
    | some meaning => .ok (meaning ++ name.suffix)
    | none => .error .undefinedTagHandle

/-- Takes a slot for the anchor. -/
def register (b : Builder) : Option String → Builder × Option Registration
  | none => (b, none)
  | some name =>
    let slot := b.names.length
    ({ b with
        names := (name, slot) :: b.names.filter (·.1 ≠ name)
        anchorCount := b.anchorCount + 1 },
      some ⟨slot, b.anchorCount⟩)

/-- Keeps a node that has an anchor. -/
def keep (b : Builder) (r : Option Registration) (node : Node) : Builder :=
  match r with
  | some r => { b with anchored := ⟨r.slot, r.place, node⟩ :: b.anchored }
  | none => b

/-- Puts a finished node into the innermost open collection. -/
def place (b : Builder) (node : Node) : Builder :=
  match b.stack with
  | [] => b
  | o :: outer =>
    let continued (frame : Frame) (mode : Mode) : Builder :=
      { b with stack := { o with frame } :: outer, mode }
    match o.frame with
    | .document => { b with stack := outer, root := some node, mode := .afterDocument }
    | .blockSequence items => continued (.blockSequence (node :: items)) .between
    | .alignedSequence items => continued (.alignedSequence (node :: items)) .between
    | .blockKey entries => continued (.blockValue entries node) .afterKey
    | .blockValue entries key => continued (.blockMapping ((key, node) :: entries)) .between
    | .flowSequence items => continued (.flowSequence (node :: items)) .between
    | .flowKey entries => continued (.flowValue entries node) .afterKey
    | .flowBareKey entries => continued (.flowMapping ((node, .empty) :: entries)) .between
    | .flowValue entries key => continued (.flowMapping ((key, node) :: entries)) .between
    | .pairKey items => continued (.pairValue items node) .afterKey
    | .pairValue items key =>
      continued (.flowSequence (.mapping [(key, node)] :: items)) .between
    | .blockMapping _ => b
    | .flowMapping _ => b

/-- Begins a collection. -/
def start (b : Builder) (anchor : Option String) (frame : Frame) (mode : Mode) : Builder :=
  let (b, registration) := b.register anchor
  { b with stack := { frame, registration } :: b.stack, mode }

/-- Ends the innermost collection, which has become the node. -/
def finish (b : Builder) (node : Node) : Builder :=
  match b.stack with
  | [] => b
  | o :: outer => ({ b with stack := outer }.keep o.registration node).place node

/-- Adds a scalar. -/
def scalar (b : Builder) (anchor : Option String) (node : Node) : Builder :=
  let (b, registration) := b.register anchor
  (b.keep registration node).place node

/-- What becomes of a token. -/
inductive Outcome where
  /-- It has been used. -/
  | taken (next : Builder)
  /-- It is to be looked at in another state. -/
  | again (next : Builder)

/-- The tag of a scalar with text: a lone exclamation mark says no more than no tag. -/
def scalarTag (tag : Option (List UInt8)) : Option (List UInt8) :=
  tag.filter (· ≠ textBytes ['!'])

/-- A token where a node with the properties is expected. -/
def stepContent (b : Builder) (frame : Frame) (p : Properties) (t : Token) :
    Except Fault Outcome := do
  match t with
  | .anchor name =>
    if p.anchor.isNone then return .taken { b with mode := .content { p with anchor := some name } }
  | .tag name =>
    if p.tag.isNone then return .taken { b with mode := .content { p with tag := some name } }
  | .alias name =>
    if p.anchor.isNone && p.tag.isNone then
      match b.names.lookup name with
      | some slot => return .taken (b.place (.alias slot))
      | none => throw .undefinedAnchor
  | _ => pure ()
  let tag ← p.tag.mapM b.resolveTag
  match t with
  | .scalar text plain => return .taken (b.scalar p.anchor (.scalar text plain (scalarTag tag)))
  | .flowSequenceStart => return .taken (b.start p.anchor (.flowSequence []) .item)
  | .flowMappingStart => return .taken (b.start p.anchor (.flowMapping []) .item)
  | .blockSequenceStart =>
    if frame.allowsBlock then return .taken (b.start p.anchor (.blockSequence []) .between)
  | .blockMappingStart =>
    if frame.allowsBlock then return .taken (b.start p.anchor (.blockMapping []) .between)
  | .blockEntry =>
    if frame.allowsAligned then return .taken (b.start p.anchor (.alignedSequence []) .slot)
  | _ => pure ()
  if p.anchor.isNone && p.tag.isNone then throw .missingContent
  return .again (b.scalar p.anchor (.scalar "" true tag))

/-- A token between the items of a collection. -/
def stepBetween (b : Builder) (o : OpenNode) (outer : List OpenNode) (t : Token) :
    Except Fault Outcome :=
  let continued (frame : Frame) (mode : Mode) : Except Fault Outcome :=
    .ok (.taken { b with stack := { o with frame } :: outer, mode })
  match o.frame with
  | .blockSequence items =>
    if t = .blockEntry then continued o.frame .slot
    else if t = .blockEnd then .ok (.taken (b.finish (.sequence items.reverse)))
    else .error .missingEntry
  | .alignedSequence items =>
    if t = .blockEntry then continued o.frame .slot
    else .ok (.again (b.finish (.sequence items.reverse)))
  | .blockMapping entries =>
    if t = .key then continued (.blockKey entries) .slot
    else if t = .blockEnd then .ok (.taken (b.finish (.mapping entries.reverse)))
    else .error .missingKey
  | .flowSequence items =>
    if t = .flowSequenceEnd then .ok (.taken (b.finish (.sequence items.reverse)))
    else if t = .flowEntry then continued o.frame .item
    else .error .missingSeparator
  | .flowMapping entries =>
    if t = .flowMappingEnd then .ok (.taken (b.finish (.mapping entries.reverse)))
    else if t = .flowEntry then continued o.frame .item
    else .error .missingSeparator
  | _ => .error .missingContent

/-- A token where an item of a flow collection may begin. -/
def stepItem (b : Builder) (o : OpenNode) (outer : List OpenNode) (t : Token) :
    Except Fault Outcome :=
  let continued (frame : Frame) (mode : Mode) : Builder :=
    { b with stack := { o with frame } :: outer, mode }
  match o.frame with
  | .flowSequence items =>
    if t = .flowSequenceEnd then .ok (.taken (b.finish (.sequence items.reverse)))
    else if t = .key then .ok (.taken (continued (.pairKey items) .slot))
    else .ok (.again (continued o.frame (.content {})))
  | .flowMapping entries =>
    if t = .flowMappingEnd then .ok (.taken (b.finish (.mapping entries.reverse)))
    else if t = .key then .ok (.taken (continued (.flowKey entries) .slot))
    else .ok (.again (continued (.flowBareKey entries) (.content {})))
  | _ => .error .missingContent

/-- A directive; there is one version at most, and one meaning for a handle. -/
def stepDirective (b : Builder) (hasVersion : Bool) (t : Token) : Except Fault Outcome :=
  match t with
  | .versionDirective major minor =>
    if hasVersion then .error .duplicateDirective
    else if major = 1 && (minor = 1 || minor = 2) then
      .ok (.taken { b with mode := .directives true })
    else .error .unsupportedVersion
  | .tagDirective handle meaning =>
    if (b.handles.lookup handle).isSome then .error .duplicateDirective
    else .ok (.taken { b with handles := (handle, meaning) :: b.handles
                              mode := .directives hasVersion })
  | .documentStart => .ok (.taken { b with stack := [{ frame := .document }], mode := .slot })
  | _ => .error .missingDocumentStart

/-- What becomes of a token. -/
def step (b : Builder) (t : Token) : Except Fault Outcome :=
  match b.mode, b.stack with
  | .beforeDocument, _ =>
    match t with
    | .versionDirective _ _ => b.stepDirective false t
    | .tagDirective _ _ => b.stepDirective false t
    | .documentStart => b.stepDirective false t
    | .streamEnd => .ok (.taken { b with mode := .ended })
    | _ => .ok (.again { b with stack := [{ frame := .document }], mode := .content {} })
  | .directives hasVersion, _ => b.stepDirective hasVersion t
  | .slot, o :: outer =>
    if o.frame.endsSlot t then
      match o.frame with
      | .pairKey items =>
        .ok (.taken { b with
          stack := { o with frame := .pairValue items .empty } :: outer, mode := .afterKey })
      | _ => .ok (.again (b.place .empty))
    else
      .ok (.again { b with mode := .content {} })
  | .content p, o :: _ => b.stepContent o.frame p t
  | .afterKey, _ :: _ =>
    if t = .value then .ok (.taken { b with mode := .slot })
    else .ok (.again (b.place .empty))
  | .item, o :: outer => b.stepItem o outer t
  | .between, o :: outer => b.stepBetween o outer t
  | .afterDocument, _ =>
    match t with
    | .documentEnd => .ok (.taken { b with mode := .afterAll })
    | _ => .ok (.again { b with mode := .afterAll })
  | .afterAll, _ =>
    match t with
    | .documentEnd => .ok (.taken b)
    | .streamEnd => .ok (.taken { b with mode := .ended })
    | .versionDirective _ _ => .error .severalDocuments
    | .tagDirective _ _ => .error .severalDocuments
    | .documentStart => .error .severalDocuments
    | _ => .error .missingDocumentStart
  | _, _ => .error .missingContent

/-- How often a token can still be looked at again. -/
def patience (b : Builder) : Nat :=
  4 * b.stack.length +
    match b.mode with
    | .beforeDocument => 8
    | .slot => 3
    | .item => 3
    | .content _ => 2
    | .afterKey => 1
    | .afterDocument => 1
    | _ => 0

/-- Takes a token. -/
def feed (b : Builder) (t : Token) : Except Fault Builder :=
  match b.step t with
  | .error fault => .error fault
  | .ok (.taken next) => .ok next
  | .ok (.again next) =>
    if next.patience < b.patience then feed next t else .error .missingContent
termination_by b.patience

end Builder

/-- The one document of a text. -/
def Document.ofText? (text : String) : Except Fault Document := do
  let tokens ← Token.ofText? text.toList
  let b ← tokens.foldlM Builder.feed {}
  return ⟨b.root, b.anchored⟩

end Wording.Yaml
