import Wording.Yaml.Token

/-!
# Documents

A document is a tree of nodes.  An anchor gives a node a name, and an alias stands for the node of
that name.  The names are kept apart by slots: an anchor takes the slot whose number is how many
names there are when it is met, and an alias stands for the node that took its name's slot last.
-/

namespace Wording.Yaml

/-- A node of a document. -/
inductive Node where
  /-- A text, whether it is written plain, and its tag, if it has one. -/
  | scalar (text : String) (plain : Bool) (tag : Option (List UInt8))
  | sequence (items : List Node)
  | mapping (entries : List (Node × Node))
  | alias (slot : Nat)

/-- The node that stands where nothing is written. -/
def Node.empty : Node :=
  .scalar "" true none

/-- The node is an alias. -/
def Node.isAlias : Node → Bool
  | .alias _ => true
  | _ => false

mutual

/-- How many marks a node is written with: one for a scalar or an alias, and one at each end of a
collection. -/
def Node.size : Node → Nat
  | .scalar _ _ _ => 1
  | .alias _ => 1
  | .sequence items => itemsSize items + 2
  | .mapping entries => entriesSize entries + 2

/-- The sizes of items taken together. -/
def itemsSize : List Node → Nat
  | [] => 0
  | item :: rest => item.size + itemsSize rest

/-- The sizes of entries taken together. -/
def entriesSize : List (Node × Node) → Nat
  | [] => 0
  | (key, value) :: rest => key.size + value.size + entriesSize rest

end

/-- A node that has an anchor. -/
structure Anchored where
  slot : Nat
  /-- How many anchors precede it in the document. -/
  place : Nat
  node : Node

/-- A document: its node, none if the text holds no document at all, and the nodes with
anchors. -/
structure Document where
  root : Option Node
  anchored : List Anchored

namespace Document

/-- The node that took the slot last. -/
def inSlot? (d : Document) (slot : Nat) : Option Node :=
  (d.anchored.filter (·.slot = slot)).foldl later none |>.map (·.node)
where
  /-- The later of two nodes. -/
  later : Option Anchored → Anchored → Option Anchored
    | none, a => some a
    | some b, a => if b.place < a.place then some a else some b

/-- The node itself, or the one that it stands for. -/
def resolve? (d : Document) : Node → Option Node
  | .alias slot => d.inSlot? slot
  | node => some node

/-- The items of a sequence, and none of any other node. -/
def items (d : Document) (node : Node) : List Node :=
  match d.resolve? node with
  | some (.sequence items) => items
  | _ => []

/-- The entries of a mapping, and none of any other node. -/
def entries (d : Document) (node : Node) : List (Node × Node) :=
  match d.resolve? node with
  | some (.mapping entries) => entries
  | _ => []

end Document

end Wording.Yaml
