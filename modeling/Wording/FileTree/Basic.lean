import Wording.Scan.Failure

/-!
# File trees

A file tree is a list of entries, each at its place: the names from the top down to it.  The top
itself is a directory without being listed.  A place that is listed twice holds what is listed
first, so that putting an entry at a place is adding it in front.

Names, paths and the targets of links are texts.  A file system can have names that are not UTF-8;
such names, and the paths through them, are not covered.  Of permissions a tree knows one: a directory
can be locked, and then its entries can be reached by their names but not listed.

What is neither a file nor a link nor a directory is a device, and so are pipes and sockets, as far
as they answer at once.  A pipe that waits for its other end, and a device that never comes to an end,
are not covered; nor are a file that stands at two places and a file of the system itself, which does
not give back what is written to it.
-/

namespace Wording

/-- The names from the top of a tree down to an entry. -/
abbrev Place := List String

/-- How a device answers.  What is written to it goes elsewhere: what it gives stays the same. -/
structure Device where
  /-- What reading it to its end gives. -/
  given : Except Errno ByteArray
  /-- Why it does not take what is written to it, unless it does. -/
  refusal? : Option Errno

/-- The device that gives nothing and takes everything. -/
def Device.null : Device where
  given := .ok .empty
  refusal? := none

/-- What stands at a place. -/
inductive Entry where
  | file (bytes : ByteArray)
  | link (target : String)
  | directory
  | device (device : Device)

/-- What kind of entry it is. -/
inductive EntryKind where
  | file
  | link
  | directory
  | device
deriving DecidableEq

/-- The kind of an entry. -/
def Entry.kind : Entry → EntryKind
  | .file _ => .file
  | .link _ => .link
  | .directory => .directory
  | .device _ => .device

/-- The bytes that are read from an entry to which a path leads. -/
def Entry.read : Entry → Except Errno ByteArray
  | .file bytes => .ok bytes
  | .link _ => .error .noEntry
  | .directory => .error .isDirectory
  | .device d => d.given

/-- A tree of files, links and directories. -/
structure FileTree where
  entries : List (Place × Entry) := []
  /-- The directories whose entries the system does not list. -/
  locked : List Place := []

namespace FileTree

/-- What stands at the place, if anything does. -/
def entry? (t : FileTree) (p : Place) : Option Entry :=
  if p.isEmpty then some .directory else t.entries.lookup p

/-- A directory stands at the place. -/
def isDirectory (t : FileTree) (p : Place) : Bool :=
  match t.entry? p with
  | some .directory => true
  | _ => false

/-- The tree with the entry at the place. -/
def put (t : FileTree) (p : Place) (e : Entry) : FileTree where
  entries := (p, e) :: t.entries.filter (·.1 ≠ p)
  locked := t.locked.filter (· ≠ p)

/-- The tree without the place and what is below it. -/
def erase (t : FileTree) (p : Place) : FileTree where
  entries := t.entries.filter fun e => !p.isPrefixOf e.1
  locked := t.locked.filter fun q => !p.isPrefixOf q

/-- The tree in which the directory at the place cannot be listed. -/
def lock (t : FileTree) (p : Place) : FileTree :=
  { t with locked := p :: t.locked }

/-- The name of a place in the directory, if it is one. -/
def childName? (directory p : Place) : Option String :=
  if p.dropLast = directory then p.getLast? else none

/-- The names in a directory and the kinds of what they name, in the order of the names. -/
def children (t : FileTree) (p : Place) : List (String × EntryKind) :=
  (t.entries.filterMap fun e => (childName? p e.1).map fun name => (name, e.2.kind)).mergeSort
    fun a b => !(b.1 < a.1)

end FileTree

end Wording
