import Wording.FileFilter
import Wording.FileTree.Access
import Wording.Log.Record

/-!
# Walking a file tree

The source of a scan of a directory (or of a single file).  The walk goes through the tree from
the root in pre-order, siblings in the order of their names, and stays out of directories that the
filter excludes.  It is lazy: a directory is listed when the walk enters it, and a file is read
when it is reached, each in the tree as it is then.  What kind of entry a name stands for is
settled when the directory is listed.

A link to a file is read like a file.  A link to a directory is not entered, unless it is the
root.  Devices are passed over, and so are links to them.
-/

namespace Wording

/-- A place that the walk still has to visit. -/
inductive Visit where
  /-- The root. -/
  | root (path : String)
  /-- An entry below the root: its path, the names from the root to it, and its kind. -/
  | entry (path : String) (below : List String) (kind : EntryKind)
  /-- A directory that could not be listed. -/
  | unlisted (path : String) (fault : IoFault)
deriving DecidableEq

/-- What comes of a visit. -/
structure Visited where
  /-- What is to be visited next. -/
  inner : List Visit := []
  records : List LogRecord := []
  item : Option Item := none

/-- A walk in progress. -/
structure Walk where
  filter : FileFilter
  pending : List Visit

/-- The root of a walk cannot be used. -/
structure RootFault where
  path : String
  fault : IoFault
deriving DecidableEq

/-- What is said about the root. -/
def RootFault.message (f : RootFault) : String :=
  s!"cannot access path {f.path}: {f.fault.message}"

namespace Walk

/-- A walk that has not begun.  Its root has to be there, and has to be listed if it is a
directory. -/
def start (t : FileTree) (cwd : Place) (root : String) (filter : FileFilter) :
    Except RootFault Walk :=
  match t.kindOf cwd true root with
  | .error fault => .error ⟨root, fault⟩
  | .ok .directory =>
    match t.list cwd root with
    | .error fault => .error ⟨root, fault⟩
    | .ok _ => .ok ⟨filter, [.root root]⟩
  | .ok _ => .ok ⟨filter, [.root root]⟩

/-- The entries of a directory, as visits. -/
def enter (t : FileTree) (cwd : Place) (path : String) (below : List String) : List Visit :=
  match t.list cwd path with
  | .error fault => [.unlisted path fault]
  | .ok children =>
    children.map fun (name, kind) => .entry (Path.join path name) (below ++ [name]) kind

/-- The walk fails at a path. -/
def fail (path : String) (fault : IoFault) : Visited :=
  let failure : ReadFailure := ⟨path, .walk path fault⟩
  { records := [.traversalFault failure], item := some (.failure failure) }

/-- Reads a file, or what might be one, if the filter wants it. -/
def visitFile (t : FileTree) (cwd : Place) (filter : FileFilter) (path name relative : String)
    (kind : EntryKind) : Visited :=
  if !(kind = .file || (kind = .link && t.isFile cwd path)) then {}
  else if !filter.qualifies name then {}
  else if filter.excludes relative then { records := [.excluded path] }
  else { item := some (t.readItem cwd path) }

/-- Visits a place. -/
def visit (t : FileTree) (cwd : Place) (filter : FileFilter) : Visit → Visited
  | .unlisted path fault => fail path fault
  | .root path =>
    match t.kindOf cwd false path with
    | .error fault => fail path fault
    | .ok .directory => { inner := enter t cwd path [] }
    | .ok .link =>
      match t.kindOf cwd true path with
      | .error fault => fail path fault
      | .ok .directory => { inner := enter t cwd path [] }
      | .ok _ => visitFile t cwd filter path (Path.fileName path) "" .link
    | .ok kind => visitFile t cwd filter path (Path.fileName path) "" kind
  | .entry path below kind =>
    let relative := "/".intercalate below
    if kind = .directory then
      if filter.excludes relative then {} else { inner := enter t cwd path below }
    else
      visitFile t cwd filter path (below.getLast?.getD path) relative kind

/-- Goes on to the next item, over `fuel` places at most. -/
def nextWithin (t : FileTree) (cwd : Place) :
    Nat → Walk → List LogRecord × Option Item × Walk
  | 0, w => ([], none, w)
  | fuel + 1, w =>
    match w.pending with
    | [] => ([], none, w)
    | v :: pending =>
      let r := visit t cwd w.filter v
      let w := { w with pending := r.inner ++ pending }
      match r.item with
      | some item => (r.records, some item, w)
      | none =>
        let (records, item, w) := nextWithin t cwd fuel w
        (r.records ++ records, item, w)

/-- No fewer visits than the walk can make in the tree: each pending place holds no more than all
entries, and each of these may turn out not to be listed. -/
def budget (t : FileTree) (w : Walk) : Nat :=
  w.pending.length * (2 * (t.entries.length + 1))

/-- The next item, in the tree as it is now, and the records made on the way. -/
def next (t : FileTree) (cwd : Place) (w : Walk) : List LogRecord × Option Item × Walk :=
  nextWithin t cwd (w.budget t) w

/-- All items that are left, `fuel` of them at most, each with the records made on the way to it;
and the records made after the last. -/
def restWithin (t : FileTree) (cwd : Place) :
    Nat → Walk → List (List LogRecord × Item) × List LogRecord × Walk
  | 0, w => ([], [], w)
  | fuel + 1, w =>
    match w.next t cwd with
    | (records, none, w) => ([], records, w)
    | (records, some item, w) =>
      let (items, after, w) := restWithin t cwd fuel w
      ((records, item) :: items, after, w)

/-- All items that are left in the tree as it is now. -/
def rest (t : FileTree) (cwd : Place) (w : Walk) :
    List (List LogRecord × Item) × List LogRecord × Walk :=
  restWithin t cwd (w.budget t + 1) w

end Walk

end Wording
