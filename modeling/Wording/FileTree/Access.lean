import Wording.FileTree.Resolve
import Wording.Scan.Scanner
import Wording.SystemPath

/-!
# Reading and writing in a file tree

Each operation names its entry by a path, which is a text, and either does its work or says why it
cannot.  An operation that fails changes nothing, except that making several directories keeps those
made before the failure.  So a writing fails before it has begun: one that fails when the file is
open, and then leaves it cut short, as on a full disk or over a quota, is not covered.
-/

namespace Wording.FileTree

/-! ## Reading -/

/-- The bytes of the file or device that the path names. -/
def readBytes (t : FileTree) (cwd : Place) (path : String) : Except IoFault ByteArray :=
  match t.placeOf cwd true path with
  | .error fault => .error fault
  | .ok place =>
    match t.entry? place with
    | some e => e.read.mapError .system
    | none => .error (.system .noEntry)

/-- The text of the file or device that the path names. -/
def readText (t : FileTree) (cwd : Place) (path : String) : Except IoFault String :=
  match t.readBytes cwd path with
  | .error fault => .error fault
  | .ok bytes =>
    match String.fromUTF8? bytes with
    | some text => .ok text
    | none => .error .notUtf8

/-- The names in the directory that the path names, in order, and the kinds of what they name. -/
def list (t : FileTree) (cwd : Place) (path : String) :
    Except IoFault (List (String × EntryKind)) :=
  match t.placeOf cwd true path with
  | .error fault => .error fault
  | .ok place =>
    if !t.isDirectory place then .error (.system .notDirectory)
    else if t.locked.contains place then .error (.system .permissionDenied)
    else .ok (t.children place)

/-- The file that the path names, as a source yields it: with its path as it is shown. -/
def readItem (t : FileTree) (cwd : Place) (path : String) : Item :=
  match t.readBytes cwd path with
  | .error fault => .failure ⟨path, .io fault⟩
  | .ok bytes =>
    match String.fromUTF8? bytes with
    | some text => .file ⟨(SystemPath.ofText path).display, text⟩
    | none => .failure ⟨path, .notUtf8⟩

/-! ## Writing -/

/-- The path ends in a slash. -/
def endsInSlash (path : String) : Bool :=
  path.toList.getLast? == some '/'

/-- The path without slashes at its end, unless it has nothing else. -/
def withoutSlashes (path : String) : String :=
  let bare := String.ofList (path.toList.reverse.dropWhile (· == '/')).reverse
  if bare.isEmpty then path else bare

/-- Writes a file, over the one that the path names or as a new one.  A path that ends in a slash
names no file.  A device takes what is written or refuses it, and stands as before. -/
def writeFile (t : FileTree) (cwd : Place) (path : String) (bytes : ByteArray) :
    Except IoFault FileTree :=
  if endsInSlash path then
    match t.resolve cwd false (withoutSlashes path) with
    | .error fault => .error fault
    | .ok _ => .error (.system .isDirectory)
  else
    match t.resolve cwd true path with
    | .error fault => .error fault
    | .ok (.absent parent name slashed) =>
      if slashed then .error (.system .isDirectory)
      else .ok (t.put (parent ++ [name]) (.file bytes))
    | .ok (.found place) =>
      match t.entry? place with
      | some .directory => .error (.system .isDirectory)
      | some (.device device) =>
        match device.refusal? with
        | some errno => .error (.system errno)
        | none => .ok t
      | _ => .ok (t.put place (.file bytes))

/-- Makes something new where the path names nothing yet.  A link at the end is not followed. -/
def make (t : FileTree) (cwd : Place) (path : String) (e : Entry) : Except IoFault FileTree :=
  match t.resolve cwd false (withoutSlashes path) with
  | .error fault => .error fault
  | .ok (.found _) => .error (.system .fileExists)
  | .ok (.absent parent name _) => .ok (t.put (parent ++ [name]) e)

/-- Makes the directories of a path, given by the path and its parents in turn.  A directory that
is there already is as good as a new one.  The tree is the one after the attempt, failed or not. -/
def makeParents (t : FileTree) (cwd : Place) : List String → FileTree × Option IoFault
  | [] => (t, none)
  | path :: parents =>
    if path.isEmpty then (t, none)
    else
      match t.make cwd path .directory with
      | .ok t => (t, none)
      | .error (.system .noEntry) =>
        match t.makeParents cwd parents with
        | (t, some fault) => (t, some fault)
        | (t, none) =>
          match t.make cwd path .directory with
          | .ok t => (t, none)
          | .error fault => if t.isDirectoryPath cwd path then (t, none) else (t, some fault)
      | .error fault => if t.isDirectoryPath cwd path then (t, none) else (t, some fault)

/-- The path and its parents, the longest first; `fuel` of them at most. -/
def ancestors : Nat → String → List String
  | 0, _ => []
  | fuel + 1, path =>
    path :: match Path.parent? path with
      | some parent => ancestors fuel parent
      | none => []

/-- Makes the directory of the path and those on the way to it, as far as they are missing. -/
def makeDirectories (t : FileTree) (cwd : Place) (path : String) : FileTree × Option IoFault :=
  t.makeParents cwd (ancestors (path.length + 1) path)

/-- Removes what the path names, with all that is below it.  A link is removed itself. -/
def remove (t : FileTree) (cwd : Place) (path : String) : Except IoFault FileTree :=
  match t.placeOf cwd false path with
  | .error fault => .error fault
  | .ok place => .ok (t.erase place)

/-- The paths of all entries below the directory, marked by what they are and in order. -/
def listing (t : FileTree) (directory : Place) : List String :=
  (t.entries.filterMap fun (place, e) =>
    if directory.isPrefixOf place && directory.length < place.length then
      let path := "/".intercalate (place.drop directory.length)
      some (match e with
        | .directory => path ++ "/"
        | .link _ => path ++ "@"
        | .file _ => path
        | .device _ => path)
    else none).mergeSort fun a b => !(b < a)

end Wording.FileTree
