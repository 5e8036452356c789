import Wording.FileTree.Basic
import Wording.Path
import Wording.Scan.Failure

/-!
# Finding what a path names

A path is followed name by name from the working directory, or from the top if it is absolute.
Dots stay, double dots go up (and stay at the top), and a link is replaced by its target, read in
the directory of the link; no more than forty links are followed.  Everything before the last name
has to be a directory, and so has the last one if a slash follows it.
-/

namespace Wording

namespace Path

/-- The pieces of a path that are followed one after another.  Slashes at the end count as one
empty piece; all others are gone. -/
def steps (path : String) : List String :=
  let names := ((pieces path).filter (· ≠ [])).map String.ofList
  if path.toList.getLast? == some '/' then names ++ [""] else names

end Path

/-- What a path leads to. -/
inductive Spot where
  /-- An entry at the place. -/
  | found (place : Place)
  /-- No entry, but a directory where one of the name could be.  A slash may follow the name. -/
  | absent (parent : Place) (name : String) (slashed : Bool)
deriving DecidableEq

namespace FileTree

/-- The most bytes that a name can have. -/
def maxNameLength : Nat := 255

/-- The most bytes that a path can have. -/
def maxPathLength : Nat := 4095

/-- The most links that are followed on the way along one path. -/
def maxLinks : Nat := 40

/-- Follows the steps from the directory; `links` more links may be followed.  If the last step
leads to a link, it is followed only if `followLast` says so. -/
def locate (t : FileTree) (followLast : Bool) (links : Nat) (here : Place) :
    List String → Except Errno Spot
  | [] => .ok (.found here)
  | name :: rest =>
    if !t.isDirectory here then .error .notDirectory
    else if name = "" ∨ name = "." then t.locate followLast links here rest
    else if name = ".." then t.locate followLast links here.dropLast rest
    else if maxNameLength < name.utf8ByteSize then .error .nameTooLong
    else
      let place := here ++ [name]
      match t.entry? place with
      | none =>
        if rest.all (· = "") then .ok (.absent here name !rest.isEmpty) else .error .noEntry
      | some (.link target) =>
        if rest.isEmpty && !followLast then .ok (.found place)
        else
          match links with
          | 0 => .error .tooManyLinks
          | links + 1 =>
            let start := if Path.isAbsolute target then [] else here
            t.locate followLast links start (Path.steps target ++ rest)
      | some _ => t.locate followLast links place rest
termination_by steps => (links, steps.length)

/-- What the path leads to from the working directory. -/
def resolve (t : FileTree) (cwd : Place) (followLast : Bool) (path : String) :
    Except IoFault Spot :=
  if path.toList.contains '\x00' then .error .nulInPath
  else if path.isEmpty then .error (.system .noEntry)
  else if maxPathLength < path.utf8ByteSize then .error (.system .nameTooLong)
  else
    (t.locate followLast maxLinks (if Path.isAbsolute path then [] else cwd)
      (Path.steps path)).mapError .system

/-- The place of the entry that the path names. -/
def placeOf (t : FileTree) (cwd : Place) (followLast : Bool) (path : String) :
    Except IoFault Place :=
  match t.resolve cwd followLast path with
  | .error fault => .error fault
  | .ok (.found place) => .ok place
  | .ok (.absent _ _ _) => .error (.system .noEntry)

/-- The kind of what the path names; of a link if it names one, unless links are followed. -/
def kindOf (t : FileTree) (cwd : Place) (followLast : Bool) (path : String) :
    Except IoFault EntryKind :=
  match t.placeOf cwd followLast path with
  | .error fault => .error fault
  | .ok place =>
    match t.entry? place with
    | some e => .ok e.kind
    | none => .error (.system .noEntry)

/-- The path names a regular file, directly or through links. -/
def isFile (t : FileTree) (cwd : Place) (path : String) : Bool :=
  match t.kindOf cwd true path with
  | .ok .file => true
  | _ => false

/-- The path names a directory, directly or through links. -/
def isDirectoryPath (t : FileTree) (cwd : Place) (path : String) : Bool :=
  match t.kindOf cwd true path with
  | .ok .directory => true
  | _ => false

/-- The path names something, directly or through links. -/
def pathExists (t : FileTree) (cwd : Place) (path : String) : Bool :=
  (t.kindOf cwd true path).isOk

end FileTree

end Wording
