import Wording.CommandLine.Help
import Wording.CommandLine.Run

/-!
# The program

Copies the part of the file system that the command can see into a file tree, runs the command on
the tree, and makes in the file system what is new in the tree.
-/

namespace Wording.Main

/-- The absolute path of a place. -/
def absolute (place : Place) : String :=
  "/" ++ "/".intercalate place

/-- The place that an absolute path names. -/
def placeOfAbsolute (path : String) : Place :=
  (Path.steps path).filter (· ≠ "")

/-- The place to which the path leads in the file system, if it leads to one. -/
def realPlace? (path : String) : IO (Option Place) := do
  try
    return some (placeOfAbsolute (← IO.FS.realPath path).toString)
  catch _ => return none

/-- The tree with directories at the place and above it. -/
def withDirectories (t : FileTree) (place : Place) : FileTree :=
  ((List.range place.length).map fun n => place.take (n + 1)).foldl
    (fun t p => if t.isDirectory p then t else t.put p .directory) t

/-- The target of a link that leads to nothing. -/
def nowhere : String := "/dev/null/nowhere"

/-- The bytes of the file at the place, if they are wanted. -/
def bytesAt (place : Place) (wanted : Bool) : IO ByteArray := do
  if wanted then IO.FS.readBinFile (absolute place) else return .empty

/-- The refusal of the system behind a failure. -/
def errnoOf : IO.Error → Errno
  | .permissionDenied _ _ _ => .permissionDenied
  | .resourceExhausted _ _ _ => .noSpace
  | .noSuchThing _ code _ => .other code.toNat
  | .otherError code _ => .other code.toNat
  | _ => .inputOutput

/-- The device at the place.  It is read if what it gives is wanted, and else opened for writing. -/
def deviceAt (place : Place) (wanted : Bool) : IO Device := do
  try
    if wanted then return { Device.null with given := .ok (← IO.FS.readBinFile (absolute place)) }
    else
      let _ ← IO.FS.Handle.mk (absolute place) .append
      return .null
  catch fault => return ⟨.error (errnoOf fault), some (errnoOf fault)⟩

/-- The tree with what stands at the place, links with what they lead to. -/
partial def see (t : FileTree) (directory : Place) (name : String) (wanted : Bool) :
    IO FileTree := do
  let place := directory ++ [name]
  try
    let path := (⟨absolute directory, name⟩ : IO.FS.DirEntry).path
    match (← path.symlinkMetadata).type with
    | .dir => return withDirectories t place
    | .file =>
      if !wanted && (t.entry? place).isSome then return t
      else return (withDirectories t directory).put place (.file (← bytesAt place wanted))
    | .symlink =>
      match ← realPlace? (absolute place) with
      | none => return (withDirectories t directory).put place (.link nowhere)
      | some target =>
        let t := (withDirectories t directory).put place (.link (absolute target))
        match target.getLast? with
        | some last => see t target.dropLast last wanted
        | none => return t
    | .other =>
      return (withDirectories t directory).put place (.device (← deviceAt place wanted))
  catch _ => return t

/-- The tree with what stands at the path and on the way to it. -/
partial def seePath (t : FileTree) (path : String) (wanted : Bool) : IO FileTree := do
  let parent := (Path.parent? path).getD ""
  let t ← if parent.isEmpty then pure t else seePath t parent false
  match Path.fileName? path, ← realPlace? (if parent.isEmpty then "." else parent) with
  | some name, some directory => see t directory name wanted
  | _, _ => return t

/-- The names in the directory at the place, if the system lists them. -/
def namesIn? (directory : Place) : IO (Option (List String)) := do
  try
    let children ← (← IO.FS.realPath (absolute directory)).readDir
    return some (children.toList.map (·.fileName))
  catch _ => return none

/-- The tree with all that stands below the directory; the bytes of files whose names are wanted. -/
partial def seeBelow (t : FileTree) (directory : Place) (wanted : String → Bool) :
    IO FileTree := do
  let some names ← namesIn? directory | return t.lock directory
  let mut t := t
  for name in names do
    t ← see t directory name (wanted name)
    if t.isDirectory (directory ++ [name]) then
      t ← seeBelow t (directory ++ [name]) wanted
  return t

/-- The part of the file system that a scan can see. -/
def seeScan (t : FileTree) (o : ScanOptions) : IO FileTree := do
  let wanted (name : String) : Bool := FileFilter.qualifies ⟨o.fileSuffixes, []⟩ name
  let mut t := t
  for path in o.rules.toList ++ LoadedRules.fileNames do
    t ← seePath t path true
  t ← seePath t o.root (wanted (Path.fileName o.root))
  match ← realPlace? o.root with
  | none => return t
  | some place =>
    if ← (← IO.FS.realPath (absolute place)).isDir then
      seeBelow (withDirectories t place) place wanted
    else return t

/-- The part of the file system that a command can see from the working directory. -/
def seeCommand (cwd : Place) : Command → IO FileTree
  | .scan o => seeScan (withDirectories {} cwd) o
  | .init o => seePath (withDirectories {} cwd) o.output false

/-- Makes what is new in the tree, in the order in which it came to be there. -/
def makeNew (before after : FileTree) : IO Unit := do
  for (place, e) in after.entries.reverse do
    match e, before.entry? place with
    | .directory, none => IO.FS.createDir (absolute place)
    | .file bytes, some (.file old) =>
      if bytes != old then IO.FS.writeBinFile (absolute place) bytes
    | .file bytes, _ => IO.FS.writeBinFile (absolute place) bytes
    | _, _ => pure ()

/-- Writes the rules to the device to which the path leads, if it is one.  The tree does not show
what a device has taken. -/
def writeDevice (t : FileTree) (cwd : Place) (path : String) : IO Unit := do
  match t.placeOf cwd true path with
  | .error _ => return
  | .ok place =>
    if let some (.device _) := t.entry? place then
      IO.FS.writeBinFile (absolute place) builtinText.toUTF8

/-- Makes in the file system what the command has made in the tree. -/
def makeWritten (cwd : Place) (before after : FileTree) (outcome : Outcome) : Command → IO Unit
  | .scan _ => return
  | .init o => do
    makeNew before after
    if outcome.status = .success then writeDevice after cwd o.output

/-- Runs a command of the command line. -/
def runCommand (i : Invocation) : IO Nat := do
  let stdout ← IO.getStdout
  let stderr ← IO.getStderr
  let cwd := placeOfAbsolute (← IO.currentDir).toString
  let before ← seeCommand cwd i.command
  let (outcome, after) := i.command.run (← stdout.isTty) before cwd
  makeWritten cwd before after outcome i.command
  stderr.putStr (i.diagnostics (← IO.getEnv "TONECHECK_LOG") outcome)
  stdout.putStr outcome.output
  return outcome.status.code

/-- Runs the program. -/
def run (words : List String) : IO Nat := do
  match Invocation.ofWords words with
  | .ok i => runCommand i
  | .error usage =>
    let stream ← if usage.exitCode = 0 then IO.getStdout else IO.getStderr
    stream.putStr usage.message
    return usage.exitCode

end Wording.Main

/-- Runs the program on the words after its name. -/
def main (args : List String) : IO UInt32 := do
  return UInt32.ofNat (← Wording.Main.run args)
