/-!
# Files that cannot be read

The causes for which the system refuses an operation on a path, and the three ways in which a
file that should be scanned yields no text.  A failure is reported in the stream of the scan and
never stops it.
-/

namespace Wording

/-- The number and the wording of the system's refusals. -/
inductive Errno where
  | noEntry
  | inputOutput
  | permissionDenied
  | fileExists
  | notDirectory
  | isDirectory
  | noSpace
  | nameTooLong
  | tooManyLinks
  | other (code : Nat)
deriving DecidableEq

/-- The number of a refusal. -/
def Errno.code : Errno → Nat
  | .noEntry => 2
  | .inputOutput => 5
  | .permissionDenied => 13
  | .fileExists => 17
  | .notDirectory => 20
  | .isDirectory => 21
  | .noSpace => 28
  | .nameTooLong => 36
  | .tooManyLinks => 40
  | .other code => code

/-- The wording of a refusal. -/
def Errno.text : Errno → String
  | .noEntry => "No such file or directory"
  | .inputOutput => "Input/output error"
  | .permissionDenied => "Permission denied"
  | .fileExists => "File exists"
  | .notDirectory => "Not a directory"
  | .isDirectory => "Is a directory"
  | .noSpace => "No space left on device"
  | .nameTooLong => "File name too long"
  | .tooManyLinks => "Too many levels of symbolic links"
  | .other code => s!"Unknown error {code}"

/-- Why an operation on a path fails. -/
inductive IoFault where
  /-- The system refuses it. -/
  | system (errno : Errno)
  /-- The path has a NUL in it, which no file name can have. -/
  | nulInPath
  /-- The bytes that were read are not UTF-8. -/
  | notUtf8
  /-- Any other cause, by its wording. -/
  | described (text : String)
deriving DecidableEq

/-- The wording of an operation's failure. -/
def IoFault.message : IoFault → String
  | .system errno => s!"{errno.text} (os error {errno.code})"
  | .nulInPath => "file name contained an unexpected NUL byte"
  | .notUtf8 => "stream did not contain valid UTF-8"
  | .described text => text

/-- Why a file that should be scanned yields no text. -/
inductive ReadFault where
  /-- Its bytes cannot be read. -/
  | io (fault : IoFault)
  /-- Its bytes are no text. -/
  | notUtf8
  /-- The walk cannot enter the directory at the path. -/
  | walk (path : String) (fault : IoFault)
deriving DecidableEq

/-- The wording of a read failure's reason. -/
def ReadFault.message : ReadFault → String
  | .io fault => fault.message
  | .notUtf8 => IoFault.notUtf8.message
  | .walk path fault => s!"IO error for operation on {path}: {fault.message}"

/-- A file (or directory) that yields no text, and why. -/
structure ReadFailure where
  path : String
  reason : ReadFault
deriving DecidableEq

/-- The line in which a report tells of the failure. -/
def ReadFailure.message (failure : ReadFailure) : String :=
  s!"Error reading {failure.path}: {failure.reason.message}"

end Wording
