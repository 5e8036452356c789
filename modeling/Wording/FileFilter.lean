import Wording.Glob.Parser
import Wording.Text.Quoted

/-!
# Which files are scanned

A file qualifies by the end of its name, and is left out when its path below the root of the scan
matches one of the exclude patterns.  The empty path (the root itself) is never left out.

A pattern is refused for what is written in it, and not for its length: that the compiled form of one
or of all together comes out too big is a fault that is left out.
-/

namespace Wording

/-- The name suffixes of files that are scanned when no others are asked for. -/
def defaultSuffixes : List String := [".jsx", ".js", ".tsx", ".ts"]

/-- An exclude pattern that cannot be read. -/
structure FilterFault where
  pattern : String
  fault : Glob.Fault
deriving DecidableEq

/-- What is said about the pattern. -/
def FilterFault.message (f : FilterFault) : String :=
  s!"invalid exclude pattern {Text.quote f.pattern}: " ++
    s!"error parsing glob '{f.pattern}': {f.fault.message}"

/-- The suffixes of the names of files to scan, and the patterns of paths to leave out. -/
structure FileFilter where
  suffixes : List String := defaultSuffixes
  excluded : List Glob.Pattern := []

namespace FileFilter

/-- The patterns with these texts, or the first that cannot be read.  All patterns that can be read
can be used together. -/
def readPatterns : List String → Except FilterFault (List Glob.Pattern)
  | [] => .ok []
  | text :: rest =>
    match Glob.Pattern.ofText? text with
    | .error fault => .error ⟨text, fault⟩
    | .ok pattern => (readPatterns rest).map (pattern :: ·)

/-- The filter with the suffixes and the texts of the exclude patterns. -/
def ofTexts (suffixes exclude : List String) : Except FilterFault FileFilter :=
  (readPatterns exclude).map fun patterns => ⟨suffixes, patterns⟩

/-- The name ends with one of the suffixes. -/
def qualifies (f : FileFilter) (name : String) : Bool :=
  f.suffixes.any fun suffix => suffix.toList.isSuffixOf name.toList

/-- The path below the root matches one of the exclude patterns. -/
def excludes (f : FileFilter) (path : String) : Bool :=
  !path.isEmpty && f.excluded.any (·.isMatch path.toUTF8.toList)

end FileFilter

end Wording
