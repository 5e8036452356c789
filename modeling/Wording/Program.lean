/-!
# The program's name and version, as reports and usage know them
-/

namespace Wording

/-- The name of the program. -/
def programName : String := "tonecheck"

/-- The version of the program. -/
def programVersion : String := "0.1.0"

end Wording
