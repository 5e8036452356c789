import Wording.Scan.Scanner

/-!
# What a finding says
-/

namespace Wording

/-- The text of a finding: what was found and, if there is one, the wording to suggest. -/
def Finding.message (f : Finding) : String :=
  match f.suggestion with
  | some suggestion => s!"Found '{f.pattern}'. Suggestion: '{suggestion}'"
  | none => s!"Found restricted word '{f.pattern}'"

end Wording
