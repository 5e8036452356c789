/-!
# Cutting a text at a separator

A text is a list here: of characters, or of what stands for them in a path that is no text.
-/

namespace Wording.Text

/-- The pieces of a text between the separators in it; one more than there are separators. -/
def pieces {α : Type} [DecidableEq α] (separator : α) : List α → List (List α)
  | [] => [[]]
  | c :: rest =>
    if c = separator then
      [] :: pieces separator rest
    else
      match pieces separator rest with
      | [] => [[c]]
      | piece :: more => (c :: piece) :: more

end Wording.Text
