import Mathlib.Tactic.Common
import Wording.Text.Pieces

/-!
# Pieces of a text

* `Text.length_pieces` — there is one more piece than there are separators.
* `Text.pieces_eq_singleton` — a text without separators is one piece.
* `Text.pieces_append_cons` — a separator between two texts separates their pieces.
* `Text.not_mem_of_mem_pieces`, `Text.mem_of_mem_pieces` — no piece has the separator in it, or a
  character that the text has not.
* `Text.exists_mem_pieces` — all other characters of the text are in its pieces.
* `Text.pieces_intercalate`, `Text.intercalate_pieces` — cutting a text and putting pieces together
  undo each other.
* `Text.pieces_map` — texts that stand for one another letter by letter are cut alike.
-/

namespace Wording.Text

variable {α β : Type} [DecidableEq α] [DecidableEq β]

/-- A text has at least one piece. -/
theorem pieces_ne_nil (separator : α) (text : List α) : pieces separator text ≠ [] := by
  cases text with
  | nil => simp [pieces]
  | cons c rest =>
      rw [pieces]
      split_ifs
      · simp
      · split <;> simp

/-- A character that is no separator belongs to the first piece. -/
theorem pieces_cons_of_ne {separator c : α} (h : c ≠ separator) (rest : List α) :
    ∃ piece more, pieces separator rest = piece :: more ∧
      pieces separator (c :: rest) = (c :: piece) :: more := by
  obtain ⟨piece, more, hp⟩ := List.exists_cons_of_ne_nil (pieces_ne_nil separator rest)
  exact ⟨piece, more, hp, by rw [pieces, if_neg h, hp]⟩

/-- There is one more piece than there are separators. -/
theorem length_pieces (separator : α) (text : List α) :
    (pieces separator text).length = text.count separator + 1 := by
  induction text with
  | nil => rfl
  | cons c rest ih =>
      by_cases h : c = separator
      · simp [pieces, h, ih]
      · obtain ⟨piece, more, hp, hc⟩ := pieces_cons_of_ne h rest
        rw [List.count_cons_of_ne h, ← ih, hc, hp]
        rfl

/-- A text without the separator is one piece. -/
theorem pieces_eq_singleton {separator : α} {text : List α} (h : separator ∉ text) :
    pieces separator text = [text] := by
  induction text with
  | nil => rfl
  | cons c rest ih =>
      rw [List.mem_cons, not_or] at h
      rw [pieces, if_neg (Ne.symm h.1), ih h.2]

/-- A separator between two texts separates their pieces. -/
theorem pieces_append_cons (separator : α) (a b : List α) :
    pieces separator (a ++ separator :: b) = pieces separator a ++ pieces separator b := by
  induction a with
  | nil => simp [pieces]
  | cons c a ih =>
      by_cases h : c = separator
      · simp [pieces, h, ih]
      · obtain ⟨piece, more, hp, hc⟩ := pieces_cons_of_ne h a
        rw [List.cons_append, pieces, if_neg h, ih, hc, hp]
        rfl

/-- No piece of a text has the separator in it. -/
theorem not_mem_of_mem_pieces {separator : α} {text piece : List α}
    (h : piece ∈ pieces separator text) : separator ∉ piece := by
  induction text generalizing piece with
  | nil =>
      obtain rfl := List.mem_singleton.mp h
      exact List.not_mem_nil
  | cons c rest ih =>
      by_cases hc : c = separator
      · rw [pieces, if_pos hc, List.mem_cons] at h
        rcases h with rfl | h
        · exact List.not_mem_nil
        · exact ih h
      · obtain ⟨first, more, hrest, heq⟩ := pieces_cons_of_ne hc rest
        rw [heq, List.mem_cons] at h
        rw [hrest] at ih
        rcases h with rfl | h
        · rw [List.mem_cons, not_or]
          exact ⟨Ne.symm hc, ih List.mem_cons_self⟩
        · exact ih (List.mem_cons_of_mem _ h)

/-- A piece of a text has no characters that the text has not. -/
theorem mem_of_mem_pieces {separator c : α} {text piece : List α}
    (h : piece ∈ pieces separator text) (hc : c ∈ piece) : c ∈ text := by
  induction text generalizing piece with
  | nil =>
      obtain rfl := List.mem_singleton.mp h
      exact hc
  | cons d rest ih =>
      by_cases hd : d = separator
      · rw [pieces, if_pos hd, List.mem_cons] at h
        rcases h with rfl | h
        · cases hc
        · exact List.mem_cons_of_mem _ (ih h hc)
      · obtain ⟨first, more, hrest, heq⟩ := pieces_cons_of_ne hd rest
        rw [heq, List.mem_cons] at h
        rw [hrest] at ih
        rcases h with rfl | h
        · rcases List.mem_cons.mp hc with rfl | hc
          · exact List.mem_cons_self
          · exact List.mem_cons_of_mem _ (ih List.mem_cons_self hc)
        · exact List.mem_cons_of_mem _ (ih (List.mem_cons_of_mem _ h) hc)

/-- A character that is no separator is in one of the pieces. -/
theorem exists_mem_pieces {separator c : α} {text : List α} (h : c ∈ text)
    (hc : c ≠ separator) : ∃ piece ∈ pieces separator text, c ∈ piece := by
  induction text with
  | nil => cases h
  | cons d rest ih =>
      by_cases hd : d = separator
      · rw [pieces, if_pos hd]
        rcases List.mem_cons.mp h with rfl | h
        · exact absurd hd hc
        · obtain ⟨piece, hpiece, hmem⟩ := ih h
          exact ⟨piece, List.mem_cons_of_mem _ hpiece, hmem⟩
      · obtain ⟨first, more, hrest, heq⟩ := pieces_cons_of_ne hd rest
        rw [hrest] at ih
        rw [heq]
        rcases List.mem_cons.mp h with rfl | h
        · exact ⟨_, List.mem_cons_self, List.mem_cons_self⟩
        · obtain ⟨piece, hpiece, hmem⟩ := ih h
          rcases List.mem_cons.mp hpiece with rfl | hpiece
          · exact ⟨_, List.mem_cons_self, List.mem_cons_of_mem _ hmem⟩
          · exact ⟨piece, List.mem_cons_of_mem _ hpiece, hmem⟩

/-- Putting pieces together, of which there are more, puts a separator behind the first. -/
theorem intercalate_cons_cons {γ : Type} (separator : γ) (piece next : List γ)
    (more : List (List γ)) :
    [separator].intercalate (piece :: next :: more) =
      piece ++ separator :: [separator].intercalate (next :: more) := by
  simp [List.intercalate]

/-- Pieces without separators that are put together are cut apart again. -/
theorem pieces_intercalate {separator : α} {cut : List (List α)} (hne : cut ≠ [])
    (h : ∀ piece ∈ cut, separator ∉ piece) :
    pieces separator ([separator].intercalate cut) = cut := by
  induction cut with
  | nil => exact absurd rfl hne
  | cons piece more ih =>
      have hpiece := h piece List.mem_cons_self
      cases more with
      | nil => simp [List.intercalate, pieces_eq_singleton hpiece]
      | cons next more =>
          have hmore := ih (List.cons_ne_nil _ _) fun p hp => h p (List.mem_cons_of_mem _ hp)
          rw [intercalate_cons_cons, pieces_append_cons, pieces_eq_singleton hpiece, hmore]
          rfl

/-- A text that is cut apart can be put together again. -/
theorem intercalate_pieces (separator : α) (text : List α) :
    [separator].intercalate (pieces separator text) = text := by
  induction text with
  | nil => simp [pieces, List.intercalate]
  | cons c rest ih =>
      by_cases h : c = separator
      · obtain ⟨piece, more, hp⟩ := List.exists_cons_of_ne_nil (pieces_ne_nil separator rest)
        rw [pieces, if_pos h, hp, intercalate_cons_cons, ← hp, ih, List.nil_append, h]
      · obtain ⟨piece, more, hp, hc⟩ := pieces_cons_of_ne h rest
        rw [hp] at ih
        rw [hc, ← ih]
        cases more with
        | nil => simp [List.intercalate]
        | cons next more => simp only [intercalate_cons_cons, List.cons_append]

/-- The first pieces of a text, put together, are what the text begins with. -/
theorem intercalate_isPrefix {separator : α} {text : List α} {first : List (List α)}
    (h : first <+: pieces separator text) : [separator].intercalate first <+: text := by
  obtain ⟨rest, hrest⟩ := h
  rw [← intercalate_pieces separator text, ← hrest]
  clear hrest
  induction first with
  | nil => simp [List.intercalate]
  | cons piece more ih =>
      cases more with
      | nil =>
          cases rest with
          | nil => simp
          | cons next rest =>
              rw [List.singleton_append, intercalate_cons_cons]
              simp [List.intercalate]
      | cons next more =>
          simp only [List.cons_append, intercalate_cons_cons]
          obtain ⟨behind, hbehind⟩ := ih
          refine ⟨behind, ?_⟩
          rw [List.cons_append] at hbehind
          rw [List.append_assoc, List.cons_append, hbehind]

/-- Texts that stand for one another letter by letter are cut alike. -/
theorem pieces_map {f : α → β} (hf : Function.Injective f) (separator : α) (text : List α) :
    pieces (f separator) (text.map f) = (pieces separator text).map (List.map f) := by
  induction text with
  | nil => rfl
  | cons c rest ih =>
      by_cases h : c = separator
      · rw [List.map_cons, pieces, if_pos (congrArg f h), ih, pieces, if_pos h]
        rfl
      · obtain ⟨piece, more, hp, hc⟩ := pieces_cons_of_ne h rest
        rw [List.map_cons, pieces, if_neg (hf.ne h), ih, hc, hp]
        rfl

end Wording.Text
