import Mathlib.Data.String.Basic
import Wording.Proofs.Text.ByteOrder
import Wording.Proofs.Text.Trimming

/-!
# Excerpts

* `Text.cutPlace` — the byte behind the first characters of a text: where the next one begins, or
  the end of the text.
* `Text.isCut_take` — the first characters of a text are its bytes before that place, which stands
  between two characters.
* **`Text.excerpt_cuts_trimmed_line`** — an excerpt is the trimmed line cut behind as many
  characters as the limit allows, and a greater limit only makes it longer.

Characters take one to four bytes, so that the limit alone does not tell where a text is cut.  The
bytes at which its characters begin do, by an induction on the text: each is behind all the bytes
of the characters before it, and so stands between two of them.
-/

namespace Wording.Text

/-! ## Places in bytes -/

/-- The bytes at which the characters of a text begin, the first of them at byte `start`. -/
def beginnings (start : Nat) : List Char → List Nat
  | [] => []
  | c :: rest => start :: beginnings (start + c.utf8Size) rest

/-- The byte at which a text is cut behind its first `limit` characters: the one at which the next
character begins, or the end of a text that has no more. -/
def cutPlace (limit : Nat) (text : List Char) : String.Pos.Raw :=
  match (beginnings 0 text)[limit]? with
  | some byte => ⟨byte⟩
  | none => (String.ofList text).rawEndPos

/-- A character begins behind the bytes of all characters before it. -/
theorem getElem?_beginnings (start limit : Nat) (text : List Char) :
    (beginnings start text)[limit]? =
      if limit < text.length then some (start + String.utf8Len (text.take limit)) else none := by
  induction text generalizing start limit with
  | nil => rfl
  | cons c rest ih =>
      cases limit with
      | zero => simp [beginnings]
      | succ n =>
          rw [beginnings, List.getElem?_cons_succ, ih, List.take_succ_cons, String.utf8Len_cons,
            List.length_cons, Nat.add_assoc, Nat.add_comm c.utf8Size]
          simp only [Nat.add_lt_add_iff_right]

/-- The text is cut behind the bytes of its first characters. -/
theorem byteIdx_cutPlace (limit : Nat) (text : List Char) :
    (cutPlace limit text).byteIdx = (String.ofList (text.take limit)).utf8ByteSize := by
  rw [cutPlace, getElem?_beginnings, String.utf8ByteSize_ofList]
  by_cases hlimit : limit < text.length
  · rw [if_pos hlimit]
    exact Nat.zero_add _
  · rw [if_neg hlimit, List.take_of_length_le (Nat.le_of_not_lt hlimit),
      ← String.utf8ByteSize_ofList]
    rfl

/-! ## Cuts -/

/-- The text is cut behind its first `limit` characters, or not at all if it has no more than them.
The cut goes by bytes, and no character is cut in two by it. -/
structure IsCut (limit : Nat) (text kept : List Char) : Prop where
  isPrefix : kept <+: text
  length_eq : kept.length = min limit text.length
  place_valid : (cutPlace limit text).IsValid (String.ofList text)
  bytes_eq : utf8Bytes (String.ofList kept) =
    (utf8Bytes (String.ofList text)).take (cutPlace limit text).byteIdx

/-- **The first characters of a text are cut off at a place between characters.** -/
theorem isCut_take (limit : Nat) (text : List Char) : IsCut limit text (text.take limit) where
  isPrefix := List.take_prefix limit text
  length_eq := List.length_take
  place_valid := String.Pos.Raw.isValid_ofList.mpr ⟨limit, byteIdx_cutPlace limit text⟩
  bytes_eq := by
    have hbytes : utf8Bytes (String.ofList text) = utf8Bytes (String.ofList (text.take limit)) ++
        utf8Bytes (String.ofList (text.drop limit)) := by
      simp only [utf8Bytes_eq, String.toList_ofList]
      rw [← List.flatMap_append, List.take_append_drop]
    rw [hbytes, byteIdx_cutPlace, ← length_utf8Bytes, List.take_left]

/-! ## Excerpts -/

/-- An excerpt of a line has no characters that the line has not. -/
theorem mem_of_mem_excerpt {limit : Nat} {line : List Char} {c : Char}
    (h : c ∈ excerpt limit line) : c ∈ line :=
  (trim_isInfix line).mem (List.mem_of_mem_take h)

/-- The excerpt of a line that is not blank has a character at least, if the limit allows one. -/
theorem excerpt_ne_nil {limit : Nat} (hlimit : 1 ≤ limit) {line : List Char}
    (h : ¬∀ c ∈ line, isBlank c = true) : excerpt limit line ≠ [] := by
  intro hnil
  rw [excerpt, List.take_eq_nil_iff, trim_eq_nil_iff] at hnil
  rcases hnil with hzero | hblank
  · omega
  · exact h hblank

/-- Of two excerpts of a line, the one with the smaller limit is the other only if the limits are
the same, or nothing is cut off. -/
theorem excerpt_eq_excerpt_iff {m n : Nat} (h : m ≤ n) {line : List Char} :
    excerpt m line = excerpt n line ↔ m = n ∨ (trim line).length ≤ m := by
  rw [excerpt, excerpt, List.take_eq_take_iff]
  omega

/-- **An excerpt is the trimmed line cut behind as many characters as the limit allows.**  The line
is white space, then a text that neither begins nor ends with white space, then white space again,
and that text is the same however the line is cut so.  Every excerpt is the beginning of it with
the characters that the limit allows, and is cut off between two characters.  The excerpt with a
greater limit begins with the one with a smaller limit, and unless the limits are the same, the two
are equal exactly if the text in the middle has no more characters than the smaller limit. -/
theorem excerpt_cuts_trimmed_line (line : List Char) :
    ∃ before kept behind, IsTrimming line before kept behind ∧
      (∀ before' kept' behind', IsTrimming line before' kept' behind' → kept' = kept) ∧
      (∀ limit, IsCut limit kept (excerpt limit line)) ∧
      ∀ m n, m ≤ n → excerpt m line <+: excerpt n line ∧
        (excerpt m line = excerpt n line ↔ m = n ∨ kept.length ≤ m) := by
  refine ⟨_, trim line, _, isTrimming line, ?_, ?_, ?_⟩
  · intro before' kept' behind' h
    exact h.trim_eq.symm
  · exact fun limit => isCut_take limit (trim line)
  · intro m n hle
    exact ⟨List.take_prefix_take_left hle, excerpt_eq_excerpt_iff hle⟩

/-- A cut between characters of two bytes each, where the byte before it begins no character. -/
example : excerpt 2 " \u00A0ééé\u3000\t".toList = "éé".toList ∧
    (cutPlace 2 "ééé".toList).byteIdx = 4 ∧ ¬(⟨3⟩ : String.Pos.Raw).IsValid "ééé" := by
  decide

end Wording.Text
