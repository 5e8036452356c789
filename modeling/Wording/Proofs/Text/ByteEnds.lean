import Mathlib.Data.String.Basic
import Wording.Proofs.Text.ByteOrder

/-!
# Texts by the ends of their bytes

* `Text.toList_toUTF8` — the bytes of a text one by one.
* `Text.flatMap_utf8EncodeChar_inj` — texts with the same bytes are the same.
* **`Text.isSuffix_flatMap_iff`** — a text is the end of another if its bytes are the end of the
  other's bytes.

The last holds because no byte but the first of a character can begin a character, so that a text
cannot begin in the middle of a character of another.
-/

namespace Wording.Text

/-- Reading an array from a position on gives the bytes that were read, and all that follow. -/
theorem toList_loop (bytes : ByteArray) (i : Nat) (read : List UInt8) :
    ByteArray.toList.loop bytes i read = read.reverse ++ bytes.data.toList.drop i := by
  induction i, read using ByteArray.toList.loop.induct bytes with
  | case1 i read hi ih =>
      have hdrop : bytes.data.toList.drop i = bytes.data[i] :: bytes.data.toList.drop (i + 1) := by
        rw [List.drop_eq_getElem_cons (by simpa using hi)]
        rfl
      have hget : bytes.get! i = bytes.data[i] := getElem!_pos bytes.data i hi
      rw [ByteArray.toList.loop, if_pos hi, ih, hdrop, hget, List.reverse_cons, List.append_assoc,
        List.singleton_append]
  | case2 i read hi =>
      rw [ByteArray.toList.loop, if_neg hi, List.drop_of_length_le (by simpa using hi),
        List.append_nil]

/-- The bytes of a text, one by one, are those of its characters. -/
theorem toList_toUTF8 (text : String) :
    text.toUTF8.toList = text.toList.flatMap String.utf8EncodeChar := by
  rw [← utf8Bytes_eq, utf8Bytes, ByteArray.toList, toList_loop]
  rfl

/-- **Texts with the same bytes are the same.** -/
theorem flatMap_utf8EncodeChar_inj {s t : List Char}
    (h : s.flatMap String.utf8EncodeChar = t.flatMap String.utf8EncodeChar) : s = t := by
  rcases lt_trichotomy s t with hlt | rfl | hlt
  · exact absurd (h ▸ flatMap_utf8EncodeChar_lt hlt) (List.lt_irrefl _)
  · rfl
  · exact absurd (h ▸ flatMap_utf8EncodeChar_lt hlt) (List.lt_irrefl _)

/-- A character begins with a byte that can begin a character. -/
theorem exists_utf8EncodeChar_eq_cons (c : Char) :
    ∃ b rest, String.utf8EncodeChar c = b :: rest ∧ b.IsUTF8FirstByte ∧
      ∀ b' ∈ rest, ¬b'.IsUTF8FirstByte := by
  obtain ⟨b, rest, hbytes⟩ := List.exists_cons_of_ne_nil (String.utf8EncodeChar_ne_nil (c := c))
  have hfirst : ∀ i (hi : i < (b :: rest).length),
      (b :: rest)[i].IsUTF8FirstByte ↔ i = 0 := by
    rw [← hbytes]
    exact fun i hi => UInt8.isUTF8FirstByte_getElem_utf8EncodeChar
  refine ⟨b, rest, hbytes, (hfirst 0 (by simp)).mpr rfl, fun b' hb' hbegins => ?_⟩
  obtain ⟨i, hi, rfl⟩ := List.mem_iff_getElem.mp hb'
  exact absurd ((hfirst (i + 1) (by simpa using hi)).mp hbegins) (Nat.succ_ne_zero i)

/-- Where a byte stands that can begin a character, a character begins. -/
theorem exists_of_flatMap_eq_append {text : List Char} {before rest : List UInt8} {b : UInt8}
    (hb : b.IsUTF8FirstByte) (h : text.flatMap String.utf8EncodeChar = before ++ b :: rest) :
    ∃ front back, text = front ++ back ∧ back.flatMap String.utf8EncodeChar = b :: rest := by
  induction text generalizing before with
  | nil => simp at h
  | cons c text ih =>
      obtain ⟨first, others, hbytes, -, hothers⟩ := exists_utf8EncodeChar_eq_cons c
      rw [List.flatMap_cons, hbytes] at h
      cases before with
      | nil => exact ⟨[], c :: text, rfl, by rw [List.flatMap_cons, hbytes, h, List.nil_append]⟩
      | cons x before =>
          rw [List.cons_append, List.cons_append] at h
          rcases List.append_eq_append_iff.mp (List.cons.inj h).2 with
            ⟨more, hbefore, htext⟩ | ⟨more, hmore, htext⟩
          · obtain ⟨front, back, rfl, hback⟩ := ih htext
            exact ⟨c :: front, back, rfl, hback⟩
          · -- the byte would be one of the character, but not its first
            cases more with
            | nil => exact ⟨[c], text, rfl, htext.symm⟩
            | cons y more =>
                obtain ⟨rfl, -⟩ := List.cons.inj htext
                exact absurd hb (hothers b (by simp [hmore]))

/-- **A text is the end of another if its bytes are the end of the other's bytes.** -/
theorem isSuffix_flatMap_iff {s t : List Char} :
    s.flatMap String.utf8EncodeChar <:+ t.flatMap String.utf8EncodeChar ↔ s <:+ t := by
  constructor
  · rintro ⟨before, hbefore⟩
    cases s with
    | nil => exact List.nil_suffix
    | cons c s =>
        obtain ⟨first, others, hbytes, hfirst, -⟩ := exists_utf8EncodeChar_eq_cons c
        have hcons : (c :: s).flatMap String.utf8EncodeChar =
            first :: (others ++ s.flatMap String.utf8EncodeChar) := by
          rw [List.flatMap_cons, hbytes, List.cons_append]
        rw [hcons] at hbefore
        obtain ⟨front, back, rfl, hback⟩ := exists_of_flatMap_eq_append hfirst hbefore.symm
        rw [← hcons] at hback
        exact ⟨front, congrArg _ (flatMap_utf8EncodeChar_inj hback).symm⟩
  · rintro ⟨front, rfl⟩
    rw [List.flatMap_append]
    exact List.suffix_append _ _

end Wording.Text
