import Mathlib.Data.List.Lex
import Mathlib.Order.Basic

/-!
# The order of texts is the order of their bytes

* `Text.utf8Bytes` — the bytes of a text in UTF-8.
* `Text.utf8EncodeChar_append_lt` — of two characters, the one with the smaller code point has the
  smaller bytes, and the difference shows before either encoding ends.
* **`Text.utf8Bytes_lt_utf8Bytes`** — texts in the order of their characters are in the order of
  their bytes.

A sort by characters and one by bytes are therefore the same sort.
-/

namespace Wording.Text

/-- The bytes of a text in UTF-8. -/
def utf8Bytes (text : String) : List UInt8 :=
  text.toUTF8.data.toList

/-- The bytes of a text are those of its characters, one after another. -/
theorem utf8Bytes_eq (text : String) :
    utf8Bytes text = text.toList.flatMap String.utf8EncodeChar := by
  rw [utf8Bytes, String.toUTF8, ← String.utf8Encode_toList, List.utf8Encode,
    List.toList_data_toByteArray]

/-- A text has as many bytes as its size says. -/
theorem length_utf8Bytes (text : String) : (utf8Bytes text).length = text.utf8ByteSize :=
  rfl

/-- Bytes made from numbers below 256 compare as the numbers do. -/
theorem ofNat_cons_lt_iff {a b : Nat} (ha : a < 256) (hb : b < 256) (xs ys : List UInt8) :
    UInt8.ofNat a :: xs < UInt8.ofNat b :: ys ↔ a < b ∨ a = b ∧ xs < ys := by
  have hmod : a % 256 = a ∧ b % 256 = b := ⟨Nat.mod_eq_of_lt ha, Nat.mod_eq_of_lt hb⟩
  simp [List.cons_lt_cons_iff, UInt8.lt_iff_toNat_lt, ← UInt8.toNat_inj, hmod]

/-- Of two numbers, the smaller has the smaller last digit to the base 64 if the digits before it
are the same, and smaller digits before it if they are not. -/
theorem div_lt_or_mod_lt {v w : Nat} (h : v < w) :
    v / 64 < w / 64 ∨ v / 64 = w / 64 ∧ v % 64 < w % 64 := by
  omega

/-- Of two characters, the smaller has the smaller encoding, whatever follows the two.  A longer
encoding starts with a greater byte; encodings of one length differ like the digits of the two code
points to the base 64. -/
theorem utf8EncodeChar_append_lt {c d : Char} (h : c < d) (xs ys : List UInt8) :
    String.utf8EncodeChar c ++ xs < String.utf8EncodeChar d ++ ys := by
  have hlt : c.val.toNat < d.val.toNat := h
  have hd : d.val.toNat < 0x110000 := by
    rcases d.valid with hd | hd
    · exact Nat.lt_trans hd (by decide)
    · exact hd.2
  unfold String.utf8EncodeChar
  simp only
  generalize c.val.toNat = v at hlt
  generalize d.val.toNat = w at hlt hd
  have hv : v / 4096 = v / 64 / 64 ∧ v / 262144 = v / 64 / 64 / 64 := by omega
  have hw : w / 4096 = w / 64 / 64 ∧ w / 262144 = w / 64 / 64 / 64 := by omega
  rw [hv.1, hv.2, hw.1, hw.2]
  split_ifs <;> simp (disch := omega) only [List.cons_append, List.nil_append, ofNat_cons_lt_iff]
  any_goals omega
  -- two encodings of four bytes
  rcases div_lt_or_mod_lt hlt with h₁ | ⟨h₁, h₀⟩
  · rcases div_lt_or_mod_lt h₁ with h₂ | ⟨h₂, h₁⟩
    · rcases div_lt_or_mod_lt h₂ with h₃ | ⟨h₃, h₂⟩
      · left
        omega
      · right
        omega
    · right
      omega
  · right
    omega

/-- No character has an empty encoding. -/
theorem nil_lt_utf8EncodeChar_append (c : Char) (xs : List UInt8) :
    [] < String.utf8EncodeChar c ++ xs := by
  unfold String.utf8EncodeChar
  simp only
  split_ifs <;> exact List.nil_lt_cons _ _

/-- Lists of characters in their order have encodings in that order. -/
theorem flatMap_utf8EncodeChar_lt {a b : List Char} (h : a < b) :
    a.flatMap String.utf8EncodeChar < b.flatMap String.utf8EncodeChar := by
  induction h with
  | nil => exact nil_lt_utf8EncodeChar_append _ _
  | rel hcd => exact utf8EncodeChar_append_lt hcd _ _
  | cons _ ih => exact List.append_left_lt ih

/-- **Texts in their order have bytes in that order.** -/
theorem utf8Bytes_lt_utf8Bytes {s t : String} (h : s < t) : utf8Bytes s < utf8Bytes t := by
  rw [utf8Bytes_eq, utf8Bytes_eq]
  exact flatMap_utf8EncodeChar_lt h

end Wording.Text
