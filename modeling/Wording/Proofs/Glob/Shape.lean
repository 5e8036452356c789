import Wording.Glob.Pattern

/-!
# What the test of a shape says

* `Shape.Describes` — a shape describes a sequence, read off how the shape is made.
* `Shape.describes_cons_iff` — a shape describes a sequence if one of the shapes after the first
  byte describes the rest.
* **`Shape.isMatch_iff`** — the test byte by byte finds exactly the sequences that are described.
* `describes_tokensShape_append_iff`, `describes_literals_iff` — what tokens in a row describe.
-/

namespace Wording.Glob

variable {b : UInt8} {bs : List UInt8}

namespace Shape

/-- The shape describes the sequence. -/
def Describes : Shape → List UInt8 → Prop
  | empty, bs => bs = []
  | byte negated ranges, bs => ∃ b, admits negated ranges b = true ∧ bs = [b]
  | any, _ => True
  | seq r s, bs => ∃ xs ys, xs ++ ys = bs ∧ r.Describes xs ∧ s.Describes ys
  | alt r s, bs => r.Describes bs ∨ s.Describes bs

/-! ## The test -/

/-- The empty sequence is described by a shape that is nullable. -/
theorem isNullable_iff (s : Shape) : s.isNullable = true ↔ s.Describes [] := by
  induction s with
  | empty => simp [isNullable, Describes]
  | byte negated ranges => simp [isNullable, Describes]
  | any => simp [isNullable, Describes]
  | seq r s ihr ihs => simp [isNullable, Describes, ihr, ihs, and_assoc]
  | alt r s ihr ihs => simp [isNullable, Describes, ihr, ihs]

/-- Nothing comes before or after what is described by the other shape. -/
theorem describes_join_iff (r s : Shape) :
    (r.join s).Describes bs ↔ ∃ xs ys, xs ++ ys = bs ∧ r.Describes xs ∧ s.Describes ys := by
  cases r with
  | empty =>
      constructor
      · intro h
        exact ⟨[], bs, rfl, rfl, h⟩
      · rintro ⟨_, ys, rfl, rfl, h⟩
        exact h
  | byte => cases s <;> simp [join, Describes]
  | any => cases s <;> simp [join, Describes]
  | seq => cases s <;> simp [join, Describes]
  | alt => cases s <;> simp [join, Describes]

/-- **A shape describes a sequence** if one of the shapes after the first byte describes the
rest. -/
theorem describes_cons_iff (s : Shape) :
    s.Describes (b :: bs) ↔ ∃ r ∈ s.after b, r.Describes bs := by
  induction s generalizing bs with
  | empty => simp [Describes, after]
  | byte negated ranges =>
      by_cases hadmits : admits negated ranges b = true
      · simp only [Describes, after, hadmits, if_true, List.mem_singleton, exists_eq_left]
        constructor
        · rintro ⟨c, -, hbs⟩
          exact (List.cons.inj hbs).2
        · rintro rfl
          exact ⟨b, hadmits, rfl⟩
      · simp only [Describes, after, hadmits, if_neg, Bool.false_eq_true, List.not_mem_nil,
          false_and, exists_false, iff_false, not_false_eq_true]
        rintro ⟨c, hc, hbs⟩
        obtain ⟨rfl, -⟩ := List.cons.inj hbs
        exact hadmits hc
  | any => simp [Describes, after]
  | alt r s ihr ihs =>
      simp only [Describes, after, ihr, ihs, List.mem_append, or_and_right, exists_or]
  | seq r s ihr ihs =>
      rw [after]
      constructor
      · rintro ⟨xs, ys, happend, hr, hs⟩
        -- the byte is the first of what `r` describes, unless that is empty
        rcases List.append_eq_cons_iff.mp happend with ⟨rfl, rfl⟩ | ⟨rest, rfl, rfl⟩
        · obtain ⟨q, hq, hdescribes⟩ := ihs.mp hs
          refine ⟨q, List.mem_append_right _ ?_, hdescribes⟩
          rw [if_pos ((isNullable_iff r).mpr hr)]
          exact hq
        · obtain ⟨q, hq, hdescribes⟩ := ihr.mp hr
          exact ⟨q.join s, List.mem_append_left _ (List.mem_map_of_mem hq),
            (describes_join_iff q s).mpr ⟨rest, ys, rfl, hdescribes, hs⟩⟩
      · rintro ⟨p, hp, hdescribes⟩
        rcases List.mem_append.mp hp with hp | hp
        · obtain ⟨q, hq, rfl⟩ := List.mem_map.mp hp
          obtain ⟨xs, ys, rfl, hqxs, hs⟩ := (describes_join_iff q s).mp hdescribes
          exact ⟨b :: xs, ys, rfl, ihr.mpr ⟨q, hq, hqxs⟩, hs⟩
        · by_cases hnullable : r.isNullable = true
          · rw [if_pos hnullable] at hp
            exact ⟨[], b :: bs, rfl, (isNullable_iff r).mp hnullable, ihs.mpr ⟨p, hp, hdescribes⟩⟩
          · rw [if_neg hnullable] at hp
            cases hp

/-- The test of some shapes finds what one of them describes. -/
theorem someMatch_iff (shapes : List Shape) :
    someMatch shapes bs = true ↔ ∃ s ∈ shapes, s.Describes bs := by
  induction bs generalizing shapes with
  | nil => simp [someMatch, isNullable_iff]
  | cons b bs ih =>
      simp only [someMatch, ih, List.mem_eraseDups, List.mem_flatMap, describes_cons_iff]
      constructor
      · rintro ⟨r, ⟨s, hs, hr⟩, hdescribes⟩
        exact ⟨s, hs, r, hr, hdescribes⟩
      · rintro ⟨s, hs, r, hr, hdescribes⟩
        exact ⟨r, ⟨s, hs, hr⟩, hdescribes⟩

/-- **The test finds exactly the sequences that are described.** -/
theorem isMatch_iff (s : Shape) : s.isMatch bs = true ↔ s.Describes bs := by
  simp [isMatch, someMatch_iff]

/-! ## Given bytes -/

/-- The shape of one byte describes it alone. -/
theorem describes_exactly_iff : (exactly b).Describes bs ↔ bs = [b] := by
  have hadmits : ∀ c : UInt8, admits false [(b, b)] c = true ↔ c = b := by
    intro c
    simp [admits, and_comm, UInt8.le_antisymm_iff]
  simp [exactly, Describes, hadmits]

/-- The shape of given bytes describes them alone. -/
theorem describes_bytes_iff (given : List UInt8) : (bytes given).Describes bs ↔ bs = given := by
  induction given generalizing bs with
  | nil => simp [bytes, Describes]
  | cons b given ih =>
      have hbytes : bytes (b :: given) = (exactly b).join (bytes given) := rfl
      rw [hbytes, describes_join_iff]
      simp [describes_exactly_iff, ih, eq_comm]

end Shape

/-! ## Tokens in a row -/

open Shape

/-- Tokens describe the sequences of the first one followed by those of the others. -/
theorem describes_tokensShape_cons_iff (t : Token) (rest : List Token) :
    (tokensShape (t :: rest)).Describes bs ↔
      ∃ xs ys, xs ++ ys = bs ∧ t.shape.Describes xs ∧ (tokensShape rest).Describes ys := by
  rw [tokensShape, describes_join_iff]

/-- **Characters that stand for themselves** describe their bytes. -/
theorem describes_literals_iff (text : List Char) :
    (tokensShape (text.map .literal)).Describes bs ↔ bs = text.flatMap charBytes := by
  induction text generalizing bs with
  | nil => simp [tokensShape, Describes]
  | cons c text ih =>
      rw [List.map_cons, describes_tokensShape_cons_iff]
      simp [Token.shape, describes_bytes_iff, ih, eq_comm]

end Wording.Glob
