import Mathlib.Data.List.TakeWhile
import Wording.Proofs.Text.CaseRuns
import Wording.Text.Lowercase

/-!
# Lower case within a text

* `Text.lowercaseWithin before behind text` — the lower-case form of a text that stands between two
  others.
* `Text.lowercase_append₃` — the lower-case form of a text with a part in it has the lower-case form
  of that part, seen where it stands.
* `Text.SettlesSigmas` — for each capital sigma the text itself says what its form is.
* **`Text.SettlesSigmas.lowercaseWithin_eq`** — such a text has the same lower-case form wherever it
  stands.
* `Text.lowercaseSigma_concat_of_not_settled` — a letter behind the text or in front of it changes
  the form of a sigma that is not settled.
* `Text.eq_of_mem_lowercaseWithin` — a letter that is found in the lower-case form of a text stands
  in the text, small or capital.

Only the form of a capital sigma depends on what is around it.  What decides are the nearest
characters on either side that are not passed over, and where the text has none on one side, what
stands beside the text may have one.
-/

namespace Wording.Text

/-! ## A text between two others -/

/-- The lower-case form of a text between `before` (read backwards) and `behind`. -/
def lowercaseWithin (before behind : List Char) : List Char → List Char
  | [] => []
  | c :: rest =>
    lowercaseAt before c (rest ++ behind) ++ lowercaseWithin (c :: before) behind rest

/-- A text with nothing behind it. -/
theorem lowercaseAfter_eq (before text : List Char) :
    lowercaseAfter before text = lowercaseWithin before [] text := by
  induction text generalizing before with
  | nil => rfl
  | cons c rest ih => rw [lowercaseAfter, lowercaseWithin, ih, List.append_nil]

/-- A text with nothing around it. -/
theorem lowercase_eq (text : List Char) : lowercase text = lowercaseWithin [] [] text :=
  lowercaseAfter_eq [] text

/-- Two texts one after the other, each with the other beside it. -/
theorem lowercaseWithin_append (before behind a b : List Char) :
    lowercaseWithin before behind (a ++ b) =
      lowercaseWithin before (b ++ behind) a ++ lowercaseWithin (a.reverse ++ before) behind b := by
  induction a generalizing before with
  | nil => rfl
  | cons c a ih =>
      rw [List.cons_append, lowercaseWithin, lowercaseWithin, ih, List.append_assoc,
        List.append_assoc]
      simp

/-- **The lower-case form of a text has that of a part of it**, seen where the part stands. -/
theorem lowercase_append₃ (front part behind : List Char) :
    lowercase (front ++ part ++ behind) =
      lowercaseWithin [] (part ++ behind) front ++ lowercaseWithin front.reverse behind part ++
        lowercaseWithin (part.reverse ++ front.reverse) [] behind := by
  rw [lowercase_eq, List.append_assoc, lowercaseWithin_append, lowercaseWithin_append]
  simp

/-- The lower-case form of a character is as long in one place as in another. -/
theorem length_lowercaseAt (before before' : List Char) (c : Char) (after after' : List Char) :
    (lowercaseAt before c after).length = (lowercaseAt before' c after').length := by
  unfold lowercaseAt
  split_ifs <;> rfl

/-- The lower-case form of a text is as long in one place as in another. -/
theorem length_lowercaseWithin (before before' behind behind' text : List Char) :
    (lowercaseWithin before behind text).length =
      (lowercaseWithin before' behind' text).length := by
  induction text generalizing before before' with
  | nil => rfl
  | cons c rest ih =>
      rw [lowercaseWithin, lowercaseWithin, List.length_append, List.length_append,
        length_lowercaseAt before before' c _ (rest ++ behind'), ih (c :: before) (c :: before')]

/-! ## What decides the form of a sigma -/

/-- What the first character that is not passed over says: whether it is a cased letter.  If all
are passed over, none says anything. -/
def verdict? (text : List Char) : Option Bool :=
  (text.dropWhile isCaseIgnorable).head?.map isCased

/-- A cased letter is met if the verdict says so. -/
theorem meetsCased_eq (text : List Char) : meetsCased text = (verdict? text).getD false := by
  unfold meetsCased verdict?
  cases text.dropWhile isCaseIgnorable <;> rfl

/-- If there is no verdict, all characters of the text are passed over. -/
theorem isCaseIgnorable_of_verdict? {text : List Char} (h : verdict? text = none) :
    ∀ c ∈ text, isCaseIgnorable c = true := by
  unfold verdict? at h
  rw [Option.map_eq_none_iff, List.head?_eq_none_iff] at h
  exact List.dropWhile_eq_nil_iff.mp h

/-- If all characters of a text are passed over, what comes behind the text decides. -/
theorem verdict?_append_of_none {a : List Char} (h : verdict? a = none) (b : List Char) :
    verdict? (a ++ b) = verdict? b := by
  unfold verdict?
  rw [List.dropWhile_append_of_pos (isCaseIgnorable_of_verdict? h)]

/-- A verdict stands whatever comes behind the text. -/
theorem verdict?_append_of_some {a : List Char} {cased : Bool} (h : verdict? a = some cased)
    (b : List Char) : verdict? (a ++ b) = some cased := by
  unfold verdict? at h ⊢
  cases hdrop : a.dropWhile isCaseIgnorable with
  | nil => simp [hdrop] at h
  | cons c rest =>
      rw [hdrop] at h
      rw [List.dropWhile_append, hdrop]
      simpa using h

/-- The text around a capital sigma says what its form is: no cased letter comes before it, or one
comes after it, or both sides have their say. -/
def SigmaSettled (before after : List Char) : Prop :=
  verdict? before = some false ∨ verdict? after = some true ∨
    (verdict? before).isSome = true ∧ (verdict? after).isSome = true

instance : DecidableRel SigmaSettled := fun before after =>
  inferInstanceAs (Decidable (verdict? before = some false ∨ verdict? after = some true ∨
    (verdict? before).isSome = true ∧ (verdict? after).isSome = true))

/-- The text itself says what the form of each capital sigma in it is. -/
def SettlesSigmas (text : List Char) : Prop :=
  ∀ a b, text = a ++ 'Σ' :: b → SigmaSettled a.reverse b

/-- A text without a capital sigma has none to settle. -/
theorem settlesSigmas_of_not_mem {text : List Char} (h : 'Σ' ∉ text) : SettlesSigmas text := by
  rintro a b rfl
  simp at h

/-- A sigma that is settled has one form, whatever is around the text. -/
theorem lowercaseSigma_eq {before after : List Char} (h : SigmaSettled before after)
    (front behind : List Char) :
    lowercaseSigma (before ++ front) (after ++ behind) = lowercaseSigma before after := by
  unfold lowercaseSigma
  simp only [meetsCased_eq]
  rcases h with h | h | ⟨h, h'⟩
  · simp [h, verdict?_append_of_some h]
  · simp [h, verdict?_append_of_some h]
  · obtain ⟨cased, hbefore⟩ := Option.isSome_iff_exists.mp h
    obtain ⟨cased', hafter⟩ := Option.isSome_iff_exists.mp h'
    rw [verdict?_append_of_some hbefore, verdict?_append_of_some hafter, hbefore, hafter]

/-- A text keeps its lower-case form if each of its sigmas does. -/
theorem lowercaseWithin_eq_of_sigmas {text : List Char} {before before' behind behind' : List Char}
    (h : ∀ a b, text = a ++ 'Σ' :: b → lowercaseSigma (a.reverse ++ before) (b ++ behind) =
      lowercaseSigma (a.reverse ++ before') (b ++ behind')) :
    lowercaseWithin before behind text = lowercaseWithin before' behind' text := by
  induction text generalizing before before' with
  | nil => rfl
  | cons c rest ih =>
      have hhead : lowercaseAt before c (rest ++ behind) =
          lowercaseAt before' c (rest ++ behind') := by
        unfold lowercaseAt
        split_ifs with hdotted hsigma
        · rfl
        · rw [← List.nil_append before, ← List.nil_append before', ← List.reverse_nil,
            h [] rest (by rw [hsigma, List.nil_append])]
        · rfl
      have hrest : lowercaseWithin (c :: before) behind rest =
          lowercaseWithin (c :: before') behind' rest := by
        refine ih fun a b hab => ?_
        have hsigma := h (c :: a) b (by rw [hab, List.cons_append])
        simpa using hsigma
      rw [lowercaseWithin, lowercaseWithin, hhead, hrest]

/-- **A text that settles its sigmas has the same lower-case form wherever it stands.** -/
theorem SettlesSigmas.lowercaseWithin_eq {text : List Char} (h : SettlesSigmas text)
    (before behind : List Char) : lowercaseWithin before behind text = lowercase text := by
  rw [lowercase_eq]
  refine lowercaseWithin_eq_of_sigmas fun a b hab => ?_
  rw [lowercaseSigma_eq (h a b hab), List.append_nil, List.append_nil]

/-- If the form of one sigma is not the same in two places, neither is that of the text. -/
theorem lowercaseSigma_eq_of_lowercaseWithin_eq {before before' behind behind' a b : List Char}
    (h : lowercaseWithin before behind (a ++ 'Σ' :: b) =
      lowercaseWithin before' behind' (a ++ 'Σ' :: b)) :
    lowercaseSigma (a.reverse ++ before) (b ++ behind) =
      lowercaseSigma (a.reverse ++ before') (b ++ behind') := by
  rw [lowercaseWithin_append, lowercaseWithin_append] at h
  obtain ⟨-, hsigma⟩ := List.append_inj h (length_lowercaseWithin ..)
  rw [lowercaseWithin, lowercaseWithin] at hsigma
  simpa [lowercaseAt] using (List.append_inj hsigma (length_lowercaseAt ..)).1

/-- **A letter behind the text or in front of it changes the form of a sigma that is not
settled.** -/
theorem lowercaseSigma_concat_of_not_settled {before after : List Char}
    (h : ¬SigmaSettled before after) :
    verdict? after = none ∧ lowercaseSigma before (after ++ ['a']) ≠ lowercaseSigma before after ∨
      verdict? before = none ∧
        lowercaseSigma (before ++ ['a']) after ≠ lowercaseSigma before after := by
  have hletter : verdict? ['a'] = some true := by decide +kernel
  unfold SigmaSettled at h
  unfold lowercaseSigma
  simp only [meetsCased_eq]
  cases hbefore : verdict? before with
  | some cased =>
      cases hafter : verdict? after with
      | some cased' => simp [hbefore, hafter] at h
      | none =>
          left
          rw [verdict?_append_of_none hafter, hletter]
          cases cased with
          | false => simp [hbefore] at h
          | true => simp
  | none =>
      right
      rw [verdict?_append_of_none hbefore, hletter]
      cases hafter : verdict? after with
      | none => simp
      | some cased' =>
          cases cased' with
          | true => simp [hafter] at h
          | false => simp

/-! ## Where a letter comes from -/

/-- No run of the lower-case mappings goes as far down as the first letter. -/
theorem lt_target_of_mem_lowercaseRuns : ∀ r ∈ lowercaseRuns, 'a'.toNat < r.target := by
  decide +kernel

/-- Only the first letter, small or capital, goes to that letter. -/
theorem eq_of_lowercaseChar_eq {c : Char} (h : lowercaseChar c = 'a') : c = 'a' ∨ c = 'A' := by
  unfold lowercaseChar at h
  split at h
  · next hascii =>
    have hsmall : ∀ n < 0x80, (Char.ofNat n).toLower = 'a' →
        Char.ofNat n = 'a' ∨ Char.ofNat n = 'A' := by decide +kernel
    exact forall_ascii (P := fun c => c.toLower = 'a' → c = 'a' ∨ c = 'A') hsmall hascii h
  · rcases mapByRuns_cases lowercaseRuns c with ⟨r, hr, n, himage, hmap⟩ | ⟨-, hmap⟩
    · have hlt := lt_target_of_mem_lowercaseRuns r hr
      have hle := CaseRun.target_le himage
      have hn : n = 'a'.toNat := eq_of_ofNat_eq (by decide) (hmap ▸ h)
      omega
    · exact .inl (hmap.symm.trans h)

/-- Only the first letter, small or capital, has that letter in its lower-case form. -/
theorem eq_of_mem_lowercaseAt {before after : List Char} {c : Char}
    (h : 'a' ∈ lowercaseAt before c after) : c = 'a' ∨ c = 'A' := by
  unfold lowercaseAt at h
  split_ifs at h
  · simp at h
  · unfold lowercaseSigma at h
    split_ifs at h <;> simp at h
  · exact eq_of_lowercaseChar_eq (List.mem_singleton.mp h).symm

/-- If the lower-case form of a text has the first letter in it, so has the text, small or
capital. -/
theorem eq_of_mem_lowercaseWithin {before behind text : List Char}
    (h : 'a' ∈ lowercaseWithin before behind text) : ∃ c ∈ text, c = 'a' ∨ c = 'A' := by
  induction text generalizing before with
  | nil => cases h
  | cons c rest ih =>
      rw [lowercaseWithin, List.mem_append] at h
      rcases h with hc | hrest
      · exact ⟨c, List.mem_cons_self, eq_of_mem_lowercaseAt hc⟩
      · obtain ⟨d, hd, heq⟩ := ih hrest
        exact ⟨d, List.mem_cons_of_mem _ hd, heq⟩

/-- Neither capital sigma nor what is passed over has the first letter in its lower-case form. -/
theorem not_mem_lowercaseWithin {before behind text : List Char}
    (h : ∀ c ∈ text, c = 'Σ' ∨ isCaseIgnorable c = true) :
    'a' ∉ lowercaseWithin before behind text := by
  intro hmem
  obtain ⟨c, hc, hletter⟩ := eq_of_mem_lowercaseWithin hmem
  have hsmall : isCaseIgnorable 'a' = false := by decide +kernel
  have hcapital : isCaseIgnorable 'A' = false := by decide +kernel
  rcases h c hc with rfl | hignorable
  · revert hletter
    decide
  · rcases hletter with rfl | rfl
    · rw [hsmall] at hignorable
      cases hignorable
    · rw [hcapital] at hignorable
      cases hignorable

/-- The lower-case form of a text that is not empty is not empty. -/
theorem lowercaseWithin_ne_nil {text : List Char} (h : text ≠ []) (before behind : List Char) :
    lowercaseWithin before behind text ≠ [] := by
  obtain ⟨c, rest, rfl⟩ := List.exists_cons_of_ne_nil h
  rw [lowercaseWithin, lowercaseAt]
  split_ifs <;> simp

end Wording.Text
