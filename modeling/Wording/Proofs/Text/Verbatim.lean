import Wording.Proofs.Text.Lowercase
import Wording.RuleSet

/-!
# Phrases that stand in a line as they are written

* `Text.occursIn_iff` — a text is found in a line exactly when it is part of the line.
* **`PhraseRule.fires_verbatim_iff`** — a phrase fires in all lines that have its pattern in them as
  it is written exactly when the pattern settles its capital sigmas.
* `PhraseRule.not_fires_verbatim` — an accepted phrase may stand in a line and not fire.

Pattern and line go to lower case apart from each other, and a capital sigma may get one form in the
pattern and the other in the line.  That a line can be made in which the phrase is then not found
takes a letter which the sigma and all that is passed over beside it cannot be mistaken for.
-/

namespace Wording

namespace Text

/-- **A text is found in a line exactly when it is part of the line.** -/
theorem occursIn_iff {text line : List Char} : occursIn text line = true ↔ text <:+: line := by
  induction line with
  | nil => simp [occursIn]
  | cons c rest ih =>
      rw [occursIn, Bool.or_eq_true, List.isPrefixOf_iff_prefix, ih, List.infix_cons_iff]

/-- A part that is one shorter than the whole is all but its last or all but its first. -/
theorem eq_concat_or_eq_cons {part whole : List Char} (h : part <:+: whole)
    (hlength : whole.length = part.length + 1) :
    (∃ c, whole = part ++ [c]) ∨ ∃ c, whole = c :: part := by
  obtain ⟨front, behind, rfl⟩ := h
  have hsum : front.length + behind.length = 1 := by
    simp only [List.length_append] at hlength
    omega
  cases front with
  | nil =>
      obtain ⟨c, rfl⟩ := List.length_eq_one_iff.mp (by simpa using hsum)
      exact .inl ⟨c, by simp⟩
  | cons c front =>
      have hfront : front = [] := List.length_eq_zero_iff.mp (by simp at hsum; omega)
      have hbehind : behind = [] := List.length_eq_zero_iff.mp (by simp at hsum; omega)
      exact .inr ⟨c, by simp [hfront, hbehind]⟩

/-- What ends a text ends its last part. -/
theorem mem_of_concat_eq_append {text front part : List Char} {c : Char} (hne : part ≠ [])
    (h : text ++ [c] = front ++ part) : c ∈ part := by
  obtain ⟨most, last, rfl⟩ := List.eq_nil_or_concat part |>.resolve_left hne
  rw [List.concat_eq_append, ← List.append_assoc] at h
  obtain rfl := List.singleton_inj.mp (List.append_inj' h rfl).2
  simp

/-- What begins a text begins its first part. -/
theorem mem_of_cons_eq_append {text part behind : List Char} {c : Char} (hne : part ≠ [])
    (h : c :: text = part ++ behind) : c ∈ part := by
  obtain ⟨d, rest, rfl⟩ := List.exists_cons_of_ne_nil hne
  obtain ⟨rfl, -⟩ := List.cons.inj h
  exact List.mem_cons_self

/-- The lower-case form of a letter, wherever it stands. -/
theorem lowercaseWithin_letter (before behind : List Char) :
    lowercaseWithin before behind ['a'] = ['a'] := by
  have hletter : lowercaseChar 'a' = 'a' := by decide +kernel
  simp [lowercaseWithin, lowercaseAt, hletter]

/-- A text is not found in the line that has a letter behind it if that changes one of its
sigmas. -/
theorem not_infix_of_behind {a b : List Char} (hb : verdict? b = none)
    (hsigma : lowercaseSigma a.reverse (b ++ ['a']) ≠ lowercaseSigma a.reverse b) :
    ¬lowercase (a ++ 'Σ' :: b) <:+: lowercase (a ++ 'Σ' :: b ++ ['a']) := by
  intro h
  have hline : lowercase (a ++ 'Σ' :: b ++ ['a']) =
      lowercaseWithin [] ['a'] (a ++ 'Σ' :: b) ++ ['a'] := by
    rw [lowercase_eq, lowercaseWithin_append, lowercaseWithin_letter, List.append_nil]
  rw [hline, lowercase_eq] at h
  have hlength : (lowercaseWithin [] ['a'] (a ++ 'Σ' :: b) ++ ['a']).length =
      (lowercaseWithin [] [] (a ++ 'Σ' :: b)).length + 1 := by
    rw [List.length_append, length_lowercaseWithin [] [] ['a'] []]
    rfl
  rcases eq_concat_or_eq_cons h hlength with ⟨c, heq⟩ | ⟨c, heq⟩
  · -- at the beginning of the line the sigma has the wrong form
    obtain ⟨hsame, -⟩ := List.append_inj' heq rfl
    have hforms := lowercaseSigma_eq_of_lowercaseWithin_eq hsame
    simp only [List.append_nil] at hforms
    exact hsigma hforms
  · -- further on, the last character is wrong
    have hpassed : ∀ c ∈ 'Σ' :: b, c = 'Σ' ∨ isCaseIgnorable c = true := by
      intro c hc
      rcases List.mem_cons.mp hc with rfl | hc
      · exact .inl rfl
      · exact .inr (isCaseIgnorable_of_verdict? hb c hc)
    rw [lowercaseWithin_append [] [], ← List.cons_append] at heq
    exact not_mem_lowercaseWithin hpassed
      (mem_of_concat_eq_append (lowercaseWithin_ne_nil (List.cons_ne_nil _ _) _ _) heq)

/-- A text is not found in the line that has a letter before it if that changes one of its
sigmas. -/
theorem not_infix_of_front {a b : List Char} (ha : verdict? a.reverse = none)
    (hsigma : lowercaseSigma (a.reverse ++ ['a']) b ≠ lowercaseSigma a.reverse b) :
    ¬lowercase (a ++ 'Σ' :: b) <:+: lowercase ('a' :: (a ++ 'Σ' :: b)) := by
  intro h
  have hline : lowercase ('a' :: (a ++ 'Σ' :: b)) =
      'a' :: lowercaseWithin ['a'] [] (a ++ 'Σ' :: b) := by
    rw [lowercase_eq, ← List.singleton_append, lowercaseWithin_append, lowercaseWithin_letter]
    rfl
  rw [hline, lowercase_eq] at h
  have hlength : ('a' :: lowercaseWithin ['a'] [] (a ++ 'Σ' :: b)).length =
      (lowercaseWithin [] [] (a ++ 'Σ' :: b)).length + 1 := by
    rw [List.length_cons, length_lowercaseWithin ['a'] [] [] []]
  rcases eq_concat_or_eq_cons h hlength with ⟨c, heq⟩ | ⟨c, heq⟩
  · -- at the beginning of the line the first character is wrong
    have hpassed : ∀ c ∈ a ++ ['Σ'], c = 'Σ' ∨ isCaseIgnorable c = true := by
      intro c hc
      rcases List.mem_append.mp hc with hc | hc
      · exact .inr (isCaseIgnorable_of_verdict? ha c (List.mem_reverse.mpr hc))
      · exact .inl (List.mem_singleton.mp hc)
    have hparts : lowercaseWithin [] [] (a ++ 'Σ' :: b) =
        lowercaseWithin [] b (a ++ ['Σ']) ++ lowercaseWithin ('Σ' :: a.reverse) [] b := by
      have hsplit : a ++ 'Σ' :: b = a ++ ['Σ'] ++ b := by simp
      rw [hsplit, lowercaseWithin_append]
      simp
    rw [hparts, List.append_assoc] at heq
    exact not_mem_lowercaseWithin hpassed
      (mem_of_cons_eq_append (lowercaseWithin_ne_nil (by simp) _ _) heq)
  · -- further on the sigma has the wrong form
    obtain ⟨-, hsame⟩ := List.cons.inj heq
    have hforms := lowercaseSigma_eq_of_lowercaseWithin_eq hsame
    simp only [List.append_nil] at hforms
    exact hsigma hforms

/-- **A text is found in all lines that it stands in as it is written exactly when it settles its
capital sigmas.** -/
theorem infix_lowercase_iff (text : List Char) :
    (∀ front behind, lowercase text <:+: lowercase (front ++ text ++ behind)) ↔
      SettlesSigmas text := by
  constructor
  · intro h a b htext
    subst htext
    by_contra hsettled
    rcases lowercaseSigma_concat_of_not_settled hsettled with ⟨hb, hsigma⟩ | ⟨ha, hsigma⟩
    · exact not_infix_of_behind hb hsigma (h [] ['a'])
    · have hfront := h ['a'] []
      rw [List.append_nil, List.singleton_append] at hfront
      exact not_infix_of_front ha hsigma hfront
  · intro h front behind
    rw [lowercase_append₃, h.lowercaseWithin_eq]
    exact ⟨_, _, rfl⟩

end Text

/-! ## The rule -/

/-- A phrase fires in a line if its lower-case form is part of that of the line. -/
theorem PhraseRule.fires_iff {r : PhraseRule} {text : List Char} :
    r.fires (.ofText text) = true ↔ Text.lowercase r.pattern.toList <:+: Text.lowercase text := by
  rw [PhraseRule.fires, Text.occursIn_iff, r.key_eq]
  rfl

/-- **A phrase fires in all lines that have its pattern in them as it is written exactly when the
pattern settles its capital sigmas**: for each of them it says itself whether the sigma ends a
word. -/
theorem PhraseRule.fires_verbatim_iff (r : PhraseRule) :
    (∀ front behind, r.fires (.ofText (front ++ r.pattern.toList ++ behind)) = true) ↔
      Text.SettlesSigmas r.pattern.toList := by
  simp only [PhraseRule.fires_iff]
  exact Text.infix_lowercase_iff _

/-- A phrase without a capital sigma fires in all lines that have its pattern in them as it is
written. -/
theorem PhraseRule.fires_verbatim_of_not_mem {r : PhraseRule} (h : 'Σ' ∉ r.pattern.toList)
    (front behind : List Char) :
    r.fires (.ofText (front ++ r.pattern.toList ++ behind)) = true := by
  rw [PhraseRule.fires_iff]
  exact (Text.infix_lowercase_iff _).mpr (Text.settlesSigmas_of_not_mem h) front behind

/-- **An accepted phrase may stand in a line and not fire**: behind a letter, a sigma at the end of
the pattern is final, and in a line that goes on it is not. -/
theorem PhraseRule.not_fires_verbatim :
    ¬∀ (phrases : List (String × String)) (cautions : List String) (rules : RuleSet),
      RuleSet.build phrases cautions = .ok rules → ∀ r ∈ rules.phrases, ∀ front behind,
        r.fires (.ofText (front ++ r.pattern.toList ++ behind)) = true := by
  intro h
  let r : PhraseRule := { pattern := "aΣ", suggestion := "x" }
  have hbuild : RuleSet.build [("aΣ", "x")] [] = .ok ⟨[r], []⟩ := by decide +kernel
  have hfires := h _ _ _ hbuild r List.mem_cons_self
  simp only [PhraseRule.fires_iff] at hfires
  have hsettled := (Text.infix_lowercase_iff _).mp hfires
  have hnot : ¬Text.SigmaSettled ['a'] [] := by decide +kernel
  exact hnot (hsettled ['a'] [] (by decide +kernel))

end Wording
