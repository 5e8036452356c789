import Wording.Proofs.Rules.Faults
import Wording.Proofs.Text.Trimming

/-!
# Which tables make rules

* `FaultyAt` — the pattern at a position is blank, or one before it has the same lower-case form.
* `FirstFaultyAt` — the least such position of a table.
* `TellsOf` — the fault that such a position is reported with.
* `firstFault?_eq_some_iff_tellsOf` — the check of a table reports its first faulty position.
* **`RuleSet.build_tells_first_fault`** — two tables make rules exactly if neither has a faulty
  position, and then the rules are the entries; otherwise the first faulty position is told of,
  those of phrases before those of caution words.

What a check remembers is not mentioned here.  Before the first faulty position no two patterns have
the same lower-case form, so the earlier spelling in the report of a duplicate is the only one that
there is.
-/

namespace Wording

/-! ## Blank patterns -/

/-- **A pattern is blank** if it has nothing but white space. -/
theorem isBlankPattern_iff {p : String} :
    isBlankPattern p = true ↔ ∀ c ∈ p.toList, Text.isBlank c = true := by
  rw [isBlankPattern, List.isEmpty_iff, Text.trim_eq_nil_iff]

/-! ## Faulty positions -/

/-- The pattern at the position is blank, or one before it has the same lower-case form. -/
def FaultyAt (patterns : List String) (i : Nat) : Prop :=
  ∃ p, patterns[i]? = some p ∧
    ((∀ c ∈ p.toList, Text.isBlank c = true) ∨
      ∃ j q, j < i ∧ patterns[j]? = some q ∧ Text.lowercase q.toList = Text.lowercase p.toList)

/-- The position is the first faulty one. -/
structure FirstFaultyAt (patterns : List String) (i : Nat) : Prop where
  faulty : FaultyAt patterns i
  before : ∀ j < i, ¬FaultyAt patterns j

/-- What is told of a faulty position: that the pattern there is blank, or else which pattern it is
and with which it collides, the only one before it that has the same lower-case form. -/
inductive TellsOf (kind : RuleKind) (patterns : List String) (i : Nat) : TableFault → Prop where
  | empty {p : String} (hp : patterns[i]? = some p)
      (hblank : ∀ c ∈ p.toList, Text.isBlank c = true) :
      TellsOf kind patterns i (.emptyPattern kind i)
  | duplicate {p q : String} {j : Nat} (hp : patterns[i]? = some p)
      (hblank : ¬∀ c ∈ p.toList, Text.isBlank c = true) (hj : j < i)
      (hq : patterns[j]? = some q)
      (hkey : Text.lowercase q.toList = Text.lowercase p.toList)
      (hunique : ∀ k r, k < i → patterns[k]? = some r →
        Text.lowercase r.toList = Text.lowercase p.toList → k = j) :
      TellsOf kind patterns i (.duplicatePattern kind p q)

variable {kind : RuleKind} {patterns : List String} {i n : Nat} {fault : TableFault}

/-- A position is faulty if there is a fault to tell of. -/
theorem faultyAt_iff_exists_faultAt (kind : RuleKind) :
    FaultyAt patterns i ↔ ∃ fault, FaultAt kind patterns i fault := by
  constructor
  · rintro ⟨p, hp, hfault⟩
    by_cases hblank : isBlankPattern p = true
    · exact ⟨_, .empty hp hblank⟩
    · rcases hfault with hall | ⟨j, q, hj, hq, hkey⟩
      · exact absurd (isBlankPattern_iff.mpr hall) hblank
      · exact ⟨_, .duplicate hp (by simpa using hblank) hj hq hkey⟩
  · rintro ⟨fault, hfault⟩
    cases hfault with
    | empty hp hblank => exact ⟨_, hp, .inl (isBlankPattern_iff.mp hblank)⟩
    | duplicate hp _ hj hq hkey => exact ⟨_, hp, .inr ⟨_, _, hj, hq, hkey⟩⟩

/-- **A table is faultless if no position is faulty.** -/
theorem faultless_iff_not_faultyAt : Faultless patterns ↔ ∀ i, ¬FaultyAt patterns i := by
  constructor
  · intro h i hi
    obtain ⟨fault, hfault⟩ := (faultyAt_iff_exists_faultAt .phrase).mp hi
    exact hfault.not_faultless h
  · intro h
    rw [← @firstFault?_eq_none_iff .phrase patterns]
    cases hfirst : firstFault? .phrase patterns with
    | none => rfl
    | some fault =>
        obtain ⟨i, hfault, -⟩ := exists_faultAt_of_firstFault? hfirst
        exact absurd ((faultyAt_iff_exists_faultAt .phrase).mpr ⟨fault, hfault⟩) (h i)

/-- The first patterns have the faulty positions that the table has among them. -/
theorem faultyAt_take_iff : FaultyAt (patterns.take n) i ↔ i < n ∧ FaultyAt patterns i := by
  have hget : ∀ {k : Nat} {p : String},
      (patterns.take n)[k]? = some p ↔ k < n ∧ patterns[k]? = some p := by
    intro k p
    by_cases hk : k < n
    · simp [List.getElem?_take_of_lt hk, hk]
    · rw [List.getElem?_take_eq_none (Nat.le_of_not_lt hk)]
      simp [hk]
  constructor
  · rintro ⟨p, hp, hfault⟩
    obtain ⟨hi, hp⟩ := hget.mp hp
    refine ⟨hi, p, hp, hfault.imp_right ?_⟩
    rintro ⟨j, q, hj, hq, hkey⟩
    exact ⟨j, q, hj, (hget.mp hq).2, hkey⟩
  · rintro ⟨hi, p, hp, hfault⟩
    refine ⟨p, hget.mpr ⟨hi, hp⟩, hfault.imp_right ?_⟩
    rintro ⟨j, q, hj, hq, hkey⟩
    exact ⟨j, q, hj, hget.mpr ⟨Nat.lt_trans hj hi, hq⟩, hkey⟩

/-- The patterns before a position are faultless if no position before it is faulty. -/
theorem faultless_take_iff : Faultless (patterns.take i) ↔ ∀ j < i, ¬FaultyAt patterns j := by
  simp only [faultless_iff_not_faultyAt, faultyAt_take_iff, not_and]

/-- At the first faulty position there is no choice of an earlier pattern. -/
theorem FirstFaultyAt.tellsOf_iff (h : FirstFaultyAt patterns i) :
    TellsOf kind patterns i fault ↔ FaultAt kind patterns i fault := by
  constructor
  · rintro (⟨hp, hblank⟩ | ⟨hp, hblank, hj, hq, hkey, -⟩)
    · exact .empty hp (isBlankPattern_iff.mpr hblank)
    · exact .duplicate hp (by simpa using mt isBlankPattern_iff.mp hblank) hj hq hkey
  · rintro (⟨hp, hblank⟩ | ⟨hp, hblank, hj, hq, hkey⟩)
    · exact .empty hp (isBlankPattern_iff.mp hblank)
    · refine .duplicate hp (fun hall => ?_) hj hq hkey fun k r hk hr hkey' => ?_
      · rw [isBlankPattern_iff.mpr hall] at hblank
        cases hblank
      · -- both stand before the position, where no two have the same lower-case form
        refine (faultless_take_iff.mpr h.before).position_unique ?_ ?_ (hkey'.trans hkey.symm)
        · rw [List.getElem?_take_of_lt hk, hr]
        · rw [List.getElem?_take_of_lt hj, hq]

/-- **The check of a table tells of its first faulty position.** -/
theorem firstFault?_eq_some_iff_tellsOf :
    firstFault? kind patterns = some fault ↔
      ∃ i, FirstFaultyAt patterns i ∧ TellsOf kind patterns i fault := by
  rw [firstFault?_eq_some_iff]
  refine exists_congr fun i => ?_
  constructor
  · rintro ⟨hfault, hbefore⟩
    have hfirst : FirstFaultyAt patterns i :=
      ⟨(faultyAt_iff_exists_faultAt kind).mpr ⟨fault, hfault⟩, faultless_take_iff.mp hbefore⟩
    exact ⟨hfirst, hfirst.tellsOf_iff.mpr hfault⟩
  · rintro ⟨hfirst, htells⟩
    exact ⟨hfirst.tellsOf_iff.mp htells, faultless_take_iff.mpr hfirst.before⟩

/-- No pattern of a faultless table is blank, and no two have the same lower-case form. -/
theorem faultless_iff_pairwise :
    Faultless patterns ↔ (∀ p ∈ patterns, ∃ c ∈ p.toList, Text.isBlank c = false) ∧
      patterns.Pairwise fun p q => Text.lowercase p.toList ≠ Text.lowercase q.toList := by
  have hblank : ∀ p : String,
      isBlankPattern p = false ↔ ∃ c ∈ p.toList, Text.isBlank c = false := by
    intro p
    rw [← Bool.not_eq_true, isBlankPattern_iff]
    simp
  have hkeys : (patterns.map patternKey).Nodup ↔
      patterns.Pairwise fun p q => Text.lowercase p.toList ≠ Text.lowercase q.toList :=
    List.pairwise_map
  simp only [← hblank, ← hkeys]
  exact ⟨fun h => ⟨h.not_blank, h.nodup_keys⟩, fun h => ⟨h.1, h.2⟩⟩

/-! ## Building rules -/

namespace RuleSet

variable {phrases : List (String × String)} {cautions : List String}

/-- A table of phrases is refused before the table of caution words is looked at. -/
theorem build_eq_error_iff :
    build phrases cautions = .error fault ↔
      firstFault? .phrase (phrases.map (·.1)) = some fault ∨
        firstFault? .phrase (phrases.map (·.1)) = none ∧
          firstFault? .caution cautions = some fault := by
  rw [build]
  cases firstFault? .phrase (phrases.map (·.1)) with
  | some found => simp
  | none => cases firstFault? .caution cautions <;> simp

/-- Two tables make rules if both pass the check. -/
theorem exists_build_eq_ok_iff :
    (∃ rules, build phrases cautions = .ok rules) ↔
      firstFault? .phrase (phrases.map (·.1)) = none ∧ firstFault? .caution cautions = none := by
  rw [build]
  cases firstFault? .phrase (phrases.map (·.1)) with
  | some found => simp
  | none => cases firstFault? .caution cautions <;> simp

/-- A rule set that is built has a rule for each entry of the tables. -/
theorem eq_of_build {rules : RuleSet} (h : build phrases cautions = .ok rules) :
    rules = ⟨phrases.map fun p => { pattern := p.1, suggestion := p.2 },
      cautions.map fun w => { pattern := w }⟩ := by
  unfold build at h
  split at h
  · cases h
  · cases h
  · exact (Except.ok.inj h).symm

/-- The texts of the rules are those of the entries, in order. -/
theorem entries_of_build {rules : RuleSet} (h : build phrases cautions = .ok rules) :
    rules.phrases.map (fun r => (r.pattern, r.suggestion)) = phrases ∧
      rules.cautions.map CautionRule.pattern = cautions := by
  rw [eq_of_build h]
  simp [Function.comp_def]

/-- **Tables make rules exactly if they are valid; otherwise the first fault is told of.**  Two
tables are accepted if in each of them no pattern is blank and no two have the same lower-case form;
a text may stand in both.  The rules are then the entries in order, with their texts as they are.
Otherwise the fault is that of the first faulty position, phrases before caution words: the pattern
there is blank, or it has the lower-case form of one pattern before it. -/
theorem build_tells_first_fault (phrases : List (String × String)) (cautions : List String) :
    ((∃ rules, build phrases cautions = .ok rules) ↔
        ∀ patterns ∈ [phrases.map (·.1), cautions],
          (∀ p ∈ patterns, ∃ c ∈ p.toList, Text.isBlank c = false) ∧
            patterns.Pairwise fun p q => Text.lowercase p.toList ≠ Text.lowercase q.toList) ∧
      (∀ rules, build phrases cautions = .ok rules →
        rules.phrases.map (fun r => (r.pattern, r.suggestion)) = phrases ∧
          rules.cautions.map CautionRule.pattern = cautions) ∧
      ∀ fault, build phrases cautions = .error fault ↔
        (∃ i, FirstFaultyAt (phrases.map (·.1)) i ∧
          TellsOf .phrase (phrases.map (·.1)) i fault) ∨
        (∀ i, ¬FaultyAt (phrases.map (·.1)) i) ∧
          ∃ i, FirstFaultyAt cautions i ∧ TellsOf .caution cautions i fault := by
  refine ⟨?_, fun rules => entries_of_build, fun fault => ?_⟩
  · rw [exists_build_eq_ok_iff, firstFault?_eq_none_iff, firstFault?_eq_none_iff,
      faultless_iff_pairwise, faultless_iff_pairwise, List.forall_mem_cons,
      List.forall_mem_singleton]
  · rw [build_eq_error_iff, firstFault?_eq_some_iff_tellsOf, firstFault?_eq_some_iff_tellsOf,
      firstFault?_eq_none_iff, faultless_iff_not_faultyAt]

end RuleSet

end Wording
