import Mathlib.Data.List.Nodup
import Wording.RuleSet

/-!
# The faults of a table

* `Faultless` — no pattern of the table is blank, and no two have the same key.
* `FaultAt` — what is wrong with the pattern at a position, seen from the patterns before it.
* **`firstFault?_eq_none_iff`** — a table is accepted exactly when it is faultless.
* **`firstFault?_eq_some_iff`** — otherwise the fault that is told of is at a position before which
  there is none, and there is one such position.

The check keeps the patterns that have passed as a list of keys with their patterns, the last one
first.  `passed` is that list, and the invariant is that the patterns in it are faultless.
-/

namespace Wording

/-- No pattern is blank, and no two have the same key. -/
structure Faultless (patterns : List String) : Prop where
  not_blank : ∀ p ∈ patterns, isBlankPattern p = false
  nodup_keys : (patterns.map patternKey).Nodup

/-- The fault of the pattern at position `i`, which is blank or has the key of one before it. -/
inductive FaultAt (kind : RuleKind) (patterns : List String) (i : Nat) : TableFault → Prop where
  | empty {p : String} (hp : patterns[i]? = some p) (hblank : isBlankPattern p = true) :
      FaultAt kind patterns i (.emptyPattern kind i)
  | duplicate {p q : String} {j : Nat} (hq : patterns[i]? = some q)
      (hblank : isBlankPattern q = false) (hj : j < i) (hp : patterns[j]? = some p)
      (hkey : patternKey p = patternKey q) :
      FaultAt kind patterns i (.duplicatePattern kind q p)

/-- No pattern is no fault. -/
theorem faultless_nil : Faultless [] :=
  ⟨fun _ h => absurd h List.not_mem_nil, List.nodup_nil⟩

/-- One more pattern is no fault if it is not blank and its key is a new one. -/
theorem faultless_concat_iff {patterns : List String} {p : String} :
    Faultless (patterns ++ [p]) ↔
      Faultless patterns ∧ isBlankPattern p = false ∧ patternKey p ∉ patterns.map patternKey := by
  have hkeys : ((patterns ++ [p]).map patternKey).Nodup ↔
      (patterns.map patternKey).Nodup ∧ patternKey p ∉ patterns.map patternKey := by
    rw [List.map_append, List.map_singleton, ← List.concat_eq_append, List.nodup_concat]
    exact and_comm
  have hblank : (∀ q ∈ patterns ++ [p], isBlankPattern q = false) ↔
      (∀ q ∈ patterns, isBlankPattern q = false) ∧ isBlankPattern p = false := by
    rw [List.forall_mem_append, List.forall_mem_singleton]
  constructor
  · rintro ⟨hnot, hnodup⟩
    exact ⟨⟨(hblank.mp hnot).1, (hkeys.mp hnodup).1⟩, (hblank.mp hnot).2, (hkeys.mp hnodup).2⟩
  · rintro ⟨⟨hnot, hnodup⟩, hp, hkey⟩
    exact ⟨hblank.mpr ⟨hnot, hp⟩, hkeys.mpr ⟨hnodup, hkey⟩⟩

/-- The patterns that have passed, the last one first, each with its key. -/
def passed (patterns : List String) : List (List Char × String) :=
  (patterns.map fun p => (patternKey p, p)).reverse

/-- As many have passed as there were. -/
theorem length_passed (patterns : List String) : (passed patterns).length = patterns.length := by
  rw [passed, List.length_reverse, List.length_map]

/-- One more pattern that has passed comes first. -/
theorem passed_concat (patterns : List String) (p : String) :
    passed (patterns ++ [p]) = (patternKey p, p) :: passed patterns := by
  rw [passed, List.map_append, List.reverse_append]
  rfl

/-- A pattern that has passed is there with its key. -/
theorem mem_passed_iff {patterns : List String} {key : List Char} {p : String} :
    (key, p) ∈ passed patterns ↔ p ∈ patterns ∧ patternKey p = key := by
  rw [passed, List.mem_reverse, List.mem_map]
  constructor
  · rintro ⟨q, hq, heq⟩
    obtain ⟨rfl, rfl⟩ := Prod.mk.inj heq
    exact ⟨hq, rfl⟩
  · rintro ⟨hp, rfl⟩
    exact ⟨p, hp, rfl⟩

/-- A key is not found if no pattern that has passed has it. -/
theorem not_mem_of_lookup_passed_eq_none {patterns : List String} {key : List Char}
    (h : (passed patterns).lookup key = none) : key ∉ patterns.map patternKey := by
  intro hmem
  obtain ⟨p, hp, hkey⟩ := List.mem_map.mp hmem
  have hne := List.lookup_eq_none_iff.mp h (key, p) (mem_passed_iff.mpr ⟨hp, hkey⟩)
  simp at hne

/-- A key is found with a pattern that has passed and has it. -/
theorem exists_getElem?_of_lookup_passed {patterns : List String} {key : List Char} {p : String}
    (h : (passed patterns).lookup key = some p) :
    ∃ j, j < patterns.length ∧ patterns[j]? = some p ∧ patternKey p = key := by
  obtain ⟨before, after, hsplit, -⟩ := List.lookup_eq_some_iff.mp h
  have hmem : (key, p) ∈ passed patterns := by
    rw [hsplit]
    exact List.mem_append_right _ List.mem_cons_self
  obtain ⟨hp, hkey⟩ := mem_passed_iff.mp hmem
  obtain ⟨j, hj, hget⟩ := List.mem_iff_getElem.mp hp
  exact ⟨j, hj, List.getElem?_eq_some_iff.mpr ⟨hj, hget⟩, hkey⟩

/-- **The check of the patterns behind those that have passed.**  Either all are faultless together,
or the fault that is told of is at a position before which all are. -/
theorem firstFaultAfter_spec (kind : RuleKind) {before : List String} (h : Faultless before)
    (rest : List String) :
    (firstFaultAfter kind (passed before) rest = none ∧ Faultless (before ++ rest)) ∨
      ∃ i fault, firstFaultAfter kind (passed before) rest = some fault ∧
        FaultAt kind (before ++ rest) i fault ∧ Faultless ((before ++ rest).take i) := by
  induction rest generalizing before with
  | nil =>
      rw [List.append_nil]
      exact .inl ⟨rfl, h⟩
  | cons p rest ih =>
      have hp : (before ++ p :: rest)[before.length]? = some p := by simp
      have htake : Faultless ((before ++ p :: rest).take before.length) := by
        rwa [List.take_left']
        rfl
      rw [firstFaultAfter]
      cases hblank : isBlankPattern p with
      | true =>
          rw [if_pos rfl, length_passed]
          exact .inr ⟨before.length, _, rfl, .empty hp hblank, htake⟩
      | false =>
          rw [if_neg Bool.false_ne_true]
          cases hlookup : (passed before).lookup (patternKey p) with
          | some first =>
              obtain ⟨j, hj, hget, hkey⟩ := exists_getElem?_of_lookup_passed hlookup
              have hfirst : (before ++ p :: rest)[j]? = some first := by
                rw [List.getElem?_append_left hj, hget]
              simp only [hlookup]
              exact .inr ⟨before.length, _, rfl, .duplicate hp hblank hj hfirst hkey, htake⟩
          | none =>
              have hconcat : Faultless (before ++ [p]) :=
                faultless_concat_iff.mpr ⟨h, hblank, not_mem_of_lookup_passed_eq_none hlookup⟩
              have hrest := ih hconcat
              rw [passed_concat, List.append_assoc, List.singleton_append] at hrest
              simp only [hlookup]
              exact hrest

/-- In a faultless table a key has one position at most. -/
theorem Faultless.position_unique {patterns : List String} (h : Faultless patterns) {i j : Nat}
    {p q : String} (hp : patterns[i]? = some p) (hq : patterns[j]? = some q)
    (hkey : patternKey p = patternKey q) : i = j := by
  have hlength : i < (patterns.map patternKey).length := by
    rw [List.length_map]
    exact (List.getElem?_eq_some_iff.mp hp).1
  refine (List.getElem?_inj hlength h.nodup_keys).mp ?_
  rw [List.getElem?_map, List.getElem?_map, hp, hq, Option.map_some, Option.map_some, hkey]

/-- A faultless table has no fault at any position. -/
theorem FaultAt.not_faultless {kind : RuleKind} {patterns : List String} {i : Nat}
    {fault : TableFault} (h : FaultAt kind patterns i fault) : ¬Faultless patterns := by
  intro hfaultless
  cases h with
  | @empty p hp hblank =>
      rw [hfaultless.not_blank p (List.mem_of_getElem? hp)] at hblank
      cases hblank
  | duplicate hq hblank hj hp hkey =>
      exact Nat.ne_of_lt hj (hfaultless.position_unique hp hq hkey)

/-- **A table is accepted exactly when it is faultless.** -/
theorem firstFault?_eq_none_iff {kind : RuleKind} {patterns : List String} :
    firstFault? kind patterns = none ↔ Faultless patterns := by
  have hspec := firstFaultAfter_spec kind faultless_nil patterns
  rw [List.nil_append] at hspec
  rcases hspec with ⟨hnone, hfaultless⟩ | ⟨i, fault, hsome, hfault, -⟩
  · exact iff_of_true hnone hfaultless
  · refine iff_of_false ?_ hfault.not_faultless
    intro hnone
    cases hsome.symm.trans hnone

/-- **The fault that is told of** is at a position before which there is none. -/
theorem exists_faultAt_of_firstFault? {kind : RuleKind} {patterns : List String}
    {fault : TableFault} (h : firstFault? kind patterns = some fault) :
    ∃ i, FaultAt kind patterns i fault ∧ Faultless (patterns.take i) := by
  have hspec := firstFaultAfter_spec kind faultless_nil patterns
  rw [List.nil_append] at hspec
  rcases hspec with ⟨hnone, -⟩ | ⟨i, found, hsome, hfault, hbefore⟩
  · cases h.symm.trans hnone
  · obtain rfl := Option.some.inj (h.symm.trans hsome)
    exact ⟨i, hfault, hbefore⟩

/-- A fault does not depend on the patterns behind it. -/
theorem FaultAt.take {kind : RuleKind} {patterns : List String} {i n : Nat} {fault : TableFault}
    (h : FaultAt kind patterns i fault) (hn : i < n) : FaultAt kind (patterns.take n) i fault := by
  cases h with
  | empty hp hblank => exact .empty (by rwa [List.getElem?_take_of_lt hn]) hblank
  | duplicate hq hblank hj hp hkey =>
      refine .duplicate ?_ hblank hj ?_ hkey
      · rwa [List.getElem?_take_of_lt hn]
      · rwa [List.getElem?_take_of_lt (Nat.lt_trans hj hn)]

/-- The first position of a fault does not lie behind another. -/
theorem FaultAt.le_of_faultless {kind : RuleKind} {patterns : List String} {i n : Nat}
    {fault : TableFault} (h : FaultAt kind patterns i fault) (hn : Faultless (patterns.take n)) :
    n ≤ i :=
  Nat.le_of_not_lt fun hlt => (h.take hlt).not_faultless hn

/-- At the first position of a fault there is one fault only. -/
theorem FaultAt.unique {kind : RuleKind} {patterns : List String} {i : Nat}
    {fault fault' : TableFault} (h : FaultAt kind patterns i fault)
    (h' : FaultAt kind patterns i fault') (hbefore : Faultless (patterns.take i)) :
    fault = fault' := by
  cases h with
  | empty hp hblank =>
      cases h' with
      | empty => rfl
      | duplicate hq hnot =>
          obtain rfl := Option.some.inj (hp.symm.trans hq)
          rw [hblank] at hnot
          cases hnot
  | @duplicate p q j hq hblank hj hp hkey =>
      cases h' with
      | empty hp' hempty =>
          obtain rfl := Option.some.inj (hq.symm.trans hp')
          rw [hempty] at hblank
          cases hblank
      | @duplicate p' q' j' hq' _ hj' hp' hkey' =>
          obtain rfl := Option.some.inj (hq.symm.trans hq')
          -- both first patterns stand before the fault, where a key has one position
          have hsame : j = j' := hbefore.position_unique
            (by rw [List.getElem?_take_of_lt hj, hp]) (by rw [List.getElem?_take_of_lt hj', hp'])
            (hkey.trans hkey'.symm)
          rw [hsame, hp'] at hp
          obtain rfl := Option.some.inj hp
          rfl

/-- **The fault that is told of is the first one.** -/
theorem firstFault?_eq_some_iff {kind : RuleKind} {patterns : List String} {fault : TableFault} :
    firstFault? kind patterns = some fault ↔
      ∃ i, FaultAt kind patterns i fault ∧ Faultless (patterns.take i) := by
  refine ⟨exists_faultAt_of_firstFault?, ?_⟩
  rintro ⟨i, hfault, hbefore⟩
  cases hfirst : firstFault? kind patterns with
  | none => exact absurd (firstFault?_eq_none_iff.mp hfirst) hfault.not_faultless
  | some told =>
      obtain ⟨j, htold, hbefore'⟩ := exists_faultAt_of_firstFault? hfirst
      obtain rfl : i = j :=
        Nat.le_antisymm (htold.le_of_faultless hbefore) (hfault.le_of_faultless hbefore')
      rw [htold.unique hfault hbefore]

end Wording
