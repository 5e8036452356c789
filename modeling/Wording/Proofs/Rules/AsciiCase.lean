import Wording.Proofs.Rules.Tables
import Wording.Proofs.Scan.Findings
import Wording.Proofs.Text.AsciiCase
import Wording.Proofs.Text.Verbatim

/-!
# Case never changes the outcome

* `checked` — all that the check of a table sees of its patterns.
* `FailsAlike` — two tables have their first faults at the same positions.
* **`failsAlike_of_checked_eq`** — so have tables of which the check sees the same.
* `RuleSet.fires_of_build` — which rules of a table fire, said of the patterns that it declares.
* **`RuleSet.outcome_of_recased`** — tables and lines that differ in the case of ASCII letters have
  the same outcome.

The faults of two tables are not equal, since each names patterns of its own table.  What is the same
are the positions.
-/

namespace Wording

/-! ## What the check sees -/

/-- All that the check sees of patterns: which of them are blank, and their keys. -/
def checked (patterns : List String) : List (Bool × List Char) :=
  patterns.map fun p => (isBlankPattern p, patternKey p)

/-- Two tables fail alike: for a blank pattern at the same position, or for a pattern at the same
position that has the key of one at the same earlier position.  Each fault is the first one of its
table and names the patterns that this table has there. -/
inductive FailsAlike (kind : RuleKind) (patterns patterns' : List String) :
    TableFault → TableFault → Prop where
  | empty (i : Nat) :
      FailsAlike kind patterns patterns' (.emptyPattern kind i) (.emptyPattern kind i)
  | duplicate {i j : Nat} {p q p' q' : String} (hj : j < i)
      (hq : patterns[i]? = some q) (hp : patterns[j]? = some p)
      (hq' : patterns'[i]? = some q') (hp' : patterns'[j]? = some p')
      (hkey : patternKey p = patternKey q) (hkey' : patternKey p' = patternKey q')
      (hbefore : Faultless (patterns.take i)) (hbefore' : Faultless (patterns'.take i)) :
      FailsAlike kind patterns patterns' (.duplicatePattern kind q p)
        (.duplicatePattern kind q' p')

variable {kind : RuleKind} {patterns patterns' : List String}

/-- A table is faultless if the check sees the same of it as of one that is. -/
theorem Faultless.of_checked_eq (hfaultless : Faultless patterns)
    (h : checked patterns = checked patterns') : Faultless patterns' := by
  have hblank : patterns.map isBlankPattern = patterns'.map isBlankPattern := by
    simpa [checked, Function.comp_def] using congrArg (List.map Prod.fst) h
  have hkeys : patterns.map patternKey = patterns'.map patternKey := by
    simpa [checked, Function.comp_def] using congrArg (List.map Prod.snd) h
  refine ⟨fun p hp => ?_, hkeys ▸ hfaultless.nodup_keys⟩
  have hmem : isBlankPattern p ∈ patterns.map isBlankPattern :=
    hblank ▸ List.mem_map_of_mem hp
  obtain ⟨q, hq, heq⟩ := List.mem_map.mp hmem
  rw [← heq, hfaultless.not_blank q hq]

/-- The check sees the same of the first patterns if it does so of all. -/
theorem checked_take_eq (h : checked patterns = checked patterns') (n : Nat) :
    checked (patterns.take n) = checked (patterns'.take n) := by
  rw [checked, checked, List.map_take, List.map_take]
  exact congrArg (List.take n) h

/-- Where the one table has a pattern, the other has one of which the check sees the same. -/
theorem exists_getElem?_of_checked_eq (h : checked patterns = checked patterns') {i : Nat}
    {p : String} (hp : patterns[i]? = some p) :
    ∃ p', patterns'[i]? = some p' ∧ isBlankPattern p' = isBlankPattern p ∧
      patternKey p' = patternKey p := by
  have hat : (checked patterns')[i]? = some (isBlankPattern p, patternKey p) := by
    rw [← h, checked, List.getElem?_map, hp, Option.map_some]
  rw [checked, List.getElem?_map, Option.map_eq_some_iff] at hat
  obtain ⟨p', hp', heq⟩ := hat
  obtain ⟨hblank, hkey⟩ := Prod.mk.inj heq
  exact ⟨p', hp', hblank, hkey⟩

/-- **Tables of which the check sees the same fail alike.** -/
theorem failsAlike_of_checked_eq (h : checked patterns = checked patterns') {fault : TableFault}
    (hfault : firstFault? kind patterns = some fault) :
    ∃ fault', firstFault? kind patterns' = some fault' ∧
      FailsAlike kind patterns patterns' fault fault' := by
  obtain ⟨i, hat, hbefore⟩ := firstFault?_eq_some_iff.mp hfault
  have hbefore' : Faultless (patterns'.take i) := hbefore.of_checked_eq (checked_take_eq h i)
  cases hat with
  | empty hp hblank =>
      obtain ⟨p', hp', hblank', -⟩ := exists_getElem?_of_checked_eq h hp
      rw [← hblank'] at hblank
      exact ⟨_, firstFault?_eq_some_iff.mpr ⟨i, .empty hp' hblank, hbefore'⟩, .empty i⟩
  | duplicate hq hblank hj hp hkey =>
      obtain ⟨q', hq', hblank', hkeyq⟩ := exists_getElem?_of_checked_eq h hq
      obtain ⟨p', hp', -, hkeyp⟩ := exists_getElem?_of_checked_eq h hp
      rw [← hblank'] at hblank
      have hkey' : patternKey p' = patternKey q' := by rw [hkeyp, hkeyq, hkey]
      exact ⟨_, firstFault?_eq_some_iff.mpr ⟨i, .duplicate hq' hblank hj hp' hkey', hbefore'⟩,
        .duplicate hj hq hp hq' hp' hkey hkey' hbefore hbefore'⟩

/-- A table is accepted if the check sees the same of it as of one that is. -/
theorem firstFault?_eq_none_of_checked_eq (h : checked patterns = checked patterns')
    (hnone : firstFault? kind patterns = none) : firstFault? kind patterns' = none :=
  firstFault?_eq_none_iff.mpr ((firstFault?_eq_none_iff.mp hnone).of_checked_eq h)

/-! ## Recased tables -/

/-- The second table is the first one with some ASCII letters of its patterns changed in case. -/
def RecasedTable (patterns patterns' : List String) : Prop :=
  List.Forall₂ (fun p q => Text.Recased p.toList q.toList) patterns patterns'

/-- What sees no change of case in a pattern sees none in a table. -/
theorem RecasedTable.map_eq {α : Type} {f g : String → α} (h : RecasedTable patterns patterns')
    (hfg : ∀ p q : String, Text.Recased p.toList q.toList → f p = g q) :
    patterns.map f = patterns'.map g := by
  rw [← List.forall₂_eq_eq_eq, List.forall₂_map_left_iff, List.forall₂_map_right_iff]
  exact h.imp hfg

/-- The check sees no change of case. -/
theorem RecasedTable.checked_eq (h : RecasedTable patterns patterns') :
    checked patterns = checked patterns' :=
  h.map_eq fun _ _ hrecased => Prod.ext hrecased.isEmpty_trim_eq hrecased.lowercase_eq

/-! ## Recased rules -/

namespace RuleSet

variable {phrases phrases' : List (String × String)} {cautions cautions' : List String}
  {rules rules' : RuleSet} {line line' : List Char}

/-- **Which rules fire**, by the patterns of the tables: a phrase if its lower-case form is part of
that of the line, and a caution word if it stands there as a whole word. -/
theorem fires_of_build (h : build phrases cautions = .ok rules) (line : List Char) :
    rules.rules.map (·.fires (.ofText line)) =
      (phrases.map (·.1)).map
          (fun p => Text.occursIn (Text.lowercase p.toList) (Text.lowercase line)) ++
        cautions.map fun w => Text.occursAsWord w.toList line := by
  rw [eq_of_build h, RuleSet.rules, List.map_append]
  simp only [List.map_map]
  rfl

/-- The rules that fire in a line tell of themselves in their order. -/
theorem forall₂_hits_of_build (h : build phrases cautions = .ok rules) (line : List Char) :
    List.Forall₂ (fun k hit => (declared phrases cautions)[k]? = some hit)
      (rules.rules.findIdxs (·.fires (.ofText line))) (rules.hits (.ofText line)) := by
  rw [← hits_of_build h, hits, List.forall₂_map_right_iff]
  refine (forall₂_findIdxs_filter _ _ 0).imp ?_
  rintro k rule ⟨-, hrule⟩
  rw [Nat.sub_zero] at hrule
  rw [List.getElem?_map, hrule, Option.map_some]

/-- **The same rules of recased tables fire in recased lines.** -/
theorem findIdxs_fires_eq_of_recased
    (hphrases : RecasedTable (phrases.map (·.1)) (phrases'.map (·.1)))
    (hcautions : RecasedTable cautions cautions') (hline : Text.Recased line line')
    (h : build phrases cautions = .ok rules) (h' : build phrases' cautions' = .ok rules') :
    rules.rules.findIdxs (·.fires (.ofText line)) =
      rules'.rules.findIdxs (·.fires (.ofText line')) := by
  have hfires : rules.rules.map (·.fires (.ofText line)) =
      rules'.rules.map (·.fires (.ofText line')) := by
    rw [fires_of_build h, fires_of_build h']
    congr 1
    · refine hphrases.map_eq fun p q hrecased => ?_
      rw [hrecased.lowercase_eq, hline.lowercase_eq]
    · exact hcautions.map_eq fun p q hrecased => hrecased.occursAsWord_eq hline
  have hidxs := congrArg (·.findIdxs id) hfires
  simpa only [List.findIdxs_map, Function.comp_def, id] using hidxs

/-- **Case never changes the outcome.**  Let the patterns of two tables differ in the case of ASCII
letters only, whatever they suggest, and two lines likewise.  Either both tables are refused, and
for faults at the same positions of the same kind of pattern; or both are accepted, and then the
hits in the lines are, one for one and in order, those of the rules at the same positions. -/
theorem outcome_of_recased
    (hphrases : RecasedTable (phrases.map (·.1)) (phrases'.map (·.1)))
    (hcautions : RecasedTable cautions cautions') (hline : Text.Recased line line') :
    (∃ fault fault', build phrases cautions = .error fault ∧
        build phrases' cautions' = .error fault' ∧
        (FailsAlike .phrase (phrases.map (·.1)) (phrases'.map (·.1)) fault fault' ∨
          FailsAlike .caution cautions cautions' fault fault')) ∨
      ∃ rules rules', build phrases cautions = .ok rules ∧ build phrases' cautions' = .ok rules' ∧
        ∃ positions : List Nat, positions.Pairwise (· < ·) ∧
          List.Forall₂ (fun k hit => (declared phrases cautions)[k]? = some hit) positions
            (rules.hits (.ofText line)) ∧
          List.Forall₂ (fun k hit => (declared phrases' cautions')[k]? = some hit) positions
            (rules'.hits (.ofText line')) := by
  cases hphrase : firstFault? .phrase (phrases.map (·.1)) with
  | some fault =>
      obtain ⟨fault', hphrase', halike⟩ := failsAlike_of_checked_eq hphrases.checked_eq hphrase
      refine .inl ⟨fault, fault', ?_, ?_, .inl halike⟩
      · rw [build, hphrase]
      · rw [build, hphrase']
  | none =>
      have hphrase' := firstFault?_eq_none_of_checked_eq hphrases.checked_eq hphrase
      cases hcaution : firstFault? .caution cautions with
      | some fault =>
          obtain ⟨fault', hcaution', halike⟩ :=
            failsAlike_of_checked_eq hcautions.checked_eq hcaution
          refine .inl ⟨fault, fault', ?_, ?_, .inr halike⟩
          · rw [build, hphrase, hcaution]
          · rw [build, hphrase', hcaution']
      | none =>
          have hcaution' := firstFault?_eq_none_of_checked_eq hcautions.checked_eq hcaution
          have hbuild : ∃ rules, build phrases cautions = .ok rules := by
            rw [build, hphrase, hcaution]
            exact ⟨_, rfl⟩
          have hbuild' : ∃ rules', build phrases' cautions' = .ok rules' := by
            rw [build, hphrase', hcaution']
            exact ⟨_, rfl⟩
          obtain ⟨rules, hrules⟩ := hbuild
          obtain ⟨rules', hrules'⟩ := hbuild'
          refine .inr ⟨rules, rules', hrules, hrules', _, List.pairwise_findIdxs,
            forall₂_hits_of_build hrules line, ?_⟩
          rw [findIdxs_fires_eq_of_recased hphrases hcautions hline hrules hrules']
          exact forall₂_hits_of_build hrules' line'

/-- A phrase with a letter beyond ASCII, and a caution word, each in two spellings. -/
theorem outcome_of_recased_two_rules :
    RecasedTable ["Straße"] ["sTRAßE"] ∧ RecasedTable ["Fix"] ["fIX"] ∧
      Text.Recased "fix the straße".toList "FIX The STRAßE".toList ∧
      ∃ rules rules', build [("Straße", "road")] ["Fix"] = .ok rules ∧
        build [("sTRAßE", "road")] ["fIX"] = .ok rules' ∧
        ∃ positions : List Nat, positions.Pairwise (· < ·) ∧
          List.Forall₂ (fun k hit => (declared [("Straße", "road")] ["Fix"])[k]? = some hit)
            positions (rules.hits (.ofText "fix the straße".toList)) ∧
          List.Forall₂ (fun k hit => (declared [("sTRAßE", "road")] ["fIX"])[k]? = some hit)
            positions (rules'.hits (.ofText "FIX The STRAßE".toList)) := by
  have hphrases : RecasedTable ["Straße"] ["sTRAßE"] := .cons (by decide +kernel) .nil
  have hcautions : RecasedTable ["Fix"] ["fIX"] := .cons (by decide +kernel) .nil
  have hline : Text.Recased "fix the straße".toList "FIX The STRAßE".toList := by decide +kernel
  refine ⟨hphrases, hcautions, hline, ?_⟩
  rcases @outcome_of_recased [("Straße", "road")] [("sTRAßE", "road")] _ _ _ _ hphrases hcautions
    hline with ⟨fault, fault', hbuild, -⟩ | haccepted
  · have hok : build [("Straße", "road")] ["Fix"] =
        .ok ⟨[{ pattern := "Straße", suggestion := "road" }], [{ pattern := "Fix" }]⟩ := rfl
    cases hok.symm.trans hbuild
  · exact haccepted

end RuleSet

end Wording
