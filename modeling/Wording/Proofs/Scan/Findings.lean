import Mathlib.Data.List.Forall2
import Mathlib.Data.Prod.Lex
import Wording.Proofs.Text.Pieces
import Wording.Scan.Finding

/-!
# The findings of a file are the matches of its lines

* `RuleSet.declared phrases cautions` — what the rules of two tables have to say, in the order of
  evaluation; `RuleSet.hits_of_build` says that a rule set that was built has exactly these rules.
* `MatchesAt rules lines n k` — rule `k` (from 0) fires in line `n` (from 1).
* `matchesFrom` — the pairs of line and rule that match, line by line; sorted
  (`pairwise_matchesFrom`) and complete (`mem_matchesFrom_iff`).
* **`SourceFile.findings_eq_matches`** — the findings of a file stand for these pairs one for one and
  in their order, and each carries the data of its line and its rule.

Findings are made line by line, so each fact is proved for the findings of one line and carried
through the lines by an induction in which the number of the first line is free.
-/

namespace Wording

/-! ## Lines -/

/-- There is one more line than there are line feeds. -/
theorem Text.length_lines (text : List Char) : (lines text).length = text.count '\n' + 1 := by
  rw [lines, List.length_map, length_pieces]

/-! ## The declared rules -/

/-- What the rules of two tables have to say, in the order of evaluation: the phrases as declared,
then the caution words as declared. -/
def RuleSet.declared (phrases : List (String × String)) (cautions : List String) : List Hit :=
  phrases.map (fun p => ⟨.phrase, p.1, some p.2⟩) ++ cautions.map (fun w => ⟨.caution, w, none⟩)

/-- A rule set that is built from two tables has the rules that they declare. -/
theorem RuleSet.hits_of_build {phrases : List (String × String)} {cautions : List String}
    {rules : RuleSet} (h : RuleSet.build phrases cautions = .ok rules) :
    rules.rules.map Rule.hit = RuleSet.declared phrases cautions := by
  unfold RuleSet.build at h
  split at h
  · cases h
  · cases h
  · cases h
    rw [RuleSet.rules, RuleSet.declared, List.map_append, List.map_map, List.map_map, List.map_map,
      List.map_map]
    rfl

/-! ## Matches -/

/-- Rule `k`, counted from 0, fires in line `n`, counted from 1. -/
def MatchesAt (rules : List Rule) (lines : List (List Char)) (n k : Nat) : Prop :=
  1 ≤ n ∧ ∃ line rule, lines[n - 1]? = some line ∧ rules[k]? = some rule ∧
    rule.fires (.ofText line) = true

/-- The pairs of a line and a rule that fires in it, where the first line has the number `n`. -/
def matchesFrom (rules : List Rule) (n : Nat) : List (List Char) → List (Nat × Nat)
  | [] => []
  | line :: rest =>
    (rules.findIdxs fun rule => rule.fires (.ofText line)).map (n, ·) ++
      matchesFrom rules (n + 1) rest

/-- The numbers of the rules that fire in a line. -/
theorem mem_findIdxs_fires_iff {rules : List Rule} {line : Line} {k : Nat} :
    (k ∈ rules.findIdxs fun rule => rule.fires line) ↔
      ∃ rule, rules[k]? = some rule ∧ rule.fires line = true := by
  rw [List.mem_findIdxs_iff_exists_getElem_pos]
  constructor
  · rintro ⟨hk, hfires⟩
    exact ⟨rules[k], List.getElem?_eq_getElem hk, hfires⟩
  · rintro ⟨rule, hrule, hfires⟩
    obtain ⟨hk, rfl⟩ := List.getElem?_eq_some_iff.mp hrule
    exact ⟨hk, hfires⟩

/-- A pair stands for a line from the first one on, and for a rule that fires in it. -/
theorem mem_matchesFrom_iff {rules : List Rule} {first n k : Nat} {lines : List (List Char)} :
    (n, k) ∈ matchesFrom rules first lines ↔
      first ≤ n ∧ ∃ line rule, lines[n - first]? = some line ∧ rules[k]? = some rule ∧
        rule.fires (.ofText line) = true := by
  induction lines generalizing first with
  | nil => simp [matchesFrom]
  | cons line rest ih =>
      have hhead : (n, k) ∈ (rules.findIdxs fun rule => rule.fires (.ofText line)).map (first, ·) ↔
          first = n ∧ ∃ rule, rules[k]? = some rule ∧ rule.fires (.ofText line) = true := by
        rw [List.mem_map, ← mem_findIdxs_fires_iff]
        simp [and_comm]
      rw [matchesFrom, List.mem_append, ih, hhead]
      rcases Nat.lt_trichotomy first n with hlt | rfl | hgt
      · obtain ⟨m, rfl⟩ : ∃ m, n = first + 1 + m := ⟨n - (first + 1), by omega⟩
        have hrest : first + 1 + m - first = m + 1 := by omega
        have hne : first ≠ first + 1 + m := by omega
        rw [hrest, List.getElem?_cons_succ, Nat.add_sub_cancel_left]
        simp [hne, hlt.le]
      · simp
      · have hne : first ≠ n := by omega
        have hnot : ¬first ≤ n := by omega
        have hnot' : ¬first + 1 ≤ n := by omega
        simp [hne, hnot, hnot']

/-- The pairs increase, by lines and then by rules. -/
theorem pairwise_matchesFrom (rules : List Rule) (first : Nat) (lines : List (List Char)) :
    (matchesFrom rules first lines).Pairwise (Prod.Lex (· < ·) (· < ·)) := by
  induction lines generalizing first with
  | nil => exact List.Pairwise.nil
  | cons line rest ih =>
      rw [matchesFrom, List.pairwise_append, List.pairwise_map]
      refine ⟨?_, ih (first + 1), ?_⟩
      · exact List.pairwise_findIdxs.imp fun h => Prod.Lex.right first h
      · intro a ha ⟨m, j⟩ hb
        obtain ⟨k, _, rfl⟩ := List.mem_map.mp ha
        exact Prod.Lex.left k j (mem_matchesFrom_iff.mp hb).1

/-! ## The findings behind the matches -/

/-- The finding tells of rule `k` in line `n` of the file at the path. -/
structure Finding.TellsOf (f : Finding) (path : String) (limit : Nat) (declared : List Hit)
    (lines : List (List Char)) (n k : Nat) : Prop where
  file : f.file = path
  line : f.line = n
  line_pos : 1 ≤ n
  line_le : n ≤ lines.length
  rule : declared[k]? = some ⟨f.kind, f.pattern, f.suggestion⟩
  excerpt : ∃ line, lines[n - 1]? = some line ∧
    f.excerpt = String.ofList (Text.excerpt limit line)

/-- The elements that a predicate takes stand at the indices it takes, one for one and in order. -/
theorem forall₂_findIdxs_filter {α : Type} (p : α → Bool) (xs : List α) (start : Nat) :
    List.Forall₂ (fun k x => start ≤ k ∧ xs[k - start]? = some x)
      (xs.findIdxs p start) (xs.filter p) := by
  induction xs generalizing start with
  | nil => exact .nil
  | cons x xs ih =>
      have hrest : List.Forall₂ (fun k y => start ≤ k ∧ (x :: xs)[k - start]? = some y)
          (xs.findIdxs p (start + 1)) (xs.filter p) := by
        refine (ih (start + 1)).imp ?_
        rintro k y ⟨hk, hy⟩
        obtain ⟨j, rfl⟩ : ∃ j, k = start + 1 + j := ⟨k - (start + 1), by omega⟩
        have hj : start + 1 + j - start = j + 1 := by omega
        rw [Nat.add_sub_cancel_left] at hy
        exact ⟨by omega, by rw [hj, List.getElem?_cons_succ, hy]⟩
      rw [List.findIdxs_cons, List.filter_cons]
      split
      · exact .cons ⟨le_rfl, by simp⟩ hrest
      · exact hrest

/-- The findings of one line tell of the rules that fire in it, one for one and in order. -/
theorem forall₂_findingsInLine (rules : RuleSet) (path : String) (limit : Nat)
    {lines : List (List Char)} {line : List Char} {n : Nat} (hn : 1 ≤ n)
    (hline : lines[n - 1]? = some line) :
    List.Forall₂ (fun mark f =>
        f.TellsOf path limit (rules.rules.map Rule.hit) lines mark.1 mark.2)
      ((rules.rules.findIdxs fun rule => rule.fires (.ofText line)).map (n, ·))
      (findingsInLine rules path limit n line) := by
  rw [findingsInLine, RuleSet.hits, List.map_map, List.forall₂_map_left_iff,
    List.forall₂_map_right_iff]
  refine (forall₂_findIdxs_filter _ _ 0).imp ?_
  rintro k rule ⟨-, hrule⟩
  have hle : n ≤ lines.length := by
    have := (List.getElem?_eq_some_iff.mp hline).1
    omega
  exact {
    file := rfl
    line := rfl
    line_pos := hn
    line_le := hle
    rule := by
      rw [List.getElem?_map, ← Nat.sub_zero k, hrule]
      rfl
    excerpt := ⟨line, hline, rfl⟩ }

/-- The findings of the last lines of a file tell of the matches in them.  The lines before them
are named by what they leave: line `n` of the file is the first of these. -/
theorem forall₂_findingsFrom (rules : RuleSet) (path : String) (limit : Nat)
    {lines rest : List (List Char)} {n : Nat} (hn : 1 ≤ n) (hrest : lines.drop (n - 1) = rest) :
    List.Forall₂ (fun mark f =>
        f.TellsOf path limit (rules.rules.map Rule.hit) lines mark.1 mark.2)
      (matchesFrom rules.rules n rest) (findingsFrom rules path limit n rest) := by
  induction rest generalizing n with
  | nil => exact .nil
  | cons line rest ih =>
      have hline : lines[n - 1]? = some line := by
        rw [← List.head?_drop, hrest, List.head?_cons]
      have hnext : lines.drop (n + 1 - 1) = rest := by
        obtain ⟨m, rfl⟩ : ∃ m, n = m + 1 := ⟨n - 1, by omega⟩
        rw [Nat.add_sub_cancel] at hrest ⊢
        rw [← List.tail_drop, hrest, List.tail_cons]
      rw [matchesFrom, findingsFrom]
      exact List.rel_append (forall₂_findingsInLine rules path limit hn hline)
        (ih (Nat.le_succ_of_le hn) hnext)

/-- **The findings of a file are the matches of its lines.**  There is one more line than there are
line feeds, and the rules are those declared.  The findings stand, one for one and in order, for
pairs of a line and a rule that strictly increase, by lines and then by rules; the pairs are all
those where the rule fires in the line; and each finding carries the data of its line and its
rule. -/
theorem SourceFile.findings_eq_matches {phrases : List (String × String)} {cautions : List String}
    {rules : RuleSet} (hbuild : RuleSet.build phrases cautions = .ok rules) (file : SourceFile)
    (limit : Nat) :
    let lines := Text.lines file.content.toList
    let declared := RuleSet.declared phrases cautions
    lines.length = file.content.toList.count '\n' + 1 ∧
      rules.rules.map Rule.hit = declared ∧
      ∃ marks : List (Nat × Nat),
        marks.Pairwise (Prod.Lex (· < ·) (· < ·)) ∧
        (∀ n k, (n, k) ∈ marks ↔ MatchesAt rules.rules lines n k) ∧
        List.Forall₂ (fun mark f => f.TellsOf file.path limit declared lines mark.1 mark.2)
          marks (file.findings rules limit) := by
  intro lines declared
  have hrules : rules.rules.map Rule.hit = declared := RuleSet.hits_of_build hbuild
  refine ⟨Text.length_lines _, hrules, matchesFrom rules.rules 1 lines, pairwise_matchesFrom _ _ _,
    fun n k => mem_matchesFrom_iff, ?_⟩
  rw [← hrules]
  exact forall₂_findingsFrom rules file.path limit le_rfl List.drop_zero

/-- Two phrases and a caution word, one of them twice in a line, in lines of both endings. -/
theorem SourceFile.findings_eq_matches_three_rules :
    let phrases := [("Calm down", "Take a short pause"), ("Must", "You can choose")]
    let content := "  Fix it, you must calm down  \r\nok\nfix fix"
    ∃ rules, RuleSet.build phrases ["Fix"] = .ok rules ∧
      ∃ marks : List (Nat × Nat),
        (3, 2) ∈ marks ∧ List.Forall₂
          (fun mark f => f.TellsOf "a.js" 100 (RuleSet.declared phrases ["Fix"])
            (Text.lines content.toList) mark.1 mark.2)
          marks (SourceFile.findings ⟨"a.js", content⟩ rules 100) := by
  intro phrases content
  let rules : RuleSet := ⟨phrases.map fun p => { pattern := p.1, suggestion := p.2 },
    [{ pattern := "Fix" }]⟩
  have hbuild : RuleSet.build phrases ["Fix"] = .ok rules := rfl
  obtain ⟨-, -, marks, -, hmem, htells⟩ :=
    SourceFile.findings_eq_matches hbuild ⟨"a.js", content⟩ 100
  refine ⟨rules, hbuild, marks, (hmem 3 2).mpr ⟨by decide, "fix fix".toList, ?_⟩, htells⟩
  exact ⟨.caution { pattern := "Fix" }, by decide +kernel, rfl, by decide +kernel⟩

end Wording
