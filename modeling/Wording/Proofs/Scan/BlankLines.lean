import Mathlib.Order.Monotone.Basic
import Wording.Proofs.Scan.LineEndings
import Wording.Proofs.Scan.LiveRules
import Wording.Proofs.Text.Excerpt

/-!
# Blank lines are silent

* `Text.BlankLinesAdded text text'` — the second text is the first with whole blank lines put in,
  before, between or behind its lines.
* `findingsFrom_of_blankLines` — such lines only move the findings in the lines behind them further
  down.
* **`RuleSet.blank_lines_are_silent`** — the rules of an accepted table do not fire in blank lines,
  so no finding has an empty excerpt, and blank lines that are put in change only the numbers of
  lines.

Where the lines of the first text stand in the second is a strictly increasing numbering.  It is
built up from the end of the texts, and each line in front moves it one further down.
-/

namespace Wording

/-! ## Blank lines put in -/

/-- The second list has the lines of the first in their order, and blank lines before, between and
behind them. -/
inductive WithBlankLines : List (List Char) → List (List Char) → Prop where
  | nil : WithBlankLines [] []
  | keep (line : List Char) {lines lines' : List (List Char)} (h : WithBlankLines lines lines') :
      WithBlankLines (line :: lines) (line :: lines')
  | blank {line : List Char} (hline : ∀ c ∈ line, Text.isBlank c = true)
      {lines lines' : List (List Char)} (h : WithBlankLines lines lines') :
      WithBlankLines lines (line :: lines')

/-- The second text is the first with whole blank lines put in. -/
def Text.BlankLinesAdded (text text' : List Char) : Prop :=
  WithBlankLines (pieces '\n' text) (pieces '\n' text')

/-- Without their carriage returns blank lines stay blank, and the others what they are. -/
theorem WithBlankLines.map_dropCarriageReturn {lines lines' : List (List Char)}
    (h : WithBlankLines lines lines') :
    WithBlankLines (lines.map Text.dropCarriageReturn) (lines'.map Text.dropCarriageReturn) := by
  induction h with
  | nil => exact .nil
  | keep line _ ih => exact .keep _ ih
  | blank hline _ ih =>
      exact .blank (fun c hc => hline c (Text.mem_of_mem_dropCarriageReturn hc)) ih

/-! ## Findings further down -/

/-- The finding in another line. -/
def Finding.atLine (f : Finding) (line : Nat) : Finding :=
  { f with line := line }

/-- The numbering of lines that has one more line in front of both texts. -/
def behindFirst (place : Nat → Nat) : Nat → Nat
  | 0 => 0
  | n + 1 => place n + 1

/-- A numbering increases strictly also with a line in front. -/
theorem strictMono_behindFirst {place : Nat → Nat} (h : StrictMono place) :
    StrictMono (behindFirst place) := by
  intro m n hlt
  cases n with
  | zero => omega
  | succ n =>
      cases m with
      | zero => exact Nat.succ_pos _
      | succ m => exact Nat.succ_lt_succ (h (Nat.lt_of_succ_lt_succ hlt))

/-- No finding stands in a line before the first. -/
theorem le_line_of_mem_findingsFrom {rules : RuleSet} {path : String} {limit number : Nat}
    {lines : List (List Char)} {f : Finding}
    (h : f ∈ findingsFrom rules path limit number lines) : number ≤ f.line := by
  induction lines generalizing number with
  | nil => cases h
  | cons line rest ih =>
      rw [findingsFrom, List.mem_append] at h
      rcases h with hline | hrest
      · obtain ⟨hit, -, rfl⟩ := List.mem_map.mp hline
        exact le_rfl
      · exact Nat.le_of_succ_le (ih hrest)

/-- The findings in one line stand in it. -/
theorem map_atLine_findingsInLine (rules : RuleSet) (path : String) (limit number : Nat)
    (line : List Char) {place : Finding → Nat}
    (hplace : ∀ f : Finding, f.line = number → place f = number) :
    (findingsInLine rules path limit number line).map (fun f => f.atLine (place f)) =
      findingsInLine rules path limit number line := by
  rw [findingsInLine, List.map_map]
  refine List.map_congr_left fun hit _ => ?_
  rw [Function.comp_apply, hplace _ rfl]
  rfl

/-- **Silent lines only move the findings behind them further down.**  The lines of the first list
stand in the second in places that increase strictly, and the findings go with their lines. -/
theorem findingsFrom_of_blankLines {rules : RuleSet}
    (hsilent : ∀ line : List Char, (∀ c ∈ line, Text.isBlank c = true) →
      rules.hits (.ofText line) = [])
    {lines lines' : List (List Char)} (h : WithBlankLines lines lines') :
    ∃ place : Nat → Nat, StrictMono place ∧
      (∀ i line, lines[i]? = some line → lines'[place i]? = some line) ∧
      ∀ path limit number, findingsFrom rules path limit number lines' =
        (findingsFrom rules path limit number lines).map fun f =>
          f.atLine (number + place (f.line - number)) := by
  induction h with
  | nil => exact ⟨id, strictMono_id, fun i line hline => hline, fun path limit number => rfl⟩
  | @keep line lines lines' _ ih =>
      obtain ⟨place, hmono, hlines, hfindings⟩ := ih
      refine ⟨behindFirst place, strictMono_behindFirst hmono, ?_, fun path limit number => ?_⟩
      · intro i found hfound
        cases i with
        | zero => exact hfound
        | succ i => exact hlines i found hfound
      · rw [findingsFrom, findingsFrom, List.map_append, hfindings, map_atLine_findingsInLine]
        · congr 1
          refine List.map_congr_left fun f hf => ?_
          have hle := le_line_of_mem_findingsFrom hf
          obtain ⟨n, hn⟩ : ∃ n, f.line = number + 1 + n := ⟨f.line - (number + 1), by omega⟩
          have hhere : f.line - number = n + 1 := by omega
          have hbehind : f.line - (number + 1) = n := by omega
          rw [hhere, hbehind, behindFirst, Nat.add_right_comm, Nat.add_assoc number]
        · intro f hf
          simp [hf, behindFirst]
  | @blank line hline lines lines' _ ih =>
      obtain ⟨place, hmono, hlines, hfindings⟩ := ih
      refine ⟨fun i => place i + 1, fun m n hlt => Nat.succ_lt_succ (hmono hlt), hlines, ?_⟩
      intro path limit number
      rw [findingsFrom, findingsInLine, hsilent line hline, List.map_nil, List.nil_append,
        hfindings, findingsFrom_add, List.map_map]
      refine List.map_congr_left fun f _ => ?_
      show (f.down 1).atLine (number + 1 + place (f.line + 1 - (number + 1))) =
        f.atLine (number + (place (f.line - number) + 1))
      rw [Nat.add_sub_add_right, Nat.add_right_comm, Nat.add_assoc number]
      rfl

/-! ## Accepted tables -/

/-- The line stands in the text and has the number, counted from 1. -/
def Text.LineAt (text : List Char) (n : Nat) (line : List Char) : Prop :=
  1 ≤ n ∧ (lines text)[n - 1]? = some line

/-- **Blank lines are silent.**  No rule of an accepted table fires in a blank line.  So a finding
has no empty excerpt, if excerpts may have a character at all.  And whole blank lines that are put
into a text, before, between or behind its lines, change nothing in the findings but the numbers of
lines: each finding is then in the line that its line has become. -/
theorem RuleSet.blank_lines_are_silent {phrases : List (String × String)} {cautions : List String}
    {rules : RuleSet} (hbuild : RuleSet.build phrases cautions = .ok rules) (path : String) :
    (∀ line : List Char, (∀ c ∈ line, Text.isBlank c = true) → rules.hits (.ofText line) = []) ∧
      (∀ content limit, 1 ≤ limit →
        ∀ f ∈ SourceFile.findings ⟨path, content⟩ rules limit, f.excerpt ≠ "") ∧
      ∀ content content' : String, Text.BlankLinesAdded content.toList content'.toList →
        ∃ place : Nat → Nat, StrictMono place ∧
          (∀ n line, Text.LineAt content.toList n line →
            Text.LineAt content'.toList (place n) line) ∧
          ∀ limit, SourceFile.findings ⟨path, content'⟩ rules limit =
            (SourceFile.findings ⟨path, content⟩ rules limit).map fun f =>
              f.atLine (place f.line) := by
  have hsilent : ∀ line : List Char, (∀ c ∈ line, Text.isBlank c = true) →
      rules.hits (.ofText line) = [] := fun line hline => hits_eq_nil_of_blank hbuild hline
  refine ⟨hsilent, ?_, ?_⟩
  · intro content limit hlimit f hf hempty
    obtain ⟨line, -, rule, hrule, hfires, -, hexcerpt⟩ := exists_of_mem_findingsFrom hf
    rw [hexcerpt, ← String.toList_inj, String.toList_ofList] at hempty
    refine Text.excerpt_ne_nil hlimit (fun hline => ?_) hempty
    rw [not_fires_of_blank hbuild hrule hline] at hfires
    cases hfires
  · intro content content' hadded
    obtain ⟨place, hmono, hlines, hfindings⟩ :=
      findingsFrom_of_blankLines hsilent hadded.map_dropCarriageReturn
    refine ⟨behindFirst place, strictMono_behindFirst hmono, ?_, fun limit => ?_⟩
    · rintro n line ⟨hpos, hline⟩
      obtain ⟨i, rfl⟩ : ∃ i, n = i + 1 := ⟨n - 1, by omega⟩
      exact ⟨Nat.succ_pos _, hlines i line hline⟩
    · unfold SourceFile.findings Text.lines
      rw [hfindings]
      refine List.map_congr_left fun f hf => ?_
      obtain ⟨i, hi⟩ : ∃ i, f.line = i + 1 :=
        ⟨f.line - 1, (Nat.sub_add_cancel (le_line_of_mem_findingsFrom hf)).symm⟩
      rw [hi, Nat.add_sub_cancel, behindFirst, Nat.add_comm]

/-- A blank line before the first line, two between the lines and one behind the last. -/
theorem RuleSet.blank_lines_are_silent_fix :
    ∃ rules, RuleSet.build [] ["Fix"] = .ok rules ∧
      Text.BlankLinesAdded "Fix\nfix".toList "\t\nFix\n\r\n\u00A0\nfix\n".toList ∧
      ∃ place : Nat → Nat, StrictMono place ∧
        SourceFile.findings ⟨"a.js", "\t\nFix\n\r\n\u00A0\nfix\n"⟩ rules 100 =
          (SourceFile.findings ⟨"a.js", "Fix\nfix"⟩ rules 100).map fun f =>
            f.atLine (place f.line) := by
  have hbuild : RuleSet.build [] ["Fix"] = .ok ⟨[], [{ pattern := "Fix" }]⟩ := rfl
  have hadded :
      Text.BlankLinesAdded "Fix\nfix".toList "\t\nFix\n\r\n\u00A0\nfix\n".toList := by
    show WithBlankLines ["Fix".toList, "fix".toList]
      [['\t'], "Fix".toList, ['\r'], ['\u00A0'], "fix".toList, []]
    have hblank : ∀ {c : Char}, Text.isBlank c = true →
        ∀ d ∈ [c], Text.isBlank d = true := by simp
    exact .blank (hblank (by decide +kernel)) (.keep _ (.blank (hblank (by decide +kernel))
      (.blank (hblank (by decide +kernel)) (.keep _ (.blank (by simp) .nil)))))
  obtain ⟨-, -, hsame⟩ := RuleSet.blank_lines_are_silent hbuild "a.js"
  obtain ⟨place, hmono, -, hfindings⟩ := hsame _ _ hadded
  exact ⟨_, hbuild, hadded, place, hmono, hfindings 100⟩

end Wording
