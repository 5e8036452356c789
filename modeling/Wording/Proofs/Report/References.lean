import Mathlib.Data.List.Nodup
import Mathlib.Data.List.Forall2
import Wording.Proofs.Report.Agreement

/-!
# References inside the SARIF report

* `Sarif.RunInfo.IsClosed` — no rule is declared twice, no result refers to a rule that is not
  declared or has another level than its rule, and no rule is declared that no result refers to.
* `Sarif.isClosed_iff` — which kinds of rules have to be declared for this.
* **`Sarif.Report.references_closed`** — the references of every report are closed.

Rules and results are made from the findings apart from each other.  They meet in the kinds: the
ids of two kinds differ, so a result refers to the rule of its finding's kind and to no other.
-/

namespace Wording

/-- Two kinds have two ids. -/
theorem RuleKind.id_injective : Function.Injective RuleKind.id := by
  intro kind other h
  cases kind <;> cases other <;> first | rfl | exact absurd h (by decide)

namespace Sarif

variable {findings : List Finding} {kinds : List RuleKind}

/-- The references of a run are closed. -/
structure RunInfo.IsClosed (run : RunInfo) : Prop where
  /-- The ids of the rules are different. -/
  nodup : (run.driver.rules.map (·.id)).Nodup
  /-- Each result has a rule, and the level that is its rule's. -/
  declared : ∀ r ∈ run.results, ∃ rule ∈ run.driver.rules,
    rule.id = r.ruleId ∧ rule.level = r.level
  /-- Each rule has a result. -/
  used : ∀ rule ∈ run.driver.rules, ∃ r ∈ run.results, r.ruleId = rule.id

/-- The rules of kinds have different ids if no kind stands twice. -/
theorem nodup_ids_iff : ((kinds.map ruleInfo).map (·.id)).Nodup ↔ kinds.Nodup := by
  have hids : (kinds.map ruleInfo).map (·.id) = kinds.map RuleKind.id := by
    rw [List.map_map]
    rfl
  rw [hids, List.nodup_map_iff RuleKind.id_injective]

/-- **References are closed exactly if the kinds of the findings are declared**, each once, and no others
are. -/
theorem isClosed_iff (root : String) {run : RunInfo} (hrules : run.driver.rules = kinds.map ruleInfo)
    (hresults : run.results = findings.map (result root)) :
    run.IsClosed ↔ kinds.Nodup ∧ ∀ kind, kind ∈ kinds ↔ ∃ f ∈ findings, f.kind = kind := by
  constructor
  · intro h
    refine ⟨?_, fun kind => ⟨fun hkind => ?_, ?_⟩⟩
    · have hnodup := h.nodup
      rwa [hrules, nodup_ids_iff] at hnodup
    · have hrule : ruleInfo kind ∈ run.driver.rules := by
        rw [hrules]
        exact List.mem_map_of_mem hkind
      obtain ⟨r, hr, hid⟩ := h.used _ hrule
      rw [hresults] at hr
      obtain ⟨f, hf, rfl⟩ := List.mem_map.mp hr
      exact ⟨f, hf, RuleKind.id_injective hid⟩
    · rintro ⟨f, hf, rfl⟩
      have hr : result root f ∈ run.results := by
        rw [hresults]
        exact List.mem_map_of_mem hf
      obtain ⟨rule, hrule, hid, -⟩ := h.declared _ hr
      rw [hrules] at hrule
      obtain ⟨kind, hkind, rfl⟩ := List.mem_map.mp hrule
      obtain rfl : kind = f.kind := RuleKind.id_injective hid
      exact hkind
  · rintro ⟨hnodup, hmem⟩
    refine ⟨?_, ?_, ?_⟩
    · rwa [hrules, nodup_ids_iff]
    · rw [hrules, hresults]
      rintro r hr
      obtain ⟨f, hf, rfl⟩ := List.mem_map.mp hr
      have hkind : f.kind ∈ kinds := (hmem f.kind).mpr ⟨f, hf, rfl⟩
      exact ⟨ruleInfo f.kind, List.mem_map_of_mem hkind, rfl, rfl⟩
    · rw [hrules, hresults]
      rintro rule hrule
      obtain ⟨kind, hkind, rfl⟩ := List.mem_map.mp hrule
      obtain ⟨f, hf, rfl⟩ := (hmem kind).mp hkind
      exact ⟨result root f, List.mem_map_of_mem hf, rfl⟩

/-- **The references of a report are closed.**  It has one run, whose results are for the findings,
one for each and in their order.  The rules are declared in one order, whatever the order of the
findings is. -/
theorem Report.references_closed (root : String) (findings : List Finding) :
    ∃ run, (Report.ofFindings root findings).runs = [run] ∧ run.IsClosed ∧
      run.driver.rules.Sublist [ruleInfo .phrase, ruleInfo .caution] ∧
      List.Forall₂ (fun r f => r.IsFor f ∧ r.message = f.message) run.results findings := by
  let kinds : List RuleKind := [.phrase, .caution].filter fun kind => findings.any (·.kind = kind)
  have hsublist : kinds.Sublist [.phrase, .caution] := List.filter_sublist
  have hmem : ∀ kind, kind ∈ kinds ↔ ∃ f ∈ findings, f.kind = kind := by
    intro kind
    cases kind <;> simp [kinds]
  refine ⟨_, rfl, (isClosed_iff root rfl rfl).mpr ⟨hsublist.nodup (by decide), hmem⟩,
    hsublist.map ruleInfo, ?_⟩
  rw [List.forall₂_map_left_iff, List.forall₂_same]
  intro f _
  exact ⟨⟨rfl, rfl⟩, rfl⟩

/-- A caution word before a phrase: the rules are in the other order. -/
example :
    let report := Report.ofFindings "src"
      [⟨"src/a.js", 1, .caution, "fix", none, "fix it"⟩,
        ⟨"src/a.js", 2, .phrase, "must", some "can", "You must"⟩]
    report.runs.map (fun run => (run.driver.rules.map (·.id), run.results.map (·.ruleId))) =
      [(["blocked_phrase", "caution_word"], ["caution_word", "blocked_phrase"])] := by
  decide +kernel

end Sarif

end Wording
