import Wording.CommandLine.Options
import Wording.CommandLine.Outcome
import Wording.Report.Sarif
import Wording.Report.Text

/-!
# The scan command

Loads the rules, reads the exclude patterns and opens the root, in this order; the first of these
that fails ends the command before any output.  Files that cannot be read are reported and do not
count for the exit code.  Each form of the report counts the findings in its own way: the text as
the events pass, the others by the findings that they list.
-/

namespace Wording

namespace ScanOptions

/-- A suffix with the dot in front that may have been left out. -/
def dotted (suffix : String) : String :=
  if suffix.toList.head? == some '.' then suffix else "." ++ suffix

/-- The suffixes of the names of files to scan. -/
def fileSuffixes (o : ScanOptions) : List String :=
  if o.suffixes.isEmpty then defaultSuffixes else o.suffixes.map dotted

end ScanOptions

/-- A scan that can begin. -/
structure PreparedScan where
  loaded : LoadedRules
  walk : Walk

/-- A scan that has come to its end. -/
structure CompletedScan where
  events : List Event
  stats : Stats
  records : List LogRecord

namespace PreparedScan

/-- Prepares the scan, or says why it cannot begin, with the records made so far. -/
def ofOptions (t : FileTree) (cwd : Place) (o : ScanOptions) :
    Except (List LogRecord × CommandFault) PreparedScan :=
  match LoadedRules.load t cwd o.rules "." with
  | .error fault => .error ([], .rules fault)
  | .ok loaded =>
    match FileFilter.ofTexts o.fileSuffixes o.exclude with
    | .error fault => .error ([loaded.record], .filter fault)
    | .ok filter =>
      match Walk.start t cwd o.root filter with
      | .error fault => .error ([loaded.record], .root fault)
      | .ok walk => .ok ⟨loaded, walk⟩

/-- The record of an item that the scan takes up. -/
def itemRecord : Item → LogRecord
  | .file file => .scanning file.path
  | .failure failure => .skipping failure

/-- Scans the tree to the end. -/
def run (p : PreparedScan) (t : FileTree) (cwd : Place) : CompletedScan :=
  let (items, after, _) := p.walk.rest t cwd
  let scanner : Scanner := { rules := p.loaded.rules, source := .ofItems (items.map (·.2)) }
  let (events, scanner) := scanner.drain
  { events := events
    stats := scanner.stats
    records :=
      p.loaded.record :: items.flatMap (fun (records, item) => records ++ [itemRecord item]) ++
        after ++ [.scanComplete scanner.stats] }

end PreparedScan

namespace CompletedScan

/-- The findings of the scan. -/
def findings (s : CompletedScan) : List Finding :=
  s.events.filterMap Event.finding?

/-- The report on the scan of the root. -/
def report (s : CompletedScan) (coloured : Bool) (root : String) : ReportFormat → String
  | .text => TextReport.report coloured root s.events
  | .json => (JsonReport.ofEvents root s.stats s.events).render
  | .sarif => (Sarif.Report.ofFindings root s.findings).render

/-- How many findings the report on the scan of the root counts. -/
def counted (s : CompletedScan) (root : String) : ReportFormat → Nat
  | .text => TextReport.count 0 s.events
  | .json => (JsonReport.ofEvents root s.stats s.events).findings.length
  | .sarif => s.findings.length

/-- How the command ends if so many findings are counted. -/
def status (failOnFindings : Bool) (counted : Nat) : ExitStatus :=
  if failOnFindings && 0 < counted then .findings else .success

end CompletedScan

/-- Runs the scan command.  The output goes to a terminal if `terminal` says so. -/
def ScanOptions.run (o : ScanOptions) (terminal : Bool) (t : FileTree) (cwd : Place) : Outcome :=
  match PreparedScan.ofOptions t cwd o with
  | .error (records, fault) => .failed records fault
  | .ok prepared =>
    let s := prepared.run t cwd
    { status := CompletedScan.status o.failOnFindings (s.counted o.root o.format)
      output := s.report (terminal && !o.plain) o.root o.format
      records := s.records }

end Wording
