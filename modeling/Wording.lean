import Wording.CommandLine.Arguments
import Wording.CommandLine.Help
import Wording.CommandLine.Init
import Wording.CommandLine.Options
import Wording.CommandLine.Outcome
import Wording.CommandLine.Run
import Wording.CommandLine.Scan
import Wording.CommandLine.Word
import Wording.Main
import Wording.Proofs.CommandLine.FailedInit
import Wording.Proofs.CommandLine.Init
import Wording.Proofs.CommandLine.ScanAfterInit
import Wording.Proofs.CommandLine.ScanStatus
import Wording.Proofs.CommandLine.SuccessfulInit
import Wording.Proofs.FileTree.Children
import Wording.Proofs.FileTree.Growth
import Wording.Proofs.FileTree.Names
import Wording.Proofs.FileTree.NewDirectories
import Wording.Proofs.FileTree.NewFile
import Wording.Proofs.FileTree.Parents
import Wording.Proofs.FileTree.Resolution
import Wording.Proofs.FileTree.Spelling
import Wording.Proofs.FileTree.WellFormed
import Wording.Proofs.FileTree.Written
import Wording.Proofs.Glob.Literal
import Wording.Proofs.Glob.Shape
import Wording.Proofs.Json.RoundTrip
import Wording.Proofs.Report.Agreement
import Wording.Proofs.Report.Colour
import Wording.Proofs.Report.Cutting
import Wording.Proofs.Report.Locations
import Wording.Proofs.Report.Reading
import Wording.Proofs.Report.References
import Wording.Proofs.Report.Spelling
import Wording.Proofs.Report.TextLines
import Wording.Proofs.Rules.AsciiCase
import Wording.Proofs.Rules.Duplicates
import Wording.Proofs.Rules.Faults
import Wording.Proofs.Rules.Layout
import Wording.Proofs.Rules.Loading
import Wording.Proofs.Rules.RoundTrip
import Wording.Proofs.Rules.Separation
import Wording.Proofs.Rules.Tables
import Wording.Proofs.Rules.WhiteSpace
import Wording.Proofs.Scan.Accounting
import Wording.Proofs.Scan.Below
import Wording.Proofs.Scan.BlankLines
import Wording.Proofs.Scan.Exclusion
import Wording.Proofs.Scan.Exploration
import Wording.Proofs.Scan.Findings
import Wording.Proofs.Scan.LineEndings
import Wording.Proofs.Scan.LiveRules
import Wording.Proofs.Scan.NewFile
import Wording.Proofs.Scan.Preorder
import Wording.Proofs.Scan.Spelling
import Wording.Proofs.Scan.Stream
import Wording.Proofs.Scan.Yield
import Wording.Proofs.Text.AsciiCase
import Wording.Proofs.Text.ByteEnds
import Wording.Proofs.Text.ByteOrder
import Wording.Proofs.Text.CaseFolding
import Wording.Proofs.Text.CaseRuns
import Wording.Proofs.Text.Excerpt
import Wording.Proofs.Text.Lowercase
import Wording.Proofs.Text.Pieces
import Wording.Proofs.Text.Trimming
import Wording.Proofs.Text.Verbatim
import Wording.Proofs.Text.WhiteSpace
import Wording.Proofs.Text.WholeWord
import Wording.Proofs.Yaml.Blocks
import Wording.Proofs.Yaml.Lines
import Wording.Proofs.Yaml.Quoted
import Wording.Proofs.Yaml.Tree
