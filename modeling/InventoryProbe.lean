import InventoryProbe.Diagnostic
import InventoryProbe.Main
import InventoryProbe.Inventory.Format
import InventoryProbe.Proofs.Severity
import InventoryProbe.Proofs.Tally.History
import InventoryProbe.Proofs.Tally.Closing
import InventoryProbe.Proofs.Inventory.Identity
import InventoryProbe.Proofs.Table
import InventoryProbe.Proofs.Failure
import InventoryProbe.Proofs.Thresholds
import InventoryProbe.Proofs.VersionPolicy
import InventoryProbe.Proofs.Catalogue
import InventoryProbe.Proofs.Selection
import InventoryProbe.Proofs.Selection.Rearranged
import InventoryProbe.Proofs.Selection.Pruned
import InventoryProbe.Proofs.Check.Built
import InventoryProbe.Proofs.Pairing
import InventoryProbe.Proofs.Check.Coverage
import InventoryProbe.Proofs.Run.Execution
import InventoryProbe.Proofs.Run.Report
import InventoryProbe.Proofs.Criteria
import InventoryProbe.Proofs.Run.Narrowing
import InventoryProbe.Proofs.Report.Findings
import InventoryProbe.Proofs.Report.Accounts
import InventoryProbe.Proofs.Text.Lines
import InventoryProbe.Proofs.Report.Lines
import InventoryProbe.Proofs.Run.Rearranged
import InventoryProbe.Proofs.Run.Pruned
import InventoryProbe.Proofs.Run.Stages
import InventoryProbe.Proofs.Settings.Validity
import InventoryProbe.Proofs.Check.Options
import InventoryProbe.Proofs.Run.Precedence
import InventoryProbe.Proofs.Check.Kinds
import InventoryProbe.Proofs.Run.Concern
import InventoryProbe.Proofs.Binary64
import InventoryProbe.Proofs.Check.Metered
import InventoryProbe.Proofs.Run.Raised
import InventoryProbe.Proofs.Report.Identifiers
import InventoryProbe.Proofs.Settings.Overriding
import InventoryProbe.Proofs.Settings.Parts
import InventoryProbe.Proofs.Settings.Layers
import InventoryProbe.Proofs.Text.Digits
import InventoryProbe.Proofs.Document.Json
import InventoryProbe.Proofs.Document.Codec
import InventoryProbe.Proofs.Document.Layout
import InventoryProbe.Proofs.HardwareVersion
import InventoryProbe.Proofs.Timestamp
import InventoryProbe.Proofs.Inventory.Documents
import InventoryProbe.Proofs.Document.Spelling
import InventoryProbe.Proofs.Inventory.Spelling
import InventoryProbe.Proofs.Selection.Lookup
import InventoryProbe.Proofs.Pairing.Misplaced
import InventoryProbe.Proofs.Pairing.Missing
import InventoryProbe.Proofs.VersionPolicy.Verdicts
import InventoryProbe.Proofs.Selection.AlarmNames
import InventoryProbe.Proofs.Text.Blank
import InventoryProbe.Proofs.Text.Bytes
import InventoryProbe.Proofs.HardwareVersion.Grammar
import InventoryProbe.Proofs.Pairing.Resolution
import InventoryProbe.Proofs.Thresholds.Resolution
import InventoryProbe.Proofs.Inventory.Repetition
import InventoryProbe.Proofs.Timestamp.Timeline
import InventoryProbe.Proofs.Check.SnapshotAge
import InventoryProbe.Proofs.Check.SnapshotSize
import InventoryProbe.Proofs.Binary64.Rounding
import InventoryProbe.Proofs.Binary64.Shortest
import InventoryProbe.Proofs.Document.Numeral
import InventoryProbe.Proofs.Binary64.Literal
import InventoryProbe.Proofs.Report.Documents
import InventoryProbe.Proofs.Text.Ascii
import InventoryProbe.Proofs.Pairing.Keys
import InventoryProbe.Proofs.Thresholds.Sides
import InventoryProbe.Proofs.Selection.Scan
import InventoryProbe.Proofs.Catalogue.Registration
