import InventoryProbe.Inventory.Format
import InventoryProbe.Report.Basic
import InventoryProbe.Run.Catalogue
import InventoryProbe.SourceFile

/-!
# Runs

One check over one inventory, from settings to a report. Settings are looked at in full before the
inventory is, so that a fault of settings is told whatever state the inventory is in.
-/

namespace InventoryProbe

/-! ## Preparing and executing -/

/-- A run whose settings have been found good. -/
structure PreparedRun where
  criteria : Criteria
  check : Check

namespace PreparedRun

/-- The run of a check with the given settings. -/
def prepare (catalogue : Catalogue) (name : String) (s : Settings) :
    Except RunError PreparedRun := do
  s.validate.mapError .setting
  let check ← catalogue.build name s
  return ⟨s.criteria, check⟩

/-- What the check finds in an inventory. -/
def execute (run : PreparedRun) (inventory : Inventory) : Except RunError Outcome := do
  let selection := run.criteria.select inventory
  let judgements ← (run.check.evaluate selection).mapError .evaluation
  (Tally.reconcile run.check.name (run.check.scope selection) judgements).mapError .evaluation

/-- The report on an inventory, which is not held to the rules of identity. -/
def report (run : PreparedRun) (inventory : Inventory) : Except RunError Report := do
  let outcome ← run.execute inventory
  return .ofOutcome outcome inventory.collectedAt

end PreparedRun

/-! ## Inventory files -/

namespace SourceFile

/-- What is told of a text that is not an inventory. -/
def readErrorText (e : ReadError) : String := e.message.getD "<InvalidData>"

/-- The inventory in a file. -/
def load (file : SourceFile) : Except RunError Inventory := do
  let text ← file.content.mapError fun reason =>
    .unavailable ("cannot read inventory snapshot '" ++ file.path ++ "': " ++ reason)
  let inventory ← (Inventory.read text).mapError fun e =>
    .unavailable ("malformed inventory snapshot '" ++ file.path ++ "': " ++ readErrorText e)
  inventory.validate.mapError .unavailable
  return inventory

end SourceFile

/-! ## Whole runs -/

namespace Catalogue

/-- The report of a check on an inventory at hand. -/
def evaluate (c : Catalogue) (name : String) (s : Settings) (inventory : Inventory) :
    Except RunError Report := do
  let run ← PreparedRun.prepare c name s
  inventory.validate.mapError .unavailable
  run.report inventory

/-- The report of a check on the inventory in a file. -/
def evaluateFile (c : Catalogue) (name : String) (s : Settings) (file : SourceFile) :
    Except RunError Report := do
  let run ← PreparedRun.prepare c name s
  run.report (← file.load)

/-- The report of a check on the inventory in a file, also if the run fails. -/
def run (c : Catalogue) (name : String) (s : Settings) (file : SourceFile) : Report :=
  match c.evaluateFile name s file with
  | .ok report => report
  | .error e => .ofFailure name e.userMessage

end Catalogue

end InventoryProbe
