import InventoryProbe.Settings.Error
import InventoryProbe.Severity
import InventoryProbe.Tally

/-!
# Why a run fails

Each of these means that the run itself could not be carried out, which a supervisor has to be able
to tell from an inventory that is in a bad state.
-/

namespace InventoryProbe

/-- Why a catalogue does not answer. -/
inductive CatalogueError where
  | unknown (name : String) (available : List String)
  | alreadyRegistered (name : String)
  deriving DecidableEq, Repr

/-- The words for a fault of a catalogue. -/
def CatalogueError.message : CatalogueError → String
  | .unknown name available =>
    "unknown check '" ++ name ++ "' (available: " ++ String.intercalate ", " available ++ ")"
  | .alreadyRegistered name => "check '" ++ name ++ "' is already registered"

/-- Why a run fails. -/
inductive RunError where
  | setting (error : SettingError)
  | evaluation (fault : EvaluationFault)
  | catalogue (error : CatalogueError)
  /-- There is no inventory that could be looked at. -/
  | unavailable (reason : String)
  | timeout (seconds : UInt64)
  deriving DecidableEq, Repr

namespace RunError

/-- The words for a failure. -/
def message : RunError → String
  | .setting e => "configuration error: " ++ e.message
  | .evaluation f => "evaluation error: " ++ f.message
  | .catalogue e => "check registry error: " ++ e.message
  | .unavailable reason => "inventory data unavailable: " ++ reason
  | .timeout seconds => "probe timed out after " ++ toString seconds.toNat ++ "s"

/-- The words for a failure as an operator is told. -/
def userMessage : RunError → String
  | .setting e => "Invalid probe configuration: " ++ e.message
  | .evaluation f =>
    (if f.isDefect then "Internal evaluation defect: " else "Evaluation aborted: ") ++ f.message
  | .catalogue e => "Check lookup failed: " ++ e.message
  | .unavailable reason => "Inventory snapshot unavailable: " ++ reason
  | .timeout seconds => "Probe did not finish within " ++ toString seconds.toNat ++ " seconds"

/-- Whether the operator can mend it: the settings, or the name of the check. -/
def isUserCorrectable : RunError → Bool
  | .setting _ => true
  | .catalogue (.unknown ..) => true
  | _ => false

/-- The severity of a failed run. -/
def severity (_ : RunError) : Severity := .unknown

end RunError

end InventoryProbe
