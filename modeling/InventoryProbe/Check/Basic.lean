import InventoryProbe.Check.Name
import InventoryProbe.Selection
import InventoryProbe.Tally
import InventoryProbe.Thresholds

/-!
# Checks

A check says which objects of a selection it judges, and judges them.
-/

namespace InventoryProbe

/-- A check, ready to run. -/
structure Check where
  name : String
  description : String
  scope : Selection → List ObjectRef
  evaluate : Selection → Except EvaluationFault (List Judgement)

/-- The verdict on a metric of which higher values are worse. -/
def Verdict.ofMetric (t : Thresholds Binary64) (label : String) (metric : Binary64)
    (observed : Observation) : Verdict :=
  let severity := t.classify .higher metric
  ⟨observed, severity,
    if severity.isProblem then label ++ " " ++ observed.text ++ " (" ++ t.text (·.plain) ++ ")"
    else label ++ " " ++ observed.text ++ " within thresholds"⟩

/-- The seconds of a day. -/
def secondsPerDay : Nat := 86400

/-- A number of seconds in days. -/
def days (seconds : Nat) : Binary64 := .ofNat seconds / .ofNat secondsPerDay

end InventoryProbe
