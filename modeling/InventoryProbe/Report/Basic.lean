import InventoryProbe.Report.FindingId
import InventoryProbe.Tally
import InventoryProbe.Timestamp.Text

/-!
# Reports

What is handed to the supervisor after a run: a state, a summary, and the findings, worst first. A
run that could not be carried out has a report as well, whose state is `unknown`.
-/

namespace InventoryProbe

/-! ## Reports -/

/-- A judgement that should be looked at, with an identifier that stays the same from run to run. -/
structure Finding where
  id : String
  judgement : Judgement
  deriving DecidableEq

/-- The result of a run. -/
structure Report where
  check : String
  state : Severity
  summary : String
  collectedAt : Option Timestamp
  evaluated : Nat
  findings : List Finding
  deriving DecidableEq

namespace Report

/-- The severities that a summary counts, in the order in which it names them. -/
def counted : List Severity := [.unknown, .critical, .warning]

/-- The counts of a summary, as far as they are not zero. -/
def countTexts (o : Outcome) : List String :=
  (counted.filter (o.count · != 0)).map fun s => toString (o.count s) ++ " " ++ s.text

/-- The summary of an outcome. -/
def summarize (o : Outcome) : String :=
  let total := toString o.judgements.length
  if o.overall.isProblem then
    String.intercalate ", " (countTexts o) ++ " of " ++ total ++ " objects evaluated by check '"
      ++ o.check ++ "'"
  else
    total ++ " of " ++ total ++ " objects evaluated by check '" ++ o.check
      ++ "' are within thresholds"

/-- The findings of an outcome, worst first; equally bad ones stay in order. -/
def findingsOf (o : Outcome) : List Finding :=
  (o.findings.map fun j => ⟨FindingId.of o.check j.object, j⟩).mergeSort fun a b =>
    b.judgement.severity ≤ a.judgement.severity

/-- The report of a completed run on an inventory collected at the given time. -/
def ofOutcome (o : Outcome) (collectedAt : Timestamp) : Report where
  check := o.check
  state := o.overall
  summary := summarize o
  collectedAt := some collectedAt
  evaluated := o.judgements.length
  findings := findingsOf o

/-- The report of a run that could not be carried out. -/
def ofFailure (check reason : String) : Report where
  check
  state := .unknown
  summary := "check '" ++ check ++ "' could not run: " ++ reason
  collectedAt := none
  evaluated := 0
  findings := []

/-- The exit status of the run. -/
def exitCode (r : Report) : Nat := r.state.exitCode

/-! ## Text -/

/-- The lines of the report: the state, the findings, and the number of the other objects. -/
def lines (r : Report) : List String :=
  [r.state.text ++ ": " ++ r.summary]
  ++ r.findings.map (fun f => "* " ++ f.judgement.text)
  ++ if r.findings.isEmpty && r.evaluated == 0 then []
     else [toString (r.evaluated - r.findings.length) ++ " object(s) OK"]

/-- The report as the supervisor shows it. -/
def text (r : Report) : String := String.intercalate "\n" r.lines

end Report

end InventoryProbe
