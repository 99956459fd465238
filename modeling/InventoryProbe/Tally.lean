import InventoryProbe.Judgement

/-!
# Tallies

The judgements of one check, counted against the objects that it was to judge. A tally closes to an
outcome only if every expected object was judged exactly once and no other object was judged.
-/

namespace InventoryProbe

open Std (ExtTreeMap)

/-! ## Faults -/

/-- Why the judgements of a check are no outcome. -/
inductive EvaluationFault where
  /-- An expected object was not judged. -/
  | gap (check : String) (object : ObjectRef)
  /-- An expected object was judged more than once. -/
  | duplicate (check : String) (object : ObjectRef) (count : Nat)
  /-- An object was judged that had not been expected. -/
  | stray (check : String) (object : ObjectRef)
  /-- The inventory lacks what the check depends on. -/
  | unavailable (reason : String)
  deriving DecidableEq, Repr

namespace EvaluationFault

/-- The words for a fault. -/
def message : EvaluationFault → String
  | .gap check object =>
    "check '" ++ check ++ "' produced no result for in-scope " ++ object.text
  | .duplicate check object count =>
    "check '" ++ check ++ "' produced " ++ toString count ++ " results for " ++ object.text
      ++ ", expected exactly one"
  | .stray check object =>
    "check '" ++ check ++ "' produced a result for " ++ object.text ++ " outside its scope"
  | .unavailable reason => "required inventory data unavailable: " ++ reason

/-- Whether the check is to blame, and not the inventory. -/
def isDefect : EvaluationFault → Bool
  | .unavailable _ => false
  | _ => true

end EvaluationFault

/-! ## Outcomes -/

/-- What a check found about all the objects it was to judge. -/
structure Outcome where
  check : String
  overall : Severity
  judgements : List Judgement
  deriving DecidableEq

namespace Outcome

/-- The judgements that should be looked at. -/
def findings (o : Outcome) : List Judgement := o.judgements.filter (·.severity.isProblem)

/-- The number of judgements of a severity. -/
def count (o : Outcome) (s : Severity) : Nat := o.judgements.countP (·.severity = s)

def layout : Layout Outcome Outcome :=
  Layout.start Outcome.mk
    |>.required "check" .text (·.check)
    |>.required "overall" Severity.codec (·.overall)
    |>.required "results" Judgement.codec.list (·.judgements)

def codec : Codec Outcome := layout.codec .skipped

end Outcome

/-! ## Counting -/

/-- The judgements made so far, and how many of them each expected object has. -/
structure Tally where
  check : String
  expected : ExtTreeMap ObjectRef Nat
  /-- The judgements, the latest first. -/
  judgements : List Judgement
  /-- The judged objects that had not been expected, the latest first. -/
  strays : List ObjectRef

namespace Tally

/-- The tally of a check before anything is expected. -/
def empty (check : String) : Tally := ⟨check, ∅, [], []⟩

/-- One more object that is to be judged; one that is expected already stays as it is. -/
def expect (t : Tally) (object : ObjectRef) : Tally :=
  { t with expected := t.expected.insertIfNew object 0 }

/-- One more judgement. -/
def record (t : Tally) (j : Judgement) : Tally :=
  match t.expected[j.object]? with
  | some count =>
    { t with
      expected := t.expected.insert j.object (count + 1)
      judgements := j :: t.judgements }
  | none =>
    { t with
      strays := j.object :: t.strays
      judgements := j :: t.judgements }

/-- The outcome, or the fault: the first stray, else the first expected object, in ascending order,
that was not judged exactly once. -/
def close (t : Tally) : Except EvaluationFault Outcome :=
  match t.strays.getLast? with
  | some object => .error (.stray t.check object)
  | none =>
    match t.expected.toList.find? (·.2 != 1) with
    | some (object, 0) => .error (.gap t.check object)
    | some (object, count) => .error (.duplicate t.check object count)
    | none =>
      let judgements := t.judgements.reverse
      .ok ⟨t.check, .worstOf (judgements.map (·.severity)), judgements⟩

/-- The outcome of judging the objects of a scope. -/
def reconcile (check : String) (scope : List ObjectRef) (judgements : List Judgement) :
    Except EvaluationFault Outcome :=
  (judgements.foldl record (scope.foldl expect (empty check))).close

end Tally

end InventoryProbe
