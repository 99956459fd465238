/-!
# Severity

The one scale on which every judgement of an inventory object, and the overall state of a run, is
placed: `ok < warning < critical < unknown`. `unknown` stands for a run that could not be carried
out and outranks whatever the inventory itself can show.
-/

namespace InventoryProbe

/-- How bad a judged object, or a whole run, is. -/
inductive Severity where
  | ok
  | warning
  | critical
  | unknown
  deriving DecidableEq, Repr, Inhabited

namespace Severity

/-- Every severity, mildest first. -/
def all : List Severity := [.ok, .warning, .critical, .unknown]

/-- The place on the scale, counted from the mildest. -/
def rank : Severity → Nat
  | .ok => 0
  | .warning => 1
  | .critical => 2
  | .unknown => 3

instance : LE Severity := ⟨fun a b => a.rank ≤ b.rank⟩

instance : DecidableLE Severity := fun a b => inferInstanceAs (Decidable (a.rank ≤ b.rank))

/-- The worse of two severities. -/
def worst (a b : Severity) : Severity := if a ≤ b then b else a

/-- The worst of any number of severities; none at all is `ok`. -/
def worstOf (severities : List Severity) : Severity := severities.foldl worst .ok

/-- The exit status by which a supervisor reads the state. -/
def exitCode (s : Severity) : Nat := s.rank

/-- The word written for a severity. -/
def text : Severity → String
  | .ok => "OK"
  | .warning => "WARNING"
  | .critical => "CRITICAL"
  | .unknown => "UNKNOWN"

/-- Whether an operator should look: everything but `ok`. -/
def isProblem (s : Severity) : Bool := s != .ok

end Severity

end InventoryProbe
