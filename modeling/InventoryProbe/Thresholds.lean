import InventoryProbe.Binary64.Shortest
import InventoryProbe.Document.Layout
import InventoryProbe.Settings.Error
import InventoryProbe.Severity

/-!
# Thresholds

A warning and a critical boundary for one metric, on any ordered scale. The boundaries are never
put in order: a critical boundary may lie on the mild side of the warning boundary, and is looked
at first.
-/

namespace InventoryProbe

/-- The side of a boundary on which things are bad. -/
inductive WorseSide where
  | higher
  | lower
  deriving DecidableEq, Repr

/-- Two boundaries on one scale. -/
structure Thresholds (α : Type) where
  warning : α
  critical : α
  deriving DecidableEq, Repr

/-- Whether a metric has reached a boundary; lying on it counts. -/
def WorseSide.reaches {α : Type} [LE α] [DecidableLE α] (side : WorseSide) (metric boundary : α) :
    Bool :=
  match side with
  | .higher => boundary ≤ metric
  | .lower => metric ≤ boundary

namespace Thresholds

variable {α : Type}

/-- The severity of a metric. -/
def classify [LE α] [DecidableLE α] (t : Thresholds α) (side : WorseSide) (metric : α) : Severity :=
  if side.reaches metric t.critical then .critical
  else if side.reaches metric t.warning then .warning
  else .ok

/-- The boundaries in a sentence. -/
def text (spell : α → String) (t : Thresholds α) : String :=
  "warning " ++ spell t.warning ++ ", critical " ++ spell t.critical

/-- The boundaries that a pair of options gives: both, none, or a fault if one is missing. -/
def ofOptions (warningOption criticalOption : String) :
    Option α → Option α → Except SettingError (Option (Thresholds α))
  | some warning, some critical => .ok (some ⟨warning, critical⟩)
  | none, none => .ok none
  | some _, none => .error (.missingPartner warningOption criticalOption)
  | none, some _ => .error (.missingPartner criticalOption warningOption)

end Thresholds

/-! ## Settings -/

/-- The boundaries that an operator has set for one check. -/
structure ThresholdSettings where
  warning : Option Binary64
  critical : Option Binary64
  deriving DecidableEq

namespace ThresholdSettings

/-- No boundary set. -/
def unset : ThresholdSettings := ⟨none, none⟩

instance : Inhabited ThresholdSettings := ⟨unset⟩

/-- The boundaries set here, and for the others those of `base`. -/
def above (settings base : ThresholdSettings) : ThresholdSettings :=
  ⟨settings.warning <|> base.warning, settings.critical <|> base.critical⟩

/-- Refuses a boundary that is not a finite number from zero on. -/
def validate (option : String) : Option Binary64 → Except SettingError Unit
  | none => .ok ()
  | some x =>
    if x.isFinite && decide (0 ≤ x) then .ok ()
    else .error (.invalidValue option x.plain "threshold must be a finite, non-negative number")

/-- The boundaries in force: those set, or `defaults` where none is set. -/
def resolve (settings : ThresholdSettings) (defaults : Thresholds Binary64) :
    Except SettingError (Thresholds Binary64) := do
  validate "warning" settings.warning
  validate "critical" settings.critical
  let given ← Thresholds.ofOptions "warning" "critical" settings.warning settings.critical
  return given.getD defaults

def layout : Layout ThresholdSettings ThresholdSettings :=
  Layout.start ThresholdSettings.mk
    |>.optional "warning" .number (·.warning)
    |>.optional "critical" .number (·.critical)

def codec : Codec ThresholdSettings := layout.codec .refused

end ThresholdSettings

end InventoryProbe
