import InventoryProbe.Check.Build
import InventoryProbe.Proofs.Settings.Validity

/-!
# What concerns one check

Settings hold options for every check. A check is built from its own and refused for its own: what is
set for another one, good or bad, makes no difference to it.

* **`CheckName.options`**: which options are a check's own.
* **`CheckName.build_eq_error_iff`**: a check is not built exactly if its own options are at fault.
* **`CheckName.build_eq_of_sameOptions`**: settings that agree on them build the same check.
-/

namespace InventoryProbe

/-- The options that one check has to itself. -/
inductive CheckOptions where
  | none
  /-- Boundaries under the name of the check, in place of `defaults`. -/
  | thresholds (defaults : Thresholds Binary64)
  | pairing
  | version

namespace CheckName

variable {n : CheckName} {s : Settings}

/-- The options of a check. -/
def options : CheckName → CheckOptions
  | .alarms => .none
  | .datastoreUsage => .thresholds Check.datastoreDefaults
  | .diskConsolidation => .none
  | .hardwareVersion => .version
  | .hostCpu => .thresholds Check.hostDefaults
  | .pairings => .pairing
  | .hostMemory => .thresholds Check.hostDefaults
  | .snapshotAge => .thresholds Check.ageDefaults
  | .snapshotCount => .thresholds Check.countDefaults
  | .snapshotSize => .thresholds Check.sizeDefaults
  | .tools => .none
  | .uptime => .thresholds Check.uptimeDefaults

/-- That a check's own options are at fault. -/
def OptionFault (n : CheckName) (s : Settings) (e : SettingError) : Prop :=
  match n.options with
  | .none => False
  | .thresholds defaults => (s.thresholdsFor n.text).resolve defaults = .error e
  | .pairing => PairingPlan.ofSettings s.pairing = .error e
  | .version => s.version.Fault e

/-- That two settings agree on a check's own options. -/
def SameOptions (n : CheckName) (a b : Settings) : Prop :=
  match n.options with
  | .none => True
  | .thresholds _ => a.thresholdsFor n.text = b.thresholdsFor n.text
  | .pairing => a.pairing = b.pairing
  | .version => a.version = b.version

/-- A check is not built exactly for a fault in its own options. -/
theorem build_eq_error_iff {e : SettingError} : n.build s = .error e ↔ n.OptionFault s e := by
  cases n with
  -- A check without options is always built.
  | alarms | diskConsolidation | tools => exact iff_of_false nofun id
  | hardwareVersion => exact map_eq_error_iff.trans VersionPolicy.ofSettings_eq_error_iff
  | pairings => exact map_eq_error_iff
  | datastoreUsage | hostCpu | hostMemory | snapshotAge | snapshotCount | snapshotSize | uptime =>
    exact map_eq_error_iff

/-- Options of other checks make no difference to it. -/
theorem build_eq_of_sameOptions {a b : Settings} (h : n.SameOptions a b) : n.build a = n.build b := by
  cases n with
  -- Three checks have no options, two have some of their own, and seven have boundaries.
  | alarms | diskConsolidation | tools => rfl
  | hardwareVersion =>
    have hversion : a.version = b.version := h
    unfold build
    rw [hversion]
  | pairings =>
    have hpairing : a.pairing = b.pairing := h
    unfold build
    rw [hpairing]
  | datastoreUsage | hostCpu | hostMemory | snapshotAge | snapshotCount | snapshotSize | uptime =>
    have hthresholds : a.thresholdsFor _ = b.thresholdsFor _ := h
    unfold build
    rw [hthresholds]

end CheckName

end InventoryProbe
