import InventoryProbe.Check.Alarms
import InventoryProbe.Check.Datastores
import InventoryProbe.Check.Hosts
import InventoryProbe.Check.Machines
import InventoryProbe.Check.Snapshots
import InventoryProbe.Settings.Basic

/-!
# Building checks

How each of the checks is built from settings.
-/

namespace InventoryProbe

namespace Check

/-- The versions of machines' virtual hardware. -/
def hardwareVersion (policy : VersionPolicy) : Check where
  name := CheckName.hardwareVersion.text
  description := CheckName.hardwareVersion.description
  scope := VersionPolicy.scope
  evaluate := policy.evaluate

/-- The pairing of machines' hosts and datastores. -/
def pairings (plan : PairingPlan) : Check where
  name := CheckName.pairings.text
  description := CheckName.pairings.description
  scope := plan.scope
  evaluate s := .ok (plan.evaluate s)

end Check

namespace CheckName

/-- The check built from settings, of which only those that concern it are looked at. -/
def build (n : CheckName) (s : Settings) : Except SettingError Check :=
  let metric (defaults : Thresholds Binary64) (check : Thresholds Binary64 → Check) :=
    ((s.thresholdsFor n.text).resolve defaults).map check
  match n with
  | .alarms => .ok Check.alarms
  | .datastoreUsage => metric Check.datastoreDefaults Check.datastoreUsage
  | .diskConsolidation => .ok Check.diskConsolidation
  | .hardwareVersion => (VersionPolicy.ofSettings s.version).map Check.hardwareVersion
  | .hostCpu => metric Check.hostDefaults Check.hostCpu
  | .pairings => (PairingPlan.ofSettings s.pairing).map Check.pairings
  | .hostMemory => metric Check.hostDefaults Check.hostMemory
  | .snapshotAge => metric Check.ageDefaults Check.snapshotAge
  | .snapshotCount => metric Check.countDefaults Check.snapshotCount
  | .snapshotSize => metric Check.sizeDefaults Check.snapshotSize
  | .tools => .ok Check.tools
  | .uptime => metric Check.uptimeDefaults Check.uptime

end CheckName

end InventoryProbe
