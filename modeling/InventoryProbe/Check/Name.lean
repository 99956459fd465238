/-!
# Names of checks

The twelve checks, by name.
-/

namespace InventoryProbe

/-- The name of one of the checks. -/
inductive CheckName where
  | alarms
  | datastoreUsage
  | diskConsolidation
  | hardwareVersion
  | hostCpu
  | pairings
  | hostMemory
  | snapshotAge
  | snapshotCount
  | snapshotSize
  | tools
  | uptime
  deriving DecidableEq, Repr, Inhabited

namespace CheckName

/-- Every check, in the order of the names. -/
def all : List CheckName :=
  [.alarms, .datastoreUsage, .diskConsolidation, .hardwareVersion, .hostCpu, .pairings, .hostMemory,
    .snapshotAge, .snapshotCount, .snapshotSize, .tools, .uptime]

/-- The name as it is written. -/
def text : CheckName → String
  | .alarms => "alarms"
  | .datastoreUsage => "datastore-usage"
  | .diskConsolidation => "disk-consolidation"
  | .hardwareVersion => "hardware-version"
  | .hostCpu => "host-cpu"
  | .pairings => "host-datastore-pairings"
  | .hostMemory => "host-memory"
  | .snapshotAge => "snapshots-age"
  | .snapshotCount => "snapshots-count"
  | .snapshotSize => "snapshots-size"
  | .tools => "tools"
  | .uptime => "vm-uptime"

/-- What the check is about. -/
def description : CheckName → String
  | .alarms => "Triggered alarms on inventory entities"
  | .datastoreUsage => "Used space of each datastore as a percentage of capacity"
  | .diskConsolidation => "VMs with disks that need consolidation"
  | .hardwareVersion => "Virtual hardware version of each VM against the configured baseline"
  | .hostCpu => "CPU usage of each host as a percentage of total capacity"
  | .pairings => "Custom-attribute pairing between each VM's host and its datastores"
  | .hostMemory => "Memory usage of each host as a percentage of installed memory"
  | .snapshotAge => "Age in days of the oldest snapshot of each VM"
  | .snapshotCount => "Number of snapshots of each VM"
  | .snapshotSize => "Cumulative size in GB of the snapshots of each VM"
  | .tools => "Guest tools installation and running state of each VM"
  | .uptime => "Uptime in days of each powered-on VM"

end CheckName

end InventoryProbe
