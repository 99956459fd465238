import InventoryProbe.HardwareVersion
import InventoryProbe.Inventory.Object
import InventoryProbe.Timestamp.Text

/-!
# Inventories

A virtualization inventory as it was at one moment. Objects refer to one another by identifier
only: the host of a machine, its resource pool and its datastores, the cluster of a host.
-/

namespace InventoryProbe

/-! ## States -/

/-- Whether a machine runs. -/
inductive PowerState where
  | poweredOn
  | poweredOff
  | suspended
  deriving DecidableEq, Repr, Inhabited

/-- The state of the tools inside a machine. -/
inductive ToolsStatus where
  | ok
  | old
  | notRunning
  | notInstalled
  deriving DecidableEq, Repr, Inhabited

/-! ## Objects -/

/-- A group of hosts. -/
structure Cluster where
  id : String
  name : String
  datacenter : Option String
  defaultVersion : Option HardwareVersion
  deriving DecidableEq

/-- A host that machines run on. -/
structure Host where
  id : String
  name : String
  datacenter : Option String
  cluster : Option String
  memoryCapacity : UInt64
  memoryUsage : UInt64
  cpuCapacity : UInt64
  cpuUsage : UInt64
  inMaintenance : Bool
  defaultVersion : Option HardwareVersion
  deriving DecidableEq

/-- A store of machines' disks. -/
structure Datastore where
  id : String
  name : String
  datacenter : Option String
  capacity : UInt64
  free : UInt64
  accessible : Bool
  deriving DecidableEq

/-- A state of a machine that was kept. -/
structure Snapshot where
  id : String
  name : String
  created : Timestamp
  size : UInt64
  deriving DecidableEq

/-- A virtual machine. -/
structure VirtualMachine where
  id : String
  name : String
  datacenter : Option String
  host : Option String
  resourcePool : Option String
  datastores : List String
  powerState : PowerState
  hardwareVersion : HardwareVersion
  isTemplate : Bool
  uptime : Option UInt64
  processors : UInt32
  snapshots : List Snapshot
  needsConsolidation : Bool
  tools : Option ToolsStatus
  deriving DecidableEq

/-- A share of a cluster that machines are given. -/
structure ResourcePool where
  id : String
  name : String
  datacenter : Option String
  memoryUsage : UInt64
  deriving DecidableEq

/-- What an alarm was triggered on. -/
structure AlarmSource where
  entityType : EntityType
  id : String
  name : String
  deriving DecidableEq

/-- An alarm that was triggered. -/
structure Alarm where
  key : String
  name : String
  description : String
  datacenter : Option String
  source : AlarmSource
  status : AlarmStatus
  acknowledged : Bool
  triggeredAt : Option Timestamp
  deriving DecidableEq

/-- The value that an operator has given one attribute of one object. -/
structure AttributeEntry where
  object : String
  name : String
  value : String
  deriving DecidableEq

/-- Everything that was found at one moment. -/
structure Inventory where
  collectedAt : Timestamp
  defaultVersion : Option HardwareVersion
  clusters : List Cluster
  hosts : List Host
  datastores : List Datastore
  virtualMachines : List VirtualMachine
  resourcePools : List ResourcePool
  alarms : List Alarm
  attributes : List AttributeEntry
  deriving DecidableEq

/-! ## References -/

/-- The reference to a host. -/
def Host.ref (h : Host) : ObjectRef := ⟨.host, h.id, h.name⟩

/-- The reference to a datastore. -/
def Datastore.ref (d : Datastore) : ObjectRef := ⟨.datastore, d.id, d.name⟩

/-- The reference to a machine. -/
def VirtualMachine.ref (m : VirtualMachine) : ObjectRef := ⟨.virtualMachine, m.id, m.name⟩

/-- The reference to a resource pool. -/
def ResourcePool.ref (p : ResourcePool) : ObjectRef := ⟨.resourcePool, p.id, p.name⟩

/-- The reference to an alarm, which is identified by its key. -/
def Alarm.ref (a : Alarm) : ObjectRef := ⟨.alarm, a.key, a.name⟩

/-! ## Quantities -/

/-- The used space of a datastore as a percentage of its capacity; a datastore without capacity has
none. -/
def Datastore.usedPercent? (d : Datastore) : Option Binary64 :=
  if d.capacity = 0 then none
  else some (.percentage (d.capacity.toNat - d.free.toNat) d.capacity.toNat)

/-- Whether a machine is switched off. -/
def VirtualMachine.isPoweredOff (m : VirtualMachine) : Bool := m.powerState = .poweredOff

/-- The earlier of two snapshots, the first of them if they were made at the same moment. -/
def Snapshot.older (a b : Snapshot) : Snapshot := if b.created < a.created then b else a

/-- The snapshot of a machine that was made first; of several the one listed first. -/
def VirtualMachine.oldestSnapshot? (m : VirtualMachine) : Option Snapshot :=
  match m.snapshots with
  | [] => none
  | first :: rest => some (rest.foldl Snapshot.older first)

/-- The bytes that the snapshots of a machine take. Sizes are added as words of 64 bits, so that a sum wraps
around at 2 ^ 64, as it does where the program is built without checks of its arithmetic. -/
def VirtualMachine.snapshotBytes (m : VirtualMachine) : Nat :=
  (m.snapshots.foldl (fun bytes s => bytes + s.size) (0 : UInt64)).toNat

/-- The sum of two words, if it is one. -/
def checkedSum? (a b : UInt64) : Option UInt64 :=
  if a.toNat + b.toNat < UInt64.size then some (a + b) else none

/-- The bytes that the snapshots of a machine take, in a program that is built with checks of its arithmetic:
at the first sum that is no word of 64 bits it stops, and nothing is answered. -/
def VirtualMachine.checkedSnapshotBytes? (m : VirtualMachine) : Option UInt64 :=
  m.snapshots.foldlM (fun bytes s => checkedSum? bytes s.size) 0

namespace Inventory

/-- The inventory in which nothing was found. -/
def empty (collectedAt : Timestamp) : Inventory :=
  ⟨collectedAt, none, [], [], [], [], [], [], []⟩

end Inventory

end InventoryProbe
