import InventoryProbe.Document.JsonWriter
import InventoryProbe.Inventory.Basic

/-!
# Inventory documents

How inventories are written as documents. Fields that a document leaves out are absent, zero, false,
empty, or, for the accessibility of a datastore, true; members of other names are passed over.
-/

namespace InventoryProbe

/-! ## States -/

namespace PowerState

def all : List PowerState := [.poweredOn, .poweredOff, .suspended]

/-- The name of a power state. -/
def text : PowerState → String
  | .poweredOn => "poweredOn"
  | .poweredOff => "poweredOff"
  | .suspended => "suspended"

def codec : Codec PowerState := .choice all text

end PowerState

namespace ToolsStatus

def all : List ToolsStatus := [.ok, .old, .notRunning, .notInstalled]

/-- The name of a state of the tools. -/
def text : ToolsStatus → String
  | .ok => "toolsOk"
  | .old => "toolsOld"
  | .notRunning => "toolsNotRunning"
  | .notInstalled => "toolsNotInstalled"

def codec : Codec ToolsStatus := .choice all text

end ToolsStatus

/-! ## Objects -/

def Cluster.layout : Layout Cluster Cluster :=
  Layout.start Cluster.mk
    |>.required "id" .text (·.id)
    |>.required "name" .text (·.name)
    |>.optional "datacenter" .text (·.datacenter)
    |>.optional "default_hardware_version" HardwareVersion.codec (·.defaultVersion)

def Host.layout : Layout Host Host :=
  Layout.start Host.mk
    |>.required "id" .text (·.id)
    |>.required "name" .text (·.name)
    |>.optional "datacenter" .text (·.datacenter)
    |>.optional "cluster" .text (·.cluster)
    |>.defaulted "memory_total_bytes" .word64 0 (·.memoryCapacity)
    |>.defaulted "memory_usage_bytes" .word64 0 (·.memoryUsage)
    |>.defaulted "cpu_total_mhz" .word64 0 (·.cpuCapacity)
    |>.defaulted "cpu_usage_mhz" .word64 0 (·.cpuUsage)
    |>.defaulted "in_maintenance" .bool false (·.inMaintenance)
    |>.optional "default_hardware_version" HardwareVersion.codec (·.defaultVersion)

def Datastore.layout : Layout Datastore Datastore :=
  Layout.start Datastore.mk
    |>.required "id" .text (·.id)
    |>.required "name" .text (·.name)
    |>.optional "datacenter" .text (·.datacenter)
    |>.defaulted "capacity_bytes" .word64 0 (·.capacity)
    |>.defaulted "free_bytes" .word64 0 (·.free)
    |>.defaulted "accessible" .bool true (·.accessible)

def Snapshot.layout : Layout Snapshot Snapshot :=
  Layout.start Snapshot.mk
    |>.required "id" .text (·.id)
    |>.required "name" .text (·.name)
    |>.required "created" Timestamp.codec (·.created)
    |>.defaulted "size_bytes" .word64 0 (·.size)

def VirtualMachine.layout : Layout VirtualMachine VirtualMachine :=
  Layout.start VirtualMachine.mk
    |>.required "id" .text (·.id)
    |>.required "name" .text (·.name)
    |>.optional "datacenter" .text (·.datacenter)
    |>.optional "host" .text (·.host)
    |>.optional "resource_pool" .text (·.resourcePool)
    |>.defaulted "datastores" Codec.text.list [] (·.datastores)
    |>.required "power_state" PowerState.codec (·.powerState)
    |>.required "hardware_version" HardwareVersion.codec (·.hardwareVersion)
    |>.defaulted "template" .bool false (·.isTemplate)
    |>.optional "uptime_seconds" .word64 (·.uptime)
    |>.defaulted "num_cpu" .word32 0 (·.processors)
    |>.defaulted "snapshots" (Snapshot.layout.codec .skipped).list [] (·.snapshots)
    |>.defaulted "consolidation_needed" .bool false (·.needsConsolidation)
    |>.optional "tools_status" ToolsStatus.codec (·.tools)

def ResourcePool.layout : Layout ResourcePool ResourcePool :=
  Layout.start ResourcePool.mk
    |>.required "id" .text (·.id)
    |>.required "name" .text (·.name)
    |>.optional "datacenter" .text (·.datacenter)
    |>.defaulted "memory_usage_bytes" .word64 0 (·.memoryUsage)

def AlarmSource.layout : Layout AlarmSource AlarmSource :=
  Layout.start AlarmSource.mk
    |>.required "entity_type" EntityType.codec (·.entityType)
    |>.required "id" .text (·.id)
    |>.required "name" .text (·.name)

def Alarm.layout : Layout Alarm Alarm :=
  Layout.start Alarm.mk
    |>.required "key" .text (·.key)
    |>.required "name" .text (·.name)
    |>.defaulted "description" .text "" (·.description)
    |>.optional "datacenter" .text (·.datacenter)
    |>.required "entity" (AlarmSource.layout.codec .skipped) (·.source)
    |>.required "status" AlarmStatus.codec (·.status)
    |>.defaulted "acknowledged" .bool false (·.acknowledged)
    |>.optional "triggered_at" Timestamp.codec (·.triggeredAt)

def AttributeEntry.layout : Layout AttributeEntry AttributeEntry :=
  Layout.start AttributeEntry.mk
    |>.required "object_id" .text (·.object)
    |>.required "name" .text (·.name)
    |>.required "value" .text (·.value)

namespace Inventory

def layout : Layout Inventory Inventory :=
  Layout.start Inventory.mk
    |>.required "collected_at" Timestamp.codec (·.collectedAt)
    |>.optional "default_hardware_version" HardwareVersion.codec (·.defaultVersion)
    |>.defaulted "clusters" (Cluster.layout.codec .skipped).list [] (·.clusters)
    |>.defaulted "hosts" (Host.layout.codec .skipped).list [] (·.hosts)
    |>.defaulted "datastores" (Datastore.layout.codec .skipped).list [] (·.datastores)
    |>.defaulted "virtual_machines" (VirtualMachine.layout.codec .skipped).list []
      (·.virtualMachines)
    |>.defaulted "resource_pools" (ResourcePool.layout.codec .skipped).list [] (·.resourcePools)
    |>.defaulted "alarms" (Alarm.layout.codec .skipped).list [] (·.alarms)
    |>.defaulted "custom_attributes" (AttributeEntry.layout.codec .skipped).list [] (·.attributes)

def codec : Codec Inventory := layout.codec .skipped

/-- The inventory that a JSON text holds. -/
def read (source : String) : Except ReadError Inventory := codec.readJson source

/-- The JSON text of an inventory. -/
def write (inventory : Inventory) : String := Json.write .tight (codec.write inventory)

end Inventory

end InventoryProbe
