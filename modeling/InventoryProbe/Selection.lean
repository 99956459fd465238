import InventoryProbe.Criteria
import InventoryProbe.Inventory.Identity
import InventoryProbe.Text.Lowercase

/-!
# Selections

The objects of an inventory that criteria keep, in listed order, beside tables that find objects of
the whole inventory by identifier. Hosts are never filtered. Where an identifier is used twice, the
object listed last is found.
-/

namespace InventoryProbe

open Std (ExtTreeMap ExtTreeSet)

/-! ## Tables -/

/-- The values by key; of several values with one key the last. -/
def tableBy {α : Type} (key : α → String) (values : List α) : ExtTreeMap String α :=
  values.foldl (fun table a => table.insert (key a) a) ∅

/-- The values of attributes, by object and then by name. -/
abbrev AttributeTable := ExtTreeMap String (ExtTreeMap String String)

/-- The table with the value of one more entry, in the place of a value that the object had under the name. -/
def AttributeTable.add (table : AttributeTable) (e : AttributeEntry) : AttributeTable :=
  table.insert e.object ((table[e.object]?.getD ∅).insert e.name e.value)

/-- The value that an object has under a name. -/
def AttributeTable.value? (table : AttributeTable) (object name : String) : Option String :=
  table[object]?.bind (·[name]?)

/-- The values of attributes; of several entries for one object and name the last. -/
def attributeTable (entries : List AttributeEntry) : AttributeTable :=
  entries.foldl AttributeTable.add ∅

/-! ## What is kept -/

namespace Criteria

/-- Whether a machine or pool is kept for the name of its pool; a machine outside any pool matches
no name. Excluded names count only where no names are included. -/
def keepsPool (c : Criteria) (pool : Option String) : Bool :=
  if !c.pools.included.isEmpty then pool.any c.pools.included.contains
  else if !c.pools.excluded.isEmpty then pool.all fun name => !c.pools.excluded.contains name
  else true

/-- Whether a datastore is kept. -/
def keepsDatastore (c : Criteria) (d : Datastore) : Bool := !c.ignoredDatastores.contains d.name

/-- Whether a machine is kept, given the resource pools by identifier. Templates never are. -/
def keepsMachine (c : Criteria) (pools : ExtTreeMap String ResourcePool) (m : VirtualMachine) :
    Bool :=
  !m.isTemplate &&
  c.keepsPool ((m.resourcePool.bind (pools[·]?)).map (·.name)) &&
  !c.ignoredMachines.contains m.name &&
  (c.poweredOff || !m.isPoweredOff)

/-- Whether a text contains one of the patterns, in any case. -/
def matchesAny (text : String) (patterns : ExtTreeSet String) : Bool :=
  let small := Text.lowercase text.toList
  patterns.toList.any fun pattern => Text.contains (Text.lowercase pattern.toList) small

/-- Whether an alarm is kept. -/
def keepsAlarm (c : Criteria) (a : Alarm) : Bool :=
  c.entityTypes.keeps (·.contains a.source.entityType) &&
  (c.acknowledged || !a.acknowledged) &&
  c.alarmNames.keeps (matchesAny a.name) &&
  c.statuses.keeps (·.contains a.status)

end Criteria

/-! ## Selections -/

/-- What a check looks at: the objects kept of an inventory, and the inventory's tables. -/
structure Selection where
  inventory : Inventory
  virtualMachines : List VirtualMachine
  datastores : List Datastore
  resourcePools : List ResourcePool
  alarms : List Alarm
  hostTable : ExtTreeMap String Host
  clusterTable : ExtTreeMap String Cluster
  datastoreTable : ExtTreeMap String Datastore
  datastoreIds : ExtTreeSet String
  attributes : AttributeTable

/-- The selection that criteria make from an inventory. -/
def Criteria.select (c : Criteria) (inventory : Inventory) : Selection :=
  -- Machines name their pool by identifier, and pools that are not kept have names as well.
  let pools := tableBy (·.id) inventory.resourcePools
  let datastores := inventory.datastores.filter c.keepsDatastore
  { inventory
    virtualMachines := inventory.virtualMachines.filter (c.keepsMachine pools)
    datastores
    resourcePools := inventory.resourcePools.filter fun p => c.keepsPool (some p.name)
    alarms := inventory.alarms.filter c.keepsAlarm
    hostTable := tableBy (·.id) inventory.hosts
    clusterTable := tableBy (·.id) inventory.clusters
    datastoreTable := tableBy (·.id) inventory.datastores
    datastoreIds := .ofList (datastores.map (·.id))
    attributes := attributeTable inventory.attributes }

namespace Selection

/-- All hosts of the inventory. -/
def hosts (s : Selection) : List Host := s.inventory.hosts

/-- The host with an identifier. -/
def host? (s : Selection) (id : String) : Option Host := s.hostTable[id]?

/-- The cluster with an identifier. -/
def cluster? (s : Selection) (id : String) : Option Cluster := s.clusterTable[id]?

/-- The datastore with an identifier, kept or not. -/
def datastore? (s : Selection) (id : String) : Option Datastore := s.datastoreTable[id]?

/-- Whether a datastore with the identifier was kept. -/
def hasDatastore (s : Selection) (id : String) : Bool := s.datastoreIds.contains id

/-- The value of an attribute of an object. An empty value is one. -/
def attribute? (s : Selection) (object name : String) : Option String :=
  s.attributes.value? object name

end Selection

end InventoryProbe
