import InventoryProbe.Inventory.Basic

/-!
# Identity

Every object of an inventory that can be judged is told apart from the others by its kind and its
identifier. An inventory that uses one of these pairs twice is refused.
-/

namespace InventoryProbe

namespace Inventory

/-- The objects that can be judged, each with its datacenter: hosts, datastores, machines, resource
pools and alarms, in listed order. -/
def located (inventory : Inventory) : List (ObjectRef × Option String) :=
  inventory.hosts.map (fun h => (h.ref, h.datacenter)) ++
  inventory.datastores.map (fun d => (d.ref, d.datacenter)) ++
  inventory.virtualMachines.map (fun m => (m.ref, m.datacenter)) ++
  inventory.resourcePools.map (fun p => (p.ref, p.datacenter)) ++
  inventory.alarms.map (fun a => (a.ref, a.datacenter))

/-- The objects that can be judged. -/
def objects (inventory : Inventory) : List ObjectRef := inventory.located.map (·.1)

end Inventory

/-- What no two objects of an inventory share. -/
def ObjectRef.identity (object : ObjectRef) : ObjectKind × String := (object.kind, object.id)

/-- The first object whose identity is in `seen` or was met before it. -/
def firstRepeated (seen : List (ObjectKind × String)) : List ObjectRef → Option ObjectRef
  | [] => none
  | object :: rest =>
    if object.identity ∈ seen then some object
    else firstRepeated (object.identity :: seen) rest

namespace Inventory

/-- The words for an object whose identity was taken. -/
def repetition (object : ObjectRef) : String :=
  "duplicate " ++ object.kind.text ++ " identifier '" ++ object.id ++ "' in inventory snapshot"

/-- Refuses an inventory in which two objects share an identity. -/
def validate (inventory : Inventory) : Except String Unit :=
  match firstRepeated [] inventory.objects with
  | some object => .error (repetition object)
  | none => .ok ()

end Inventory

end InventoryProbe
