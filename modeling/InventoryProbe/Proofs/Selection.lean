import Mathlib.Data.List.Basic
import InventoryProbe.Proofs.Table

/-!
# Selections within one another

A selection that criteria make holds the objects that they keep beside tables of the whole
inventory, so the selections of two criteria differ in the kept objects only.

* **`SameTables`**: whatever is looked up in one selection or the other, the answer is the same.
* **`Within`**: one selection holds no object that another lacks, and both look things up in the
  same tables.
* **`within_select`**: criteria that keep nothing that others drop make a selection within theirs.
-/

namespace InventoryProbe

open Std (ExtTreeSet)

namespace Criteria

/-- The criteria keep nothing that others drop. -/
structure KeepsLess (a b : Criteria) : Prop where
  machine : ∀ pools m, a.keepsMachine pools m → b.keepsMachine pools m
  datastore : ∀ d, a.keepsDatastore d → b.keepsDatastore d
  alarm : ∀ alarm, a.keepsAlarm alarm → b.keepsAlarm alarm

protected theorem KeepsLess.refl (a : Criteria) : a.KeepsLess a :=
  ⟨fun _ _ h => h, fun _ h => h, fun _ h => h⟩

/-- What keeps nothing beyond the one keeps nothing beyond the other. -/
protected theorem KeepsLess.trans {a b c : Criteria} (hab : a.KeepsLess b) (hbc : b.KeepsLess c) :
    a.KeepsLess c where
  machine pools m h := hbc.machine pools m (hab.machine pools m h)
  datastore d h := hbc.datastore d (hab.datastore d h)
  alarm alarm h := hbc.alarm alarm (hab.alarm alarm h)

end Criteria

namespace Selection

/-- Selections in which whatever is looked up is found alike, from inventories of one moment. -/
structure SameTables (a b : Selection) : Prop where
  collectedAt_eq : a.inventory.collectedAt = b.inventory.collectedAt
  defaultVersion_eq : a.inventory.defaultVersion = b.inventory.defaultVersion
  hostTable_eq : a.hostTable = b.hostTable
  clusterTable_eq : a.clusterTable = b.clusterTable
  datastoreTable_eq : a.datastoreTable = b.datastoreTable
  attributes_eq : a.attributes = b.attributes

namespace SameTables

variable {a b : Selection}

/-- A selection has the tables that it has. -/
protected theorem refl (s : Selection) : s.SameTables s := ⟨rfl, rfl, rfl, rfl, rfl, rfl⟩

theorem host?_eq (h : a.SameTables b) (id : String) : a.host? id = b.host? id := by
  unfold host?
  rw [h.hostTable_eq]

theorem cluster?_eq (h : a.SameTables b) (id : String) : a.cluster? id = b.cluster? id := by
  unfold cluster?
  rw [h.clusterTable_eq]

theorem datastore?_eq (h : a.SameTables b) (id : String) : a.datastore? id = b.datastore? id := by
  unfold datastore?
  rw [h.datastoreTable_eq]

theorem attribute?_eq (h : a.SameTables b) (object name : String) :
    a.attribute? object name = b.attribute? object name := by
  unfold attribute?
  rw [h.attributes_eq]

end SameTables

/-- A selection of no other objects than another, from the same inventory. -/
structure Within (a b : Selection) : Prop where
  inventory_eq : a.inventory = b.inventory
  hostTable_eq : a.hostTable = b.hostTable
  clusterTable_eq : a.clusterTable = b.clusterTable
  datastoreTable_eq : a.datastoreTable = b.datastoreTable
  attributes_eq : a.attributes = b.attributes
  machines_sublist : a.virtualMachines.Sublist b.virtualMachines
  datastores_sublist : a.datastores.Sublist b.datastores
  alarms_sublist : a.alarms.Sublist b.alarms
  hasDatastore_of : ∀ id, a.hasDatastore id → b.hasDatastore id
  /-- A datastore that one of them keeps is one of the inventory. -/
  isSome_datastore? : ∀ id, b.hasDatastore id → (a.datastore? id).isSome

namespace Within

variable {a b : Selection}

/-! Everything but the kept objects is found alike. -/

theorem sameTables (h : a.Within b) : a.SameTables b :=
  ⟨congrArg _ h.inventory_eq, congrArg _ h.inventory_eq, h.hostTable_eq, h.clusterTable_eq,
    h.datastoreTable_eq, h.attributes_eq⟩

theorem hosts_eq (h : a.Within b) : a.hosts = b.hosts := by
  unfold hosts
  rw [h.inventory_eq]

end Within

/-! ## Selections from one inventory -/

/-- Machines that are kept stand in the order of the inventory. -/
theorem virtualMachines_select_sublist (c : Criteria) (inventory : Inventory) :
    (c.select inventory).virtualMachines.Sublist inventory.virtualMachines :=
  List.filter_sublist

theorem datastores_select_sublist (c : Criteria) (inventory : Inventory) :
    (c.select inventory).datastores.Sublist inventory.datastores :=
  List.filter_sublist

theorem alarms_select_sublist (c : Criteria) (inventory : Inventory) :
    (c.select inventory).alarms.Sublist inventory.alarms :=
  List.filter_sublist

/-- A datastore is among those kept if one with its identifier is kept. -/
theorem hasDatastore_select {c : Criteria} {inventory : Inventory} {id : String} :
    (c.select inventory).hasDatastore id ↔
      ∃ d ∈ inventory.datastores, c.keepsDatastore d ∧ d.id = id := by
  unfold hasDatastore Criteria.select
  rw [ExtTreeSet.contains_ofList]
  simp [and_assoc]

/-- A datastore is found if the inventory has one with its identifier. -/
theorem isSome_datastore?_select {c : Criteria} {inventory : Inventory} {id : String} :
    ((c.select inventory).datastore? id).isSome ↔ ∃ d ∈ inventory.datastores, d.id = id :=
  isSome_getElem?_tableBy

/-- Criteria that keep less make a selection within the other. -/
theorem within_select {a b : Criteria} (h : a.KeepsLess b) (inventory : Inventory) :
    (a.select inventory).Within (b.select inventory) where
  inventory_eq := rfl
  hostTable_eq := rfl
  clusterTable_eq := rfl
  datastoreTable_eq := rfl
  attributes_eq := rfl
  machines_sublist := List.monotone_filter_right _ fun m => h.machine _ m
  datastores_sublist := List.monotone_filter_right _ h.datastore
  alarms_sublist := List.monotone_filter_right _ h.alarm
  hasDatastore_of id hid := by
    obtain ⟨d, hd, hkept, rfl⟩ := hasDatastore_select.1 hid
    exact hasDatastore_select.2 ⟨d, hd, h.datastore d hkept, rfl⟩
  -- The table has all datastores, and not the kept ones only.
  isSome_datastore? id hid := by
    obtain ⟨d, hd, -, rfl⟩ := hasDatastore_select.1 hid
    exact isSome_datastore?_select.2 ⟨d, hd, rfl⟩

end Selection

end InventoryProbe
