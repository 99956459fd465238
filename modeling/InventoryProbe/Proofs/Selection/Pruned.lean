import InventoryProbe.Proofs.Criteria

/-!
# Inventories without what is dropped

What criteria drop of an inventory can be taken out of it beforehand: the criteria then keep what they
kept before, and a check sees nothing else of the two inventories.

* **`prune`**, **`prunePools`**: the inventory without the machines and alarms that criteria drop, and
  without the pools as well.
* **`sameKept_select_prunePools`**: criteria keep the same objects of what is left. A machine is kept
  for the name of its pool, so that it loses no pool that it is kept for.
* **`seen`**: a selection with the little of its inventory that a check sees besides the kept objects
  and the tables.
-/

namespace InventoryProbe

/-! ## Pruning -/

/-- The inventory without the machines and alarms that the criteria drop. -/
def Criteria.prune (c : Criteria) (inventory : Inventory) : Inventory :=
  { inventory with
    virtualMachines := (c.select inventory).virtualMachines
    alarms := (c.select inventory).alarms }

/-- The inventory without the machines, alarms and resource pools that the criteria drop. -/
def Criteria.prunePools (c : Criteria) (inventory : Inventory) : Inventory :=
  { c.prune inventory with resourcePools := (c.select inventory).resourcePools }

namespace Selection

/-- Selections of the same objects in the same order. -/
structure SameKept (a b : Selection) : Prop where
  machines_eq : a.virtualMachines = b.virtualMachines
  datastores_eq : a.datastores = b.datastores
  pools_eq : a.resourcePools = b.resourcePools
  alarms_eq : a.alarms = b.alarms

/-- What was kept is kept again. -/
theorem filter_eq_self_of_filter {α : Type} {keep keepAgain : α → Bool} {objects : List α}
    (h : ∀ a, keep a → keepAgain a) :
    (objects.filter keep).filter keepAgain = objects.filter keep := by
  rw [List.filter_eq_self]
  intro a ha
  exact h a (List.mem_filter.1 ha).2

/-- Criteria keep the same of an inventory from which everything else was taken. -/
theorem sameKept_select_prune (c : Criteria) (inventory : Inventory) :
    (c.select (c.prune inventory)).SameKept (c.select inventory) where
  machines_eq := filter_eq_self_of_filter fun _ h => h
  datastores_eq := rfl
  pools_eq := rfl
  alarms_eq := filter_eq_self_of_filter fun _ h => h

/-! ## Pruning the pools

The pool of a machine is the last one listed with the machine's identifier of it. If its name speaks
for the machine, the pool is kept, and so is still the last one listed. -/

/-- A machine that is kept is kept without the pools that are not. -/
theorem keepsMachine_of_keptPools {c : Criteria} {pools : List ResourcePool} {m : VirtualMachine}
    (h : c.keepsMachine (tableBy (·.id) pools) m) :
    c.keepsMachine (tableBy (·.id) (pools.filter fun p => c.keepsPool (some p.name))) m := by
  obtain ⟨htemplate, hpool, hname, hpower⟩ := Criteria.keepsMachine_iff.1 h
  refine Criteria.keepsMachine_iff.2 ⟨htemplate, ?_, hname, hpower⟩
  cases hid : m.resourcePool with
  | none => rwa [hid] at hpool
  | some id =>
    rw [hid, Option.bind_some] at hpool
    rw [Option.bind_some]
    cases hfound : (tableBy (·.id) pools)[id]? with
    -- A pool that is not found has no name either way.
    | none =>
      rw [hfound] at hpool
      rwa [getElem?_tableBy_filter_eq_none hfound]
    | some p =>
      rw [hfound] at hpool
      rwa [getElem?_tableBy_filter hfound hpool]

/-- Criteria keep the same when only the pools that they drop are taken away. -/
theorem sameKept_select_prunePools (c : Criteria) (inventory : Inventory) :
    (c.select (c.prunePools inventory)).SameKept (c.select inventory) where
  machines_eq := filter_eq_self_of_filter fun _ h => keepsMachine_of_keptPools h
  datastores_eq := rfl
  pools_eq := filter_eq_self_of_filter fun _ h => h
  alarms_eq := filter_eq_self_of_filter fun _ h => h

/-! ## What checks see -/

/-- The selection with nothing of its inventory but what a check sees of it directly: when it was
collected, the default version, and the hosts, which are never dropped. -/
def seen (s : Selection) : Selection :=
  { s with
    inventory :=
      { Inventory.empty s.inventory.collectedAt with
        defaultVersion := s.inventory.defaultVersion
        hosts := s.inventory.hosts } }

/-- Inventories of which the same is kept are seen alike, whatever machines, pools and alarms they list
besides. -/
theorem seen_select_of_sameKept (c : Criteria) (inventory : Inventory)
    {machines : List VirtualMachine} {pools : List ResourcePool} {alarms : List Alarm}
    (h : (c.select { inventory with
      virtualMachines := machines, resourcePools := pools, alarms := alarms }).SameKept
        (c.select inventory)) :
    (c.select { inventory with
      virtualMachines := machines, resourcePools := pools, alarms := alarms }).seen
        = (c.select inventory).seen := by
  unfold seen
  rw [Selection.mk.injEq]
  -- Tables and datastores come from lists that are the same in both inventories.
  exact ⟨rfl, h.machines_eq, rfl, h.pools_eq, h.alarms_eq, rfl, rfl, rfl, rfl, rfl⟩

end Selection

end InventoryProbe
