import InventoryProbe.Proofs.Inventory.Identity
import InventoryProbe.Proofs.Selection

/-!
# Inventories in another order

Two inventories may list the same objects in different orders. As long as no identifier is used
twice, it makes no difference to what is found under an identifier which objects come first, and so
criteria keep the same objects of both.

* **`Inventory.Rearranged`**: the same hosts, datastores, machines, pools and alarms in any order.
* **`Selection.Rearranged`**: the same objects kept, in any order, and the same answers to whatever
  is looked up.
* **`rearranged_select`**: criteria make the second out of the first.
-/

namespace InventoryProbe

open Std (ExtTreeSet)

/-! ## Inventories -/

/-- Inventories of the same objects, those of each kind in any order. Clusters and attributes, which
may repeat themselves, are in the same order. -/
structure Inventory.Rearranged (a b : Inventory) : Prop where
  collectedAt_eq : a.collectedAt = b.collectedAt
  defaultVersion_eq : a.defaultVersion = b.defaultVersion
  clusters_eq : a.clusters = b.clusters
  attributes_eq : a.attributes = b.attributes
  hosts_perm : a.hosts.Perm b.hosts
  datastores_perm : a.datastores.Perm b.datastores
  machines_perm : a.virtualMachines.Perm b.virtualMachines
  pools_perm : a.resourcePools.Perm b.resourcePools
  alarms_perm : a.alarms.Perm b.alarms

namespace Inventory.Rearranged

variable {a b : Inventory}

/-- Either of two inventories is the other in another order. -/
protected theorem symm (h : a.Rearranged b) : b.Rearranged a where
  collectedAt_eq := h.collectedAt_eq.symm
  defaultVersion_eq := h.defaultVersion_eq.symm
  clusters_eq := h.clusters_eq.symm
  attributes_eq := h.attributes_eq.symm
  hosts_perm := h.hosts_perm.symm
  datastores_perm := h.datastores_perm.symm
  machines_perm := h.machines_perm.symm
  pools_perm := h.pools_perm.symm
  alarms_perm := h.alarms_perm.symm

theorem objects_perm (h : a.Rearranged b) : a.objects.Perm b.objects := by
  rw [a.objects_eq, b.objects_eq]
  refine .append (.append (.append (.append ?_ ?_) ?_) ?_) ?_
  · exact h.hosts_perm.map _
  · exact h.datastores_perm.map _
  · exact h.machines_perm.map _
  · exact h.pools_perm.map _
  · exact h.alarms_perm.map _

/-- An inventory is refused in every order or in none. -/
theorem validate_eq_ok_iff (h : a.Rearranged b) : a.validate = .ok () ↔ b.validate = .ok () := by
  rw [Inventory.validate_eq_ok_iff, Inventory.validate_eq_ok_iff]
  exact (h.objects_perm.map _).nodup_iff

end Inventory.Rearranged

/-! ## Selections -/

namespace Selection

/-- Selections of the same objects in any order, in which whatever is looked up is found alike. -/
structure Rearranged (a b : Selection) : Prop extends SameTables a b where
  hosts_perm : a.hosts.Perm b.hosts
  machines_perm : a.virtualMachines.Perm b.virtualMachines
  datastores_perm : a.datastores.Perm b.datastores
  alarms_perm : a.alarms.Perm b.alarms
  hasDatastore_eq : ∀ id, a.hasDatastore id = b.hasDatastore id

variable {a b : Inventory}

/-- The same datastores are kept of both. -/
theorem hasDatastore_select_eq (c : Criteria) (h : a.Rearranged b) (id : String) :
    (c.select a).hasDatastore id = (c.select b).hasDatastore id := by
  rw [Bool.eq_iff_iff, hasDatastore_select, hasDatastore_select]
  simp only [h.datastores_perm.mem_iff]

/-- Criteria keep the same objects in any order. The identifiers must differ, for of two objects with
one identifier the order would say which is found. -/
theorem rearranged_select (c : Criteria) (h : a.Rearranged b) (hvalid : a.validate = .ok ()) :
    (c.select a).Rearranged (c.select b) := by
  have hids := Inventory.validate_eq_ok_iff_idsDiffer.1 hvalid
  -- Pools are found by their identifiers, which differ.
  have hpools : tableBy (·.id) a.resourcePools = tableBy (·.id) b.resourcePools :=
    tableBy_eq_of_perm h.pools_perm hids.pools
  exact {
    collectedAt_eq := h.collectedAt_eq
    defaultVersion_eq := h.defaultVersion_eq
    hostTable_eq := tableBy_eq_of_perm h.hosts_perm hids.hosts
    clusterTable_eq := congrArg (tableBy Cluster.id) h.clusters_eq
    datastoreTable_eq := tableBy_eq_of_perm h.datastores_perm hids.datastores
    attributes_eq := congrArg attributeTable h.attributes_eq
    hosts_perm := h.hosts_perm
    machines_perm := by
      show (a.virtualMachines.filter (c.keepsMachine (tableBy (·.id) a.resourcePools))).Perm
        (b.virtualMachines.filter (c.keepsMachine (tableBy (·.id) b.resourcePools)))
      -- Whether a machine is kept hangs on the name of its pool.
      rw [hpools]
      exact h.machines_perm.filter _
    datastores_perm := h.datastores_perm.filter _
    alarms_perm := h.alarms_perm.filter _
    hasDatastore_eq := hasDatastore_select_eq c h }

end Selection

end InventoryProbe
