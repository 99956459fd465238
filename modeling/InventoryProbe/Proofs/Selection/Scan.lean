import InventoryProbe.Proofs.Selection.Lookup

/-!
# Lookups as plain scans

What a selection looks up in its tables is what one finds by going through the lists of the inventory from the
front to the back and keeping what was met last. Identifiers may repeat, in any order and mixed with others,
and nothing hangs on what the criteria keep, but for the datastores that are told kept.

* **`FoundLast`**: what is left at the end of such a scan.
* **`foundLast_iff`**: there is one such thing for every list and every key.
* **`lookups_foundLast`**: every table agrees with the scan, and machines are kept for the name of the pool that
  the scan finds.
-/

namespace InventoryProbe

/-! ## Scans -/

/-- What a scan for a key is left with: the value behind which no other has the key, or nothing if none has. -/
inductive FoundLast {α κ : Type} (key : α → κ) (values : List α) (k : κ) : Option α → Prop where
  | found (front : List α) (a : α) (back : List α) (hvalues : values = front ++ a :: back)
    (hkey : key a = k) (hback : ∀ b ∈ back, key b ≠ k) : FoundLast key values k (some a)
  | missing (hnone : ∀ a ∈ values, key a ≠ k) : FoundLast key values k none

section FoundLast

variable {α κ : Type} [DecidableEq κ] {key : α → κ} {values : List α} {k : κ}

/-- A value is found if it has the key and none behind it has. -/
theorem lastKeyed_append_cons {front back : List α} {a : α} (hkey : key a = k)
    (hback : ∀ b ∈ back, key b ≠ k) : lastKeyed key (front ++ a :: back) k = some a := by
  have hnone : back.filter (key · = k) = [] :=
    List.filter_eq_nil_iff.2 fun b hb hpass => hback b hb (of_decide_eq_true hpass)
  unfold lastKeyed
  rw [List.filter_append, List.filter_cons_of_pos (by simpa using hkey), hnone]
  exact List.getLast?_concat

/-- What is found splits the list at the last value with the key. -/
theorem exists_append_cons_of_lastKeyed {a : α} (h : lastKeyed key values k = some a) :
    ∃ front back, values = front ++ a :: back ∧ key a = k ∧ ∀ b ∈ back, key b ≠ k := by
  obtain ⟨earlier, hfilter⟩ := List.getLast?_eq_some_iff.1 h
  -- Of what is left behind the earlier ones, the value is the first to have the key, and the only one.
  obtain ⟨front, rest, hvalues, -, hrest⟩ := List.filter_eq_append_iff.1 hfilter
  obtain ⟨others, back, rfl, -, hkey, hback⟩ := List.filter_eq_cons_iff.1 hrest
  rw [List.filter_eq_nil_iff] at hback
  refine ⟨front ++ others, back, ?_, of_decide_eq_true hkey, fun b hb heq => ?_⟩
  · rw [hvalues, List.append_assoc]
  · exact hback b hb (decide_eq_true heq)

/-- A scan is left with one thing and no other. -/
theorem foundLast_iff {found : Option α} :
    FoundLast key values k found ↔ found = lastKeyed key values k := by
  constructor
  · rintro (⟨front, a, back, rfl, hkey, hback⟩ | hnone)
    · exact (lastKeyed_append_cons hkey hback).symm
    · exact (lastKeyed_eq_none_iff.2 hnone).symm
  · rintro rfl
    cases hlast : lastKeyed key values k with
    | none => exact .missing (lastKeyed_eq_none_iff.1 hlast)
    | some a =>
      obtain ⟨front, back, hvalues, hkey, hback⟩ := exists_append_cons_of_lastKeyed hlast
      exact .found front a back hvalues hkey hback

end FoundLast

/-! ## Pools of machines -/

namespace Inventory

/-- The name of the pool that a machine is in, if it is in any that is known. -/
inductive InPool (inventory : Inventory) (m : VirtualMachine) : Option String → Prop where
  | unassigned (hnone : m.resourcePool = none) : InPool inventory m none
  | assigned (id : String) (pool : Option ResourcePool) (hid : m.resourcePool = some id)
    (hpool : FoundLast (·.id) inventory.resourcePools id pool) :
    InPool inventory m (pool.map (·.name))

/-- A machine is in one pool and no other, the one that the table has. -/
theorem inPool_iff {inventory : Inventory} {m : VirtualMachine} {name : Option String} :
    inventory.InPool m name ↔
      name = (m.resourcePool.bind ((tableBy (·.id) inventory.resourcePools)[·]?)).map (·.name) := by
  have htable (id : String) : (tableBy (·.id) inventory.resourcePools)[id]?
      = lastKeyed (·.id) inventory.resourcePools id := getElem?_tableBy _ _ id
  constructor
  · rintro (hnone | ⟨id, pool, hid, hpool⟩)
    · rw [hnone]
      rfl
    · rw [hid, Option.bind_some, htable, foundLast_iff.1 hpool]
  · rintro rfl
    cases hm : m.resourcePool with
    | none => exact .unassigned hm
    -- The pool is the last one listed with the identifier, should there be any.
    | some id =>
      rw [Option.bind_some, htable]
      exact .assigned id _ hm (foundLast_iff.2 rfl)

end Inventory

namespace Selection

variable {c : Criteria} {inventory : Inventory}

/-- A machine is kept for the name of the pool that it is in, besides what it is itself. -/
theorem exists_inPool_mem_virtualMachines_iff (c : Criteria) (inventory : Inventory)
    (m : VirtualMachine) :
    ∃ pool, (∀ name, inventory.InPool m name ↔ name = pool) ∧
      (m ∈ (c.select inventory).virtualMachines ↔ m ∈ inventory.virtualMachines ∧ ¬ m.isTemplate ∧
        c.keepsPool pool ∧ m.name ∉ c.ignoredMachines ∧ (c.poweredOff ∨ ¬ m.isPoweredOff)) := by
  refine ⟨_, fun name => Inventory.inPool_iff, ?_⟩
  have hselect : m ∈ (c.select inventory).virtualMachines ↔ m ∈ inventory.virtualMachines ∧
      c.keepsMachine (tableBy (·.id) inventory.resourcePools) m := List.mem_filter
  rw [hselect, Criteria.keepsMachine]
  simp only [Bool.and_eq_true, Bool.or_eq_true, not_contains_iff]
  simp only [Bool.not_eq_true', Bool.not_eq_true, and_assoc]

/-- An object has no value under a name exactly if no entry gives it one. -/
theorem attribute?_select_eq_none_iff {object name : String} :
    (c.select inventory).attribute? object name = none ↔
      ∀ e ∈ inventory.attributes, ¬ (e.object = object ∧ e.name = name) := by
  rw [attribute?_select, Inventory.attribute?, Option.map_eq_none_iff, lastKeyed_eq_none_iff]
  simp only [ne_eq, Prod.mk.injEq]

/-- **Every lookup is a plain scan, also where identifiers repeat.** Whatever the criteria, the host, the cluster
and the datastore that are found by an identifier are those listed last with it; a datastore counts as kept
exactly if one with its identifier has a name that is not ignored; the value of an attribute is that of the
entry listed last for the object and the name, and is missing only if there is no entry, for an empty value is
one; and machines are kept for the name of the pool that is listed last with the identifier they give. -/
theorem lookups_foundLast (c : Criteria) (inventory : Inventory) :
    let s := c.select inventory
    (∀ id, FoundLast (·.id) inventory.hosts id (s.host? id)) ∧
    (∀ id, FoundLast (·.id) inventory.clusters id (s.cluster? id)) ∧
    (∀ id, FoundLast (·.id) inventory.datastores id (s.datastore? id)) ∧
    (∀ id, s.hasDatastore id ↔
      ∃ d ∈ inventory.datastores, d.id = id ∧ d.name ∉ c.ignoredDatastores) ∧
    (∀ object name,
      (∃ entry, FoundLast (fun e => (e.object, e.name)) inventory.attributes (object, name) entry ∧
        s.attribute? object name = entry.map (·.value)) ∧
      (s.attribute? object name = none ↔
        ∀ e ∈ inventory.attributes, ¬ (e.object = object ∧ e.name = name))) ∧
    ∀ m, ∃ pool, (∀ name, inventory.InPool m name ↔ name = pool) ∧
      (m ∈ s.virtualMachines ↔ m ∈ inventory.virtualMachines ∧ ¬ m.isTemplate ∧
        c.keepsPool pool ∧ m.name ∉ c.ignoredMachines ∧ (c.poweredOff ∨ ¬ m.isPoweredOff)) := by
  -- Tables of one column are scans by themselves, the rest by the lemma for each.
  intro s
  refine ⟨fun id => ?_, fun id => ?_, fun id => ?_, fun id => ?_, fun object name => ⟨?_, ?_⟩, ?_⟩
  · rw [host?_select]
    exact foundLast_iff.2 rfl
  · rw [cluster?_select]
    exact foundLast_iff.2 rfl
  · rw [datastore?_select]
    exact foundLast_iff.2 rfl
  · rw [hasDatastore_select_iff]
    simp only [and_comm]
  · exact ⟨_, foundLast_iff.2 rfl, attribute?_select object name⟩
  · exact attribute?_select_eq_none_iff
  · exact exists_inPool_mem_virtualMachines_iff c inventory

end Selection

end InventoryProbe
