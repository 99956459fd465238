import Mathlib.Data.List.Induction
import InventoryProbe.Pairing
import InventoryProbe.Proofs.Selection
import InventoryProbe.Proofs.Table

/-!
# What a selection finds

A selection finds hosts, clusters, datastores and attributes in tables. Each table holds what a scan of
the inventory finds, whatever the criteria keep: the entry listed last of those that are asked for.

References may dangle, so that a scan finds nothing where an identifier is that of no object.
-/

namespace InventoryProbe

/-- The last of the values that have a key. -/
def lastKeyed {α κ : Type} [DecidableEq κ] (key : α → κ) (values : List α) (k : κ) : Option α :=
  (values.filter (key · = k)).getLast?

section LastKeyed

variable {α κ : Type} [DecidableEq κ] {key : α → κ} {values : List α} {k : κ}

/-- A value with the key takes the place of every one in front of it. -/
theorem lastKeyed_concat (key : α → κ) (values : List α) (a : α) (k : κ) :
    lastKeyed key (values ++ [a]) k = if key a = k then some a else lastKeyed key values k := by
  unfold lastKeyed
  rw [List.filter_append, List.filter_singleton]
  by_cases hkey : key a = k
  · simp [hkey]
  · simp [hkey]

/-- What is found is one of the values, and has the key. -/
theorem mem_of_lastKeyed {a : α} (h : lastKeyed key values k = some a) : a ∈ values ∧ key a = k := by
  have hmem : a ∈ values.filter (key · = k) := List.mem_of_getLast? h
  simpa using hmem

theorem lastKeyed_eq_none_iff : lastKeyed key values k = none ↔ ∀ a ∈ values, key a ≠ k := by
  unfold lastKeyed
  simp

/-- Where no two values share a key, each value is found by its own. -/
theorem lastKeyed_of_nodup (hnodup : (values.map key).Nodup) {a : α} (ha : a ∈ values) :
    lastKeyed key values (key a) = some a := by
  unfold lastKeyed
  rw [filter_key_eq_singleton hnodup ha, List.getLast?_singleton]

end LastKeyed

namespace Inventory

/-- The host with an identifier, of several the one listed last. -/
def host? (inventory : Inventory) (id : String) : Option Host :=
  lastKeyed (·.id) inventory.hosts id

/-- The cluster with an identifier, of several the one listed last. -/
def cluster? (inventory : Inventory) (id : String) : Option Cluster :=
  lastKeyed (·.id) inventory.clusters id

/-- The datastore with an identifier, of several the one listed last. -/
def datastore? (inventory : Inventory) (id : String) : Option Datastore :=
  lastKeyed (·.id) inventory.datastores id

/-- The value of an attribute of an object, of several the one listed last. -/
def attribute? (inventory : Inventory) (object name : String) : Option String :=
  (lastKeyed (fun e => (e.object, e.name)) inventory.attributes (object, name)).map (·.value)

/-- The key that a rule gives an object, if the object has the attribute of the rule. -/
def key? (inventory : Inventory) (rule : KeyRule) (id : String) : Option PairingKey :=
  (inventory.attribute? id rule.source).map (PairingKey.derive · rule.separator)

end Inventory

/-! ## Tables and scans -/

/-- One more entry changes what is found for its own object and name, and nothing else. -/
theorem AttributeTable.value?_add (table : AttributeTable) (e : AttributeEntry) (object name : String) :
    (table.add e).value? object name
      = if (e.object, e.name) = (object, name) then some e.value else table.value? object name := by
  unfold add value?
  rw [Std.ExtTreeMap.getElem?_insert]
  simp only [Std.compare_eq_iff_eq, Prod.mk.injEq]
  by_cases hobject : e.object = object
  · subst hobject
    rw [if_pos rfl, Option.bind_some, Std.ExtTreeMap.getElem?_insert]
    simp only [Std.compare_eq_iff_eq, true_and]
    -- An object that is new to the table has had no value under any name.
    cases table[e.object]? with
    | none => simp
    | some values => rfl
  · rw [if_neg hobject, if_neg fun h => hobject h.1]

/-- The table finds what a scan of the entries finds. Induction on the entries from the last one on, which
decides for its own object and name. -/
theorem value?_attributeTable (entries : List AttributeEntry) (object name : String) :
    (attributeTable entries).value? object name
      = (lastKeyed (fun e => (e.object, e.name)) entries (object, name)).map (·.value) := by
  induction entries using List.reverseRecOn with
  | nil =>
    show ((∅ : AttributeTable)[object]?).bind (·[name]?) = none
    rw [Std.ExtTreeMap.getElem?_empty]
    rfl
  | append_singleton entries e ih =>
    have hadd : attributeTable (entries ++ [e]) = (attributeTable entries).add e := List.foldl_append
    rw [hadd, AttributeTable.value?_add, lastKeyed_concat, ih]
    -- The last entry is the one that is asked for, or is of no account.
    split
    · rfl
    · rfl

theorem not_contains_iff {names : Std.ExtTreeSet String} {name : String} :
    (!names.contains name) ↔ name ∉ names := by
  rw [Bool.not_eq_true', ← Bool.not_eq_true, Std.ExtTreeSet.mem_iff_contains]

namespace Selection

variable {c : Criteria} {inventory : Inventory}

theorem host?_select (id : String) : (c.select inventory).host? id = inventory.host? id :=
  getElem?_tableBy Host.id inventory.hosts id

theorem cluster?_select (id : String) : (c.select inventory).cluster? id = inventory.cluster? id :=
  getElem?_tableBy Cluster.id inventory.clusters id

theorem datastore?_select (id : String) :
    (c.select inventory).datastore? id = inventory.datastore? id :=
  getElem?_tableBy Datastore.id inventory.datastores id

theorem attribute?_select (object name : String) :
    (c.select inventory).attribute? object name = inventory.attribute? object name :=
  value?_attributeTable inventory.attributes object name

/-- A datastore is kept unless it is ignored by name. -/
theorem hasDatastore_select_iff {id : String} :
    (c.select inventory).hasDatastore id ↔
      ∃ d ∈ inventory.datastores, d.name ∉ c.ignoredDatastores ∧ d.id = id := by
  have hkeeps (d : Datastore) : c.keepsDatastore d ↔ d.name ∉ c.ignoredDatastores :=
    not_contains_iff
  rw [hasDatastore_select]
  simp only [hkeeps]

/-- A datastore is not found exactly if the inventory has none with its identifier. -/
theorem datastore?_select_eq_none_iff {id : String} :
    (c.select inventory).datastore? id = none ↔ ∀ d ∈ inventory.datastores, d.id ≠ id := by
  rw [datastore?_select]
  exact lastKeyed_eq_none_iff

end Selection

/-- Keys are those of the inventory. -/
theorem PairingPlan.key?_select {c : Criteria} {inventory : Inventory} (rule : KeyRule)
    (id : String) : PairingPlan.key? rule (c.select inventory) id = inventory.key? rule id := by
  unfold PairingPlan.key? Inventory.key?
  rw [Selection.attribute?_select]

end InventoryProbe
