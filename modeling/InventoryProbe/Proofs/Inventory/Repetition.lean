import InventoryProbe.Proofs.Inventory.Identity
import InventoryProbe.Proofs.Selection.Lookup

/-!
# Repetitions in inventories

An inventory is refused for the first of its objects that has the kind and the identifier of one listed
before it. Where none has, an identifier belongs to one host at most and to one datastore at most, so that
every selection finds both by it.

* **`Inventory.validate_eq_error_iff`**: the object that is told is the first to repeat another.
* **`Inventory.validate_repetition`**: which inventories are accepted, what the others are refused for,
  and that what is accepted can be looked up.
-/

namespace InventoryProbe

/-- Two objects have one identity if they share kind and identifier. -/
theorem ObjectRef.identity_eq_iff {a b : ObjectRef} :
    a.identity = b.identity ↔ a.kind = b.kind ∧ a.id = b.id := Prod.ext_iff

/-- Identities without repetition, object by object. -/
theorem nodup_identities_iff_pairwise {objects : List ObjectRef} :
    (objects.map ObjectRef.identity).Nodup ↔
      objects.Pairwise fun a b => ¬ (a.kind = b.kind ∧ a.id = b.id) := by
  unfold List.Nodup
  rw [List.pairwise_map]
  simp only [ne_eq, ObjectRef.identity_eq_iff]

namespace Inventory

variable {inventory : Inventory}

/-- An inventory is refused for the first object whose identity one in front of it has. -/
theorem validate_eq_error_iff {message : String} :
    inventory.validate = .error message ↔
      ∃ front object back, inventory.objects = front ++ object :: back ∧
        (front.map ObjectRef.identity).Nodup ∧
        (∃ earlier ∈ front, earlier.identity = object.identity) ∧ repetition object = message := by
  -- The message is about the object that the search finds.
  have hvalidate : inventory.validate = .error message ↔
      ∃ object, firstRepeated [] inventory.objects = some object ∧ repetition object = message := by
    unfold validate
    cases firstRepeated [] inventory.objects with
    | none => simp
    | some object => simp
  -- No object in front of the first repeated one is repeated.
  have hnone (front : List ObjectRef) :
      firstRepeated [] front = none ↔ (front.map ObjectRef.identity).Nodup := by
    simp [firstRepeated_eq_none_iff]
  rw [hvalidate]
  simp only [firstRepeated_eq_some_iff, hnone, List.not_mem_nil, false_or]
  constructor
  · rintro ⟨object, ⟨front, back, hobjects, hfront, hrepeats⟩, hmessage⟩
    exact ⟨front, object, back, hobjects, hfront, hrepeats, hmessage⟩
  · rintro ⟨front, object, back, hobjects, hfront, hrepeats, hmessage⟩
    exact ⟨object, ⟨front, back, hobjects, hfront, hrepeats⟩, hmessage⟩

/-- In an inventory that passes each host is found by its identifier. -/
theorem host?_of_validate (h : inventory.validate = .ok ()) (c : Criteria) {host : Host}
    (hmem : host ∈ inventory.hosts) : (c.select inventory).host? host.id = some host := by
  rw [Selection.host?_select]
  exact lastKeyed_of_nodup (validate_eq_ok_iff_idsDiffer.1 h).hosts hmem

theorem datastore?_of_validate (h : inventory.validate = .ok ()) (c : Criteria) {d : Datastore}
    (hmem : d ∈ inventory.datastores) : (c.select inventory).datastore? d.id = some d := by
  rw [Selection.datastore?_select]
  exact lastKeyed_of_nodup (validate_eq_ok_iff_idsDiffer.1 h).datastores hmem

/-- **An inventory is refused for the first repetition, and without one everything is found by its
identifier.** No two objects of one kind may share an identifier, whatever they are called; objects of
two kinds may. The object that is told is the first one that has the kind and the identifier of one
listed before it, where hosts come first, then datastores, machines, resource pools and alarms. In what is
accepted, every selection finds each host and each datastore, even if it does not keep it. -/
theorem validate_repetition (inventory : Inventory) :
    let objects := inventory.hosts.map (·.ref) ++ inventory.datastores.map (·.ref)
      ++ inventory.virtualMachines.map (·.ref) ++ inventory.resourcePools.map (·.ref)
      ++ inventory.alarms.map (·.ref)
    (inventory.validate = .ok () ↔
      objects.Pairwise fun a b => ¬ (a.kind = b.kind ∧ a.id = b.id)) ∧
    (∀ message, inventory.validate = .error message ↔
      ∃ front object back, objects = front ++ object :: back ∧
        (front.Pairwise fun a b => ¬ (a.kind = b.kind ∧ a.id = b.id)) ∧
        (∃ earlier ∈ front, earlier.kind = object.kind ∧ earlier.id = object.id) ∧
        "duplicate " ++ object.kind.text ++ " identifier '" ++ object.id ++ "' in inventory snapshot"
          = message) ∧
    (inventory.validate = .ok () → ∀ c : Criteria,
      (∀ host ∈ inventory.hosts, (c.select inventory).host? host.id = some host) ∧
      ∀ d ∈ inventory.datastores, (c.select inventory).datastore? d.id = some d) := by
  intro objects
  have hobjects : inventory.objects = objects := inventory.objects_eq
  refine ⟨?_, fun message => ?_, fun h c => ?_⟩
  · rw [validate_eq_ok_iff, nodup_identities_iff_pairwise, hobjects]
  · rw [validate_eq_error_iff, hobjects]
    simp only [nodup_identities_iff_pairwise, ObjectRef.identity_eq_iff]
    rfl
  · exact ⟨fun host hmem => host?_of_validate h c hmem, fun d hmem => datastore?_of_validate h c hmem⟩

/-! ## One identifier for a host and a datastore -/

/-- A host and a datastore with one identifier, and two datastores with one name. -/
def sharedId : Inventory :=
  { Inventory.empty ⟨⟨2024, 2, 29, by decide, by decide, by decide⟩, 43200, 500000000, by decide,
      by decide, by decide⟩ with
    hosts := [⟨"1", "esx-1", none, none, 0, 0, 0, 0, false, none⟩]
    datastores := [⟨"1", "ssd", none, 0, 0, true⟩, ⟨"2", "ssd", none, 0, 0, true⟩] }

/-- A shared identifier of different kinds is no repetition, and both objects are found by it. -/
theorem sharedId_found :
    sharedId.validate = .ok () ∧ ∀ c : Criteria,
      (∀ host ∈ sharedId.hosts, (c.select sharedId).host? host.id = some host) ∧
      ∀ d ∈ sharedId.datastores, (c.select sharedId).datastore? d.id = some d := by
  have hvalid : sharedId.validate = .ok () := by decide
  exact ⟨hvalid, (validate_repetition sharedId).2.2 hvalid⟩

end Inventory

end InventoryProbe
