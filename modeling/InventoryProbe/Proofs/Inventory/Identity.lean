import Mathlib.Data.List.Nodup
import InventoryProbe.Inventory.Identity

/-!
# Inventories without repetitions

An inventory that is not refused uses no pair of kind and identifier twice, and so holds no object
twice. Names play no part.
-/

namespace InventoryProbe

/-- The search finds nothing exactly if no identity was there before or comes again. -/
theorem firstRepeated_eq_none_iff (seen : List (ObjectKind × String)) (objects : List ObjectRef) :
    firstRepeated seen objects = none ↔
      (objects.map ObjectRef.identity).Nodup ∧ ∀ object ∈ objects, object.identity ∉ seen := by
  induction objects generalizing seen with
  | nil => simp [firstRepeated]
  | cons object rest ih =>
    rw [firstRepeated]
    split
    · next hseen =>
      refine iff_of_false (by simp) ?_
      rintro ⟨-, hunseen⟩
      exact hunseen object List.mem_cons_self hseen
    · next hunseen =>
      rw [ih, List.map_cons, List.nodup_cons, List.forall_mem_cons]
      constructor
      · rintro ⟨hnodup, hrest⟩
        refine ⟨⟨fun hmem => ?_, hnodup⟩, hunseen, fun other hother hin => ?_⟩
        · obtain ⟨other, hother, heq⟩ := List.mem_map.1 hmem
          exact hrest other hother (heq ▸ List.mem_cons_self)
        · exact hrest other hother (List.mem_cons_of_mem _ hin)
      · rintro ⟨⟨hnot, hnodup⟩, -, hrest⟩
        refine ⟨hnodup, fun other hother hin => ?_⟩
        -- What was seen is the first object or was seen before.
        rcases List.mem_cons.1 hin with heq | hin
        · exact hnot (heq ▸ List.mem_map_of_mem hother)
        · exact hrest other hother hin

/-- The search finds the object behind the first objects that repeat nothing. -/
theorem firstRepeated_eq_some_iff {seen : List (ObjectKind × String)} {objects : List ObjectRef}
    {object : ObjectRef} :
    firstRepeated seen objects = some object ↔
      ∃ front back, objects = front ++ object :: back ∧ firstRepeated seen front = none ∧
        (object.identity ∈ seen ∨ ∃ earlier ∈ front, earlier.identity = object.identity) := by
  induction objects generalizing seen with
  | nil => simp [firstRepeated]
  | cons first rest ih =>
    rw [firstRepeated]
    split
    · next hseen =>
      constructor
      · rintro ⟨⟩
        exact ⟨[], rest, rfl, rfl, .inl hseen⟩
      · rintro ⟨_ | ⟨other, front⟩, back, heq, hfront, -⟩
        · exact congrArg some (List.cons.inj heq).1
        · -- The search would not have gone past the first object.
          cases heq
          rw [firstRepeated, if_pos hseen] at hfront
          cases hfront
    · next hunseen =>
      rw [ih]
      constructor
      · rintro ⟨front, back, rfl, hfront, hrepeats⟩
        -- What comes again was seen before, or is the first object, or stands behind it.
        refine ⟨first :: front, back, rfl, by rwa [firstRepeated, if_neg hunseen], ?_⟩
        rcases hrepeats with hmem | ⟨earlier, hearlier, hsame⟩
        · rcases List.mem_cons.1 hmem with hfirst | hmem
          · exact .inr ⟨first, List.mem_cons_self, hfirst.symm⟩
          · exact .inl hmem
        · exact .inr ⟨earlier, List.mem_cons_of_mem first hearlier, hsame⟩
      · rintro ⟨_ | ⟨other, front⟩, back, heq, hfront, hrepeats⟩
        · cases heq
          simp [hunseen] at hrepeats
        · cases heq
          rw [firstRepeated, if_neg hunseen] at hfront
          refine ⟨front, back, rfl, hfront, ?_⟩
          rcases hrepeats with hmem | ⟨earlier, hearlier, hsame⟩
          · exact .inl (List.mem_cons_of_mem _ hmem)
          · rcases List.mem_cons.1 hearlier with rfl | hearlier
            · exact .inl (hsame ▸ List.mem_cons_self)
            · exact .inr ⟨earlier, hearlier, hsame⟩

namespace Inventory

/-- An inventory passes exactly if no two of its objects share kind and identifier. -/
theorem validate_eq_ok_iff {inventory : Inventory} :
    inventory.validate = .ok () ↔ (inventory.objects.map ObjectRef.identity).Nodup := by
  have hnone := firstRepeated_eq_none_iff [] inventory.objects
  unfold validate
  cases hfirst : firstRepeated [] inventory.objects with
  | none => simpa [hfirst] using hnone
  | some object => simpa [hfirst] using hnone

/-- The objects that can be judged, kind by kind. -/
theorem objects_eq (inventory : Inventory) :
    inventory.objects = inventory.hosts.map (·.ref) ++ inventory.datastores.map (·.ref)
      ++ inventory.virtualMachines.map (·.ref) ++ inventory.resourcePools.map (·.ref)
      ++ inventory.alarms.map (·.ref) := by
  unfold objects located
  simp only [List.map_append, List.map_map]
  rfl

theorem objects_nodup {inventory : Inventory} (h : inventory.validate = .ok ()) :
    inventory.objects.Nodup :=
  (validate_eq_ok_iff.1 h).of_map ObjectRef.identity

/-- That no identifier is used twice among the objects of one kind. -/
structure IdsDiffer (inventory : Inventory) : Prop where
  hosts : (inventory.hosts.map (·.id)).Nodup
  datastores : (inventory.datastores.map (·.id)).Nodup
  machines : (inventory.virtualMachines.map (·.id)).Nodup
  pools : (inventory.resourcePools.map (·.id)).Nodup
  alarms : (inventory.alarms.map (·.key)).Nodup

/-- Objects of one kind differ in identity exactly if they differ in identifier. -/
theorem nodup_identities_iff {α : Type} (kind : ObjectKind) (ref : α → ObjectRef) (id : α → String)
    (objects : List α) (h : ∀ a, (ref a).identity = (kind, id a)) :
    ((objects.map ref).map ObjectRef.identity).Nodup ↔ (objects.map id).Nodup := by
  have hidentities : (objects.map ref).map ObjectRef.identity
      = (objects.map id).map (Prod.mk kind) := by
    rw [List.map_map, List.map_map]
    exact List.map_congr_left fun a _ => h a
  rw [hidentities]
  exact List.nodup_map_iff fun _ _ heq => congrArg Prod.snd heq

/-- An inventory is accepted exactly if the objects of each kind differ in their identifiers; those of
two kinds may share one. -/
theorem validate_eq_ok_iff_idsDiffer {inventory : Inventory} :
    inventory.validate = .ok () ↔ inventory.IdsDiffer := by
  have hhosts := nodup_identities_iff .host (·.ref) (·.id) inventory.hosts fun _ => rfl
  have hdatastores :=
    nodup_identities_iff .datastore (·.ref) (·.id) inventory.datastores fun _ => rfl
  have hmachines :=
    nodup_identities_iff .virtualMachine (·.ref) (·.id) inventory.virtualMachines fun _ => rfl
  have hpools :=
    nodup_identities_iff .resourcePool (·.ref) (·.id) inventory.resourcePools fun _ => rfl
  have halarms := nodup_identities_iff .alarm (·.ref) (·.key) inventory.alarms fun _ => rfl
  rw [validate_eq_ok_iff, objects_eq]
  simp only [List.map_append, List.nodup_append, hhosts, hdatastores, hmachines, hpools, halarms]
  constructor
  · rintro ⟨⟨⟨⟨hh, hd, -⟩, hm, -⟩, hp, -⟩, ha, -⟩
    exact ⟨hh, hd, hm, hp, ha⟩
  · rintro ⟨hh, hd, hm, hp, ha⟩
    -- Identities of two kinds differ in the kind.
    refine ⟨⟨⟨⟨hh, hd, ?_⟩, hm, ?_⟩, hp, ?_⟩, ha, ?_⟩
    all_goals
      grind [ObjectRef.identity, Host.ref, Datastore.ref, VirtualMachine.ref, ResourcePool.ref,
        Alarm.ref]

end Inventory

end InventoryProbe
