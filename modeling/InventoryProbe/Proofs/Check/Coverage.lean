import InventoryProbe.Proofs.Check.Built
import InventoryProbe.Proofs.Pairing
import InventoryProbe.Proofs.VersionPolicy

/-!
# Every check answers for its scope

What holds of every check that is built from settings, each fact by the three shapes that such a
check can have.

* **`objects_of_evaluate`**: the judgements are of exactly the objects of the scope, in its order.
* **`scope_sublist_objects`**: the scope names objects of the inventory, in the order in which it
  lists them.
* **`exists_evaluate_eq_error_iff`**: judging fails only where a default version is called for that
  is not known.
* **`exists_evaluate_noWorse_of_within`**: when objects go, the others are judged no worse.
* **`exists_evaluate_of_rearranged`**: objects in another order are judged as they were.
* **`evaluate_seen`**, **`scope_seen`**: of the inventory itself a check sees little.
-/

namespace InventoryProbe

namespace Check.Built

variable {s : Settings} {n : CheckName} {check : Check} {selection : Selection}

/-- A check is named as it was asked for. -/
theorem name_eq (h : Built s n check) : check.name = n.text := by
  cases h with
  | each judges => exact judges.name_eq
  | hardwareVersion => rfl
  | pairings => rfl

/-- A check judges exactly the objects of its scope. -/
theorem objects_of_evaluate (h : Built s n check) {judgements : List Judgement}
    (heval : check.evaluate selection = .ok judgements) :
    judgements.map (·.object) = check.scope selection := by
  cases h with
  | each judges => exact judges.objects_of_evaluate heval
  | hardwareVersion => exact VersionPolicy.objects_of_evaluate heval
  | @pairings plan =>
    cases heval
    exact plan.objects_evaluate selection

/-- Its scope holds objects of the inventory, in order. -/
theorem scope_sublist_objects (h : Built s n check) (c : Criteria) (inventory : Inventory) :
    (check.scope (c.select inventory)).Sublist inventory.objects := by
  cases h with
  | each judges lists =>
    rw [judges.scope_eq]
    exact lists.sublist c inventory
  | hardwareVersion => exact lists_machines.sublist c inventory
  | @pairings plan => exact plan.scope_sublist_objects c inventory

theorem scope_nodup (h : Built s n check) (c : Criteria) {inventory : Inventory}
    (hvalid : inventory.validate = .ok ()) : (check.scope (c.select inventory)).Nodup :=
  (Inventory.objects_nodup hvalid).sublist (h.scope_sublist_objects c inventory)

/-- Judging fails only where a default version is called for that is not known. -/
theorem exists_evaluate_eq_error_iff (h : Built s n check) :
    (∃ fault, check.evaluate selection = .error fault) ↔
      n = .hardwareVersion ∧ VersionPolicy.ofSettings s.version = .ok .defaultIsMinimum ∧
        ∃ m ∈ selection.virtualMachines, VersionPolicy.default? selection m = none := by
  -- Two of the shapes never fail, and neither can be the check that the right side speaks of.
  cases h with
  | each judges _ _ hname =>
    refine iff_of_false ?_ fun hfail => hname hfail.1
    rintro ⟨fault, heval⟩
    rw [judges.evaluate_eq] at heval
    cases heval
  | @hardwareVersion policy hpolicy =>
    have hiff := @VersionPolicy.exists_evaluate_eq_error_iff policy selection
    rw [hpolicy, Except.ok.injEq]
    exact hiff.trans (and_iff_right rfl).symm
  | pairings =>
    refine iff_of_false ?_ fun hfail => by cases hfail.1
    rintro ⟨fault, heval⟩
    cases heval

/-- A check fails for want of data, and for nothing else. -/
theorem unavailable_of_evaluate_eq_error (h : Built s n check) {fault : EvaluationFault}
    (heval : check.evaluate selection = .error fault) : ∃ reason, fault = .unavailable reason := by
  cases h with
  | each judges =>
    rw [judges.evaluate_eq] at heval
    cases heval
  | hardwareVersion => exact VersionPolicy.unavailable_of_evaluate_eq_error heval
  | pairings => cases heval

/-- No object is judged `unknown`. -/
theorem severity_ne_unknown (h : Built s n check) {judgements : List Judgement}
    (heval : check.evaluate selection = .ok judgements) {j : Judgement} (hj : j ∈ judgements) :
    j.severity ≠ .unknown := by
  -- The three shapes: each object by itself, versions and pairings.
  cases h with
  | each judges _ standalone =>
    rw [judges.eq_map_of_evaluate heval] at hj
    obtain ⟨object, -, rfl⟩ := List.mem_map.1 hj
    exact standalone.conclusive selection object
  | hardwareVersion => exact VersionPolicy.severity_ne_unknown_of_evaluate heval hj
  | pairings =>
    cases heval
    exact PairingPlan.severity_ne_unknown_of_mem_evaluate hj

/-! ## Fewer objects -/

/-- Its scope among fewer objects is a part of that among more. -/
theorem scope_sublist_of_within (h : Built s n check) {a b : Selection} (hwithin : a.Within b) :
    (check.scope a).Sublist (check.scope b) := by
  cases h with
  | each judges lists =>
    rw [judges.scope_eq, judges.scope_eq]
    exact (lists.mono hwithin).map _
  | hardwareVersion => exact (lists_machines.mono hwithin).map _
  | pairings => exact PairingPlan.scope_sublist_of_within hwithin

/-- When objects go, the others can still be judged, and are judged no worse. -/
theorem exists_evaluate_noWorse_of_within (h : Built s n check) {a b : Selection}
    (hwithin : a.Within b) {more : List Judgement} (heval : check.evaluate b = .ok more) :
    ∃ fewer, check.evaluate a = .ok fewer ∧ Judgement.NoWorse fewer more := by
  cases h with
  | @each n check α objects ref judge judges lists standalone =>
    obtain rfl := judges.eq_map_of_evaluate heval
    refine ⟨_, judges.evaluate_eq a, fun j hj => ?_⟩
    obtain ⟨object, hobject, rfl⟩ := List.mem_map.1 hj
    -- The verdict does not look at what else is kept, so it is the same in both selections.
    have hmem := List.mem_map_of_mem (f := fun x => (⟨judge b x, ref x⟩ : Judgement))
      ((lists.mono hwithin).subset hobject)
    rw [standalone.frame hwithin.sameTables.collectedAt_eq]
    exact ⟨_, hmem, rfl, Severity.le_refl _⟩
  | hardwareVersion => exact VersionPolicy.exists_evaluate_noWorse_of_within hwithin heval
  | pairings =>
    cases heval
    exact ⟨_, rfl, PairingPlan.noWorse_evaluate_of_within hwithin⟩

/-! ## Objects in another order -/

/-- Objects in another order are judged as they are in this one. -/
theorem exists_evaluate_of_rearranged (h : Built s n check) {a b : Selection}
    (hre : a.Rearranged b) {judgements : List Judgement} (heval : check.evaluate a = .ok judgements) :
    ∃ rearranged, check.evaluate b = .ok rearranged ∧ judgements.Perm rearranged := by
  cases h with
  | each judges lists standalone =>
    obtain rfl := judges.eq_map_of_evaluate heval
    refine ⟨_, judges.evaluate_eq b, ?_⟩
    -- The verdicts depend on the moment of the inventory, which is the same.
    rw [standalone.frame hre.collectedAt_eq]
    exact (lists.perm hre).map _
  | hardwareVersion => exact VersionPolicy.exists_evaluate_of_rearranged hre heval
  | pairings =>
    cases heval
    exact ⟨_, rfl, PairingPlan.evaluate_perm_of_rearranged hre⟩

/-! ## What is not seen

Besides the kept objects and the tables, none of the three shapes looks at more of an inventory than
`seen` leaves of it. -/

/-- Judging goes by what is seen of an inventory, and by nothing else. -/
theorem evaluate_seen (h : Built s n check) (selection : Selection) :
    check.evaluate selection.seen = check.evaluate selection := by
  cases h with
  | @each n check α objects ref judge judges lists standalone =>
    have hjudge : judge selection.seen = judge selection := standalone.frame rfl
    rw [judges.evaluate_eq, judges.evaluate_eq, lists.seen, hjudge]
  | hardwareVersion => rfl
  | pairings => rfl

theorem scope_seen (h : Built s n check) (selection : Selection) :
    check.scope selection.seen = check.scope selection := by
  cases h with
  | each judges lists => rw [judges.scope_eq, judges.scope_eq, lists.seen]
  | hardwareVersion => rfl
  | pairings => rfl

end Check.Built

end InventoryProbe
