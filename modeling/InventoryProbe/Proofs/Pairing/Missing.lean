import InventoryProbe.Proofs.Pairing
import InventoryProbe.Proofs.Selection.Lookup

/-!
# Objects without a key

Whether hosts and datastores without the attribute of their rule are passed over or found fault with is
asked in two places, for the scope and for the judgements. In both places the answer takes those objects
away and does nothing else: no machine is judged by it, and no other object either.
-/

namespace InventoryProbe

namespace PairingPlan

variable {plan : PairingPlan} {s : Selection}

/-- Whether an object has not the attribute that its kind is keyed by. Only hosts and datastores are
keyed. -/
def lacks (plan : PairingPlan) (inventory : Inventory) (object : ObjectRef) : Bool :=
  match object.kind with
  | .host => (inventory.attribute? object.id plan.host.source).isNone
  | .datastore => (inventory.attribute? object.id plan.datastore.source).isNone
  | .virtualMachine | .resourcePool | .alarm => false

/-! ## One object -/

/-- Passing over what is missing takes away the judgement on an object without the attribute. -/
theorem judgeKey?_ignoring {rule : KeyRule} {object : ObjectRef} :
    judgeKey? { plan with ignoreMissing := true } rule s object
      = (judgeKey? { plan with ignoreMissing := false } rule s object).filter
          fun _ => !(s.attribute? object.id rule.source).isNone := by
  unfold judgeKey? key?
  cases s.attribute? object.id rule.source with
  | none => rfl
  | some value => rfl

/-- It takes the object out of the scope as well. -/
theorem judges_ignoring {rule : KeyRule} {id : String} :
    judges { plan with ignoreMissing := true } rule s id
      = (judges { plan with ignoreMissing := false } rule s id
          && !(s.attribute? id rule.source).isNone) := by
  unfold judges
  cases s.attribute? id rule.source with
  | none => rfl
  | some value => rfl

/-- Objects that are passed over have no key, and objects that are found fault with have none either, so that
the keys of hosts are the same. -/
theorem hostKeys_ignoring (ignored : Bool) :
    hostKeys { plan with ignoreMissing := ignored } s = hostKeys plan s :=
  keys_index_eq (.refl s) fun _ => Iff.rfl

/-- So are those of datastores. -/
theorem datastoreKeys_ignoring (ignored : Bool) :
    datastoreKeys { plan with ignoreMissing := ignored } s = datastoreKeys plan s :=
  keys_index_eq (.refl s) fun _ => Iff.rfl

/-- No verdict on a machine asks whether objects are passed over. -/
theorem judgeMachine_ignoring (ignored : Bool) (m : VirtualMachine) :
    let other := { plan with ignoreMissing := ignored }
    judgeMachine other s (hostKeys other s) (datastoreKeys other s) m
      = judgeMachine plan s (hostKeys plan s) (datastoreKeys plan s) m := by
  intro other
  rw [hostKeys_ignoring, datastoreKeys_ignoring]
  rfl

/-! ## Objects of one kind -/

/-- The judgements that are left are those on objects that lack nothing. -/
theorem filterMap_judgeKey?_ignoring {rule : KeyRule} {objects : List ObjectRef}
    {lacking : ObjectRef → Bool}
    (hlacking : ∀ object ∈ objects, lacking object = (s.attribute? object.id rule.source).isNone) :
    objects.filterMap (judgeKey? { plan with ignoreMissing := true } rule s)
      = (objects.filterMap (judgeKey? { plan with ignoreMissing := false } rule s)).filter
          fun j => !lacking j.object := by
  rw [List.filter_filterMap]
  refine List.filterMap_congr fun object hobject => ?_
  rw [judgeKey?_ignoring, ← hlacking object hobject]
  cases hjudge : judgeKey? { plan with ignoreMissing := false } rule s object with
  | none => rfl
  | some j =>
    -- The judgement is on the object that it was made of.
    rw [Option.filter_some, Option.filter_some, object_of_judgeKey? hjudge]

/-- So are the objects that are left in the scope. -/
theorem filter_judges_ignoring {rule : KeyRule} {objects : List ObjectRef}
    {lacking : ObjectRef → Bool}
    (hlacking : ∀ object ∈ objects, lacking object = (s.attribute? object.id rule.source).isNone) :
    objects.filter (fun object => judges { plan with ignoreMissing := true } rule s object.id)
      = (objects.filter fun object =>
          judges { plan with ignoreMissing := false } rule s object.id).filter
            fun object => !lacking object := by
  rw [List.filter_filter]
  refine List.filter_congr fun object hobject => ?_
  rw [judges_ignoring, hlacking object hobject, Bool.and_comm]

/-! ## All objects -/

/-- **Passing over what is missing takes its findings away and changes nothing else.** The judgements
and the scope of a plan that passes over objects without the attribute are those of the plan that finds
fault with them, in order, without the hosts and datastores that lack it. -/
theorem evaluate_ignoring (plan : PairingPlan) (c : Criteria) (inventory : Inventory) :
    evaluate { plan with ignoreMissing := true } (c.select inventory)
        = (evaluate { plan with ignoreMissing := false } (c.select inventory)).filter
            (fun j => !plan.lacks inventory j.object) ∧
      scope { plan with ignoreMissing := true } (c.select inventory)
        = (scope { plan with ignoreMissing := false } (c.select inventory)).filter
            (fun object => !plan.lacks inventory object) := by
  have hhosts : ∀ object ∈ (c.select inventory).hosts.map (·.ref), plan.lacks inventory object
      = ((c.select inventory).attribute? object.id plan.host.source).isNone := by
    intro object hobject
    obtain ⟨host, -, rfl⟩ := List.mem_map.1 hobject
    rw [Selection.attribute?_select]
    rfl
  have hdatastores : ∀ object ∈ (c.select inventory).datastores.map (·.ref),
      plan.lacks inventory object
        = ((c.select inventory).attribute? object.id plan.datastore.source).isNone := by
    intro object hobject
    obtain ⟨d, -, rfl⟩ := List.mem_map.1 hobject
    rw [Selection.attribute?_select]
    rfl
  -- Machines lack nothing, for they are not keyed.
  have hmachines : ∀ m : VirtualMachine, plan.lacks inventory m.ref = false := fun _ => rfl
  constructor
  · have hjudge := @judgeMachine_ignoring plan (c.select inventory)
    rw [evaluate_eq, evaluate_eq, List.filter_append, List.filter_append,
      filterMap_judgeKey?_ignoring hhosts, filterMap_judgeKey?_ignoring hdatastores, List.filter_map]
    simp [Function.comp_def, hmachines, hjudge]
  · have hkept : ((c.select inventory).virtualMachines.map (·.ref)).filter
        (fun object => !plan.lacks inventory object)
          = (c.select inventory).virtualMachines.map (·.ref) := by
      simp [List.filter_map, Function.comp_def, hmachines]
    unfold scope
    rw [List.filter_append, List.filter_append, filter_judges_ignoring hhosts,
      filter_judges_ignoring hdatastores, hkept]

end PairingPlan

end InventoryProbe
