import Mathlib.Data.List.Induction
import InventoryProbe.Pairing
import InventoryProbe.Proofs.Inventory.Identity
import InventoryProbe.Proofs.Judgement
import InventoryProbe.Proofs.Selection.Rearranged

/-!
# Judging by a pairing plan

Which objects are judged is decided twice: by `judges` for the scope, and by `judgeKey?` when the
judgements are made. The two agree, so the judgements are those of the scope.

A machine's verdict looks at the datastores that are kept. Fewer of them can only take complaints
away: a datastore that is no longer kept is still one of the inventory, and so not missing.

* **`judgements_index`**, **`getElem?_keys_index`**: what going through objects leaves behind: the
  judgements on those that are judged, and for each identifier that was met the key of its attribute.
* **`objects_evaluate`**: the objects judged are those of the scope.
* **`compare_of_within`**: what becomes of a comparison when fewer datastores are kept.
-/

namespace InventoryProbe

open Std (ExtTreeMap)

namespace PairingPlan

variable {plan : PairingPlan}

/-! ## Hosts and datastores -/

/-- Keys are looked up in the attributes, and so in nothing that criteria have a say in. -/
theorem key?_of_sameTables {a b : Selection} (h : a.SameTables b) (rule : KeyRule) (id : String) :
    key? rule a id = key? rule b id := by
  unfold key?
  rw [h.attribute?_eq]

/-- Hosts and datastores are judged by their keys alone. -/
theorem judgeKey?_of_sameTables {a b : Selection} (h : a.SameTables b) (rule : KeyRule)
    (object : ObjectRef) : plan.judgeKey? rule a object = plan.judgeKey? rule b object := by
  unfold judgeKey?
  rw [key?_of_sameTables h]

/-- An object is judged exactly if the scope has it. -/
theorem isSome_judgeKey? (plan : PairingPlan) (rule : KeyRule) (s : Selection)
    (object : ObjectRef) :
    (plan.judgeKey? rule s object).isSome = plan.judges rule s object.id := by
  unfold judgeKey? key? judges
  cases s.attribute? object.id rule.source with
  | none =>
    cases plan.ignoreMissing with
    | false => rfl
    | true => rfl
  | some value => simp

/-- A judgement is on the object that it was made of. -/
theorem object_of_judgeKey? {rule : KeyRule} {s : Selection} {object : ObjectRef} {j : Judgement}
    (h : plan.judgeKey? rule s object = some j) : j.object = object := by
  unfold judgeKey? at h
  split at h
  · cases h
    rfl
  · split at h
    · cases h
    · cases h
      rfl

/-- An object with a key is well, and one without is critical. -/
theorem severity_ne_unknown_of_judgeKey? {rule : KeyRule} {s : Selection} {object : ObjectRef}
    {j : Judgement} (h : plan.judgeKey? rule s object = some j) : j.severity ≠ .unknown := by
  unfold judgeKey? at h
  split at h
  · cases h
    exact nofun
  · split at h
    · cases h
    · cases h
      exact nofun

/-- The judgements that are made are of the objects that are to be judged. -/
theorem map_object_filterMap_judgeKey? (plan : PairingPlan) (rule : KeyRule) (s : Selection)
    (objects : List ObjectRef) :
    (objects.filterMap (plan.judgeKey? rule s)).map (·.object)
      = objects.filter (fun object => plan.judges rule s object.id) := by
  induction objects with
  | nil => rfl
  | cons object rest ih =>
    have hsome := isSome_judgeKey? plan rule s object
    cases hjudge : plan.judgeKey? rule s object with
    | none =>
      -- not judged, and so not in the scope
      rw [hjudge, Option.isSome_none] at hsome
      rw [List.filterMap_cons_none hjudge, List.filter_cons_of_neg (by simp [← hsome]), ih]
    | some j =>
      -- judged, and in the scope
      rw [hjudge, Option.isSome_some] at hsome
      rw [List.filterMap_cons_some hjudge, List.filter_cons_of_pos (by simp [← hsome]),
        List.map_cons, ih, object_of_judgeKey? hjudge]

/-! ## Indexes

Objects are gone through once. The judgements gather in order, and so do the keys by identifier, where a
later object takes the place of an earlier one. It has the same key, for a key rests on the identifier. -/

/-- One more object adds its judgement and its key. -/
theorem index_concat (plan : PairingPlan) (rule : KeyRule) (s : Selection) (objects : List ObjectRef)
    (object : ObjectRef) :
    plan.index rule s (objects ++ [object])
      = KeyPass.add plan rule s (plan.index rule s objects) object := List.foldl_append

/-- The judgements of a pass are those on the objects that are judged. Induction on the objects from the last
one on. -/
theorem judgements_index (plan : PairingPlan) (rule : KeyRule) (s : Selection)
    (objects : List ObjectRef) :
    (plan.index rule s objects).judgements = objects.filterMap (plan.judgeKey? rule s) := by
  induction objects using List.reverseRecOn with
  | nil => rfl
  | append_singleton objects object ih =>
    rw [index_concat, List.filterMap_append, ← ih]
    unfold KeyPass.add
    cases hjudge : plan.judgeKey? rule s object with
    | none => rw [List.filterMap_cons_none hjudge]; rfl
    | some j => rw [List.filterMap_cons_some hjudge]; rfl

/-- An index has the identifiers that were met, each with the key of its attribute. Induction on the objects
from the last one on. -/
theorem getElem?_keys_index (plan : PairingPlan) (rule : KeyRule) (s : Selection)
    (objects : List ObjectRef) (id : String) :
    (plan.index rule s objects).keys[id]?
      = if id ∈ objects.map (·.id) then some (key? rule s id) else none := by
  induction objects using List.reverseRecOn with
  | nil => exact ExtTreeMap.getElem?_empty
  | append_singleton objects object ih =>
    rw [index_concat]
    show ((plan.index rule s objects).keys.insert object.id (key? rule s object.id))[id]? = _
    rw [ExtTreeMap.getElem?_insert, ih]
    simp only [Std.compare_eq_iff_eq, List.map_append, List.mem_append, List.map_cons, List.map_nil,
      List.mem_singleton]
    by_cases hid : object.id = id
    · simp [hid]
    · simp [hid, Ne.symm hid]

/-- What an index finds is the key of an object, if the object was met. -/
theorem find?_keys_index (plan : PairingPlan) (rule : KeyRule) (s : Selection)
    (objects : List ObjectRef) (id : String) :
    (plan.index rule s objects).keys.find? id
      = if id ∈ objects.map (·.id) then key? rule s id else none := by
  unfold KeyIndex.find?
  rw [getElem?_keys_index]
  split
  · rfl
  · rfl

/-- Objects with the same identifiers have the same index, in any order, and whether or not objects without
the attribute are passed over. -/
theorem keys_index_eq {other : PairingPlan} {a b : Selection} (h : a.SameTables b) {rule : KeyRule}
    {objects others : List ObjectRef}
    (hids : ∀ id, id ∈ objects.map (·.id) ↔ id ∈ others.map (·.id)) :
    (plan.index rule a objects).keys = (other.index rule b others).keys := by
  apply ExtTreeMap.ext_getElem?
  intro id
  simp only [getElem?_keys_index, hids id, key?_of_sameTables h]

/-- The keys of the hosts. -/
def hostKeys (plan : PairingPlan) (s : Selection) : KeyIndex :=
  (plan.index plan.host s (s.hosts.map (·.ref))).keys

/-- The keys of the kept datastores. -/
def datastoreKeys (plan : PairingPlan) (s : Selection) : KeyIndex :=
  (plan.index plan.datastore s (s.datastores.map (·.ref))).keys

/-- Only which hosts there are matters to their keys. -/
theorem hostKeys_eq {a b : Selection} (h : a.SameTables b) (hhosts : a.hosts.Perm b.hosts) :
    plan.hostKeys a = plan.hostKeys b :=
  keys_index_eq h fun _ => ((hhosts.map _).map _).mem_iff

/-- Only which datastores are kept matters to their keys. -/
theorem datastoreKeys_eq {a b : Selection} (h : a.SameTables b)
    (hdatastores : a.datastores.Perm b.datastores) : plan.datastoreKeys a = plan.datastoreKeys b :=
  keys_index_eq h fun _ => ((hdatastores.map _).map _).mem_iff

/-- The judgements in one line: on hosts, on datastores, and on machines by the keys of the two. -/
theorem evaluate_eq (plan : PairingPlan) (s : Selection) :
    plan.evaluate s = (s.hosts.map (·.ref)).filterMap (plan.judgeKey? plan.host s)
      ++ (s.datastores.map (·.ref)).filterMap (plan.judgeKey? plan.datastore s)
      ++ s.virtualMachines.map fun m =>
          ⟨plan.judgeMachine s (plan.hostKeys s) (plan.datastoreKeys s) m, m.ref⟩ := by
  rw [← judgements_index, ← judgements_index]
  rfl

/-- The objects judged are those of the scope, in order. -/
theorem objects_evaluate (plan : PairingPlan) (s : Selection) :
    (plan.evaluate s).map (·.object) = plan.scope s := by
  unfold scope
  rw [evaluate_eq, List.map_append, List.map_append, map_object_filterMap_judgeKey?,
    map_object_filterMap_judgeKey?, List.map_map]
  rfl

/-! ## Machines

A machine on a host with a key is critical exactly if there is a complaint about one of its
datastores, and well otherwise. -/

section Machines

variable {s : Selection} {keys : KeyIndex} {host : Host} {hostKey : PairingKey} {m : VirtualMachine}

/-- That the comparison of a datastore with the host of a machine gives cause for complaint. -/
def Complains (s : Selection) (keys : KeyIndex) (host : Host) (hostKey : PairingKey) (id : String) :
    Prop :=
  ((compare s keys hostKey id).complaint? id host hostKey).isSome

/-- There are complaints exactly if one of the datastores gives cause for one. -/
theorem complaints_isEmpty_eq_false_iff {ids : List String} :
    (((ids.map fun id => (id, compare s keys hostKey id)).filterMap
        fun (id, c) => c.complaint? id host hostKey).isEmpty = false)
      ↔ ∃ id ∈ ids, Complains s keys host hostKey id := by
  unfold Complains
  rw [List.isEmpty_eq_false_iff_exists_mem, List.filterMap_map]
  constructor
  · rintro ⟨text, hmem⟩
    obtain ⟨id, hid, hcomplaint⟩ := List.mem_filterMap.1 hmem
    exact ⟨id, hid, Option.isSome_iff_exists.2 ⟨text, hcomplaint⟩⟩
  · rintro ⟨id, hid, hsome⟩
    obtain ⟨text, hcomplaint⟩ := Option.isSome_iff_exists.1 hsome
    exact ⟨text, List.mem_filterMap.2 ⟨id, hid, hcomplaint⟩⟩

/-- With cause for complaint a machine is critical, whatever else it lies on. -/
theorem judgeOnHost_of_complains (h : ∃ id ∈ m.datastores, Complains s keys host hostKey id) :
    (judgeOnHost s keys host hostKey m).severity = .critical := by
  have hcomplaints := complaints_isEmpty_eq_false_iff.2 h
  unfold judgeOnHost
  simp only [hcomplaints]
  rfl

/-- Without cause for complaint it is well, be it that nothing was compared. -/
theorem judgeOnHost_of_not_complains
    (h : ¬ ∃ id ∈ m.datastores, Complains s keys host hostKey id) :
    (judgeOnHost s keys host hostKey m).severity = .ok := by
  have hcomplaints := mt complaints_isEmpty_eq_false_iff.1 h
  unfold judgeOnHost
  simp only [Bool.not_eq_false] at hcomplaints
  simp only [hcomplaints]
  split
  · next hfalse => simp at hfalse
  · split
    · rfl
    · rfl

/-- No other severity comes of a machine on a host with a key. -/
theorem severity_ne_unknown_of_judgeOnHost (s : Selection) (keys : KeyIndex) (host : Host)
    (hostKey : PairingKey) (m : VirtualMachine) :
    (judgeOnHost s keys host hostKey m).severity ≠ .unknown := by
  by_cases h : ∃ id ∈ m.datastores, Complains s keys host hostKey id
  · rw [judgeOnHost_of_complains h]
    exact nofun
  · rw [judgeOnHost_of_not_complains h]
    exact nofun

/-- Nor of one whose host is not known, or has no key. -/
theorem severity_ne_unknown_of_judgeMachine (plan : PairingPlan) (s : Selection)
    (hostKeys datastoreKeys : KeyIndex) (m : VirtualMachine) :
    (plan.judgeMachine s hostKeys datastoreKeys m).severity ≠ .unknown := by
  unfold judgeMachine
  split
  · exact nofun
  · split
    · exact nofun
    · split
      · exact nofun
      · exact severity_ne_unknown_of_judgeOnHost s _ _ _ m

/-- Besides the tables and the keys, it matters to a comparison which datastores are kept, and nothing else. -/
theorem compare_of_sameTables {a b : Selection} (h : a.SameTables b)
    (hkept : ∀ id, a.hasDatastore id = b.hasDatastore id) (keys : KeyIndex) (hostKey : PairingKey)
    (id : String) : compare a keys hostKey id = compare b keys hostKey id := by
  unfold compare
  rw [hkept, h.datastore?_eq]

/-- The same is true of the verdict on a machine. -/
theorem judgeMachine_of_sameTables {a b : Selection} (h : a.SameTables b)
    (hkept : ∀ id, a.hasDatastore id = b.hasDatastore id) (hostKeys datastoreKeys : KeyIndex)
    (m : VirtualMachine) :
    plan.judgeMachine a hostKeys datastoreKeys m = plan.judgeMachine b hostKeys datastoreKeys m := by
  have hcompare : compare a datastoreKeys = compare b datastoreKeys := by
    funext hostKey id
    exact compare_of_sameTables h hkept datastoreKeys hostKey id
  unfold judgeMachine judgeOnHost
  simp only [h.host?_eq, hcompare]

end Machines

/-! ## All judgements -/

/-- Where a judgement comes from. -/
theorem mem_evaluate_iff {s : Selection} {j : Judgement} :
    j ∈ plan.evaluate s ↔
      (∃ host ∈ s.hosts, plan.judgeKey? plan.host s host.ref = some j) ∨
      (∃ d ∈ s.datastores, plan.judgeKey? plan.datastore s d.ref = some j) ∨
      ∃ m ∈ s.virtualMachines,
        ⟨plan.judgeMachine s (plan.hostKeys s) (plan.datastoreKeys s) m, m.ref⟩ = j := by
  rw [evaluate_eq]
  simp only [List.mem_append, List.mem_filterMap, List.mem_map, exists_exists_and_eq_and, or_assoc]

/-- Each machine that is kept is judged. -/
theorem judgeMachine_mem_evaluate (plan : PairingPlan) {s : Selection} {m : VirtualMachine}
    (hm : m ∈ s.virtualMachines) :
    ⟨plan.judgeMachine s (plan.hostKeys s) (plan.datastoreKeys s) m, m.ref⟩ ∈ plan.evaluate s :=
  mem_evaluate_iff.2 (.inr (.inr ⟨m, hm, rfl⟩))

/-- A plan never leaves an object undecided. -/
theorem severity_ne_unknown_of_mem_evaluate {s : Selection} {j : Judgement}
    (h : j ∈ plan.evaluate s) : j.severity ≠ .unknown := by
  rcases mem_evaluate_iff.1 h with ⟨host, -, hjudge⟩ | ⟨d, -, hjudge⟩ | ⟨m, -, rfl⟩
  · exact severity_ne_unknown_of_judgeKey? hjudge
  · exact severity_ne_unknown_of_judgeKey? hjudge
  · exact plan.severity_ne_unknown_of_judgeMachine s _ _ m

/-! ## Scopes -/

/-- The scope holds objects of the inventory, in its order. -/
theorem scope_sublist_objects (plan : PairingPlan) (c : Criteria) (inventory : Inventory) :
    (plan.scope (c.select inventory)).Sublist inventory.objects := by
  have hdatastores := (Selection.datastores_select_sublist c inventory).map Datastore.ref
  have hmachines := (Selection.virtualMachines_select_sublist c inventory).map VirtualMachine.ref
  rw [inventory.objects_eq]
  unfold scope
  -- The pools and alarms at the end of the inventory are never judged here.
  rw [List.append_assoc _ _ (inventory.alarms.map _)]
  refine .trans ?_ (List.sublist_append_left _ _)
  refine .append (.append List.filter_sublist ?_) hmachines
  exact List.filter_sublist.trans hdatastores

/-- Fewer objects kept make a smaller scope. -/
theorem scope_sublist_of_within {a b : Selection} (h : a.Within b) :
    (plan.scope a).Sublist (plan.scope b) := by
  unfold scope judges
  simp only [h.sameTables.attribute?_eq, h.hosts_eq]
  refine .append (.append (.refl _) ?_) (h.machines_sublist.map _)
  exact (h.datastores_sublist.map _).filter _

/-! ## Objects in another order -/

/-- The judgements on objects in another order are the same in another order. -/
theorem evaluate_perm_of_rearranged {a b : Selection} (h : a.Rearranged b) :
    (plan.evaluate a).Perm (plan.evaluate b) := by
  have hkey : ∀ rule, plan.judgeKey? rule a = plan.judgeKey? rule b := fun rule =>
    funext (judgeKey?_of_sameTables h.toSameTables rule)
  have hhosts : plan.hostKeys a = plan.hostKeys b := hostKeys_eq h.toSameTables h.hosts_perm
  have hdatastores : plan.datastoreKeys a = plan.datastoreKeys b :=
    datastoreKeys_eq h.toSameTables h.datastores_perm
  have hmachine : plan.judgeMachine a = plan.judgeMachine b := by
    funext hostKeys datastoreKeys m
    exact judgeMachine_of_sameTables h.toSameTables h.hasDatastore_eq hostKeys datastoreKeys m
  rw [evaluate_eq, evaluate_eq, hkey, hkey, hhosts, hdatastores, hmachine]
  refine .append (.append ?_ ?_) ?_
  · exact (h.hosts_perm.map _).filterMap _
  · exact (h.datastores_perm.map _).filterMap _
  · exact h.machines_perm.map _

/-! ## Fewer objects -/

/-- A datastore that is no longer kept falls out of the comparison; the others compare as before. -/
theorem compare_of_within {a b : Selection} (h : a.Within b) (hostKey : PairingKey) (id : String) :
    compare a (plan.datastoreKeys a) hostKey id = compare b (plan.datastoreKeys b) hostKey id
      ∨ compare a (plan.datastoreKeys a) hostKey id = .outside := by
  unfold compare datastoreKeys
  rw [find?_keys_index, find?_keys_index]
  by_cases ha : a.hasDatastore id
  · rw [if_pos ha, if_pos (h.hasDatastore_of id ha), key?_of_sameTables h.sameTables,
      h.sameTables.datastore?_eq]
    by_cases hmet : id ∈ (a.datastores.map (·.ref)).map (·.id)
    · -- the datastore is in both indexes
      have hmet' : id ∈ (b.datastores.map (·.ref)).map (·.id) :=
        ((h.datastores_sublist.map _).map _).subset hmet
      rw [if_pos hmet, if_pos hmet']
      exact Or.inl rfl
    · rw [if_neg hmet]
      exact Or.inr rfl
  · rw [if_neg ha]
    by_cases hb : b.hasDatastore id
    · -- It is one of the inventory, and so ignored and not missing.
      have hsome := h.isSome_datastore? id hb
      rw [if_neg (by simp [Option.isNone_iff_eq_none, Option.isSome_iff_ne_none.1 hsome])]
      exact Or.inr rfl
    · rw [if_neg hb, h.sameTables.datastore?_eq]
      exact Or.inl rfl

/-- What gives cause for complaint among fewer datastores does so among more. -/
theorem Complains.of_within {a b : Selection} (h : a.Within b) {host : Host}
    {hostKey : PairingKey} {id : String}
    (hcomplains : Complains a (plan.datastoreKeys a) host hostKey id) :
    Complains b (plan.datastoreKeys b) host hostKey id := by
  unfold Complains at hcomplains ⊢
  rcases compare_of_within h hostKey id with heq | houtside
  · rwa [← heq]
  · rw [houtside] at hcomplains
    cases hcomplains

/-- A machine is judged no worse when fewer objects are kept. -/
theorem severity_judgeMachine_le_of_within {a b : Selection} (h : a.Within b)
    (m : VirtualMachine) :
    (plan.judgeMachine a (plan.hostKeys a) (plan.datastoreKeys a) m).severity
      ≤ (plan.judgeMachine b (plan.hostKeys b) (plan.datastoreKeys b) m).severity := by
  have hhosts : plan.hostKeys a = plan.hostKeys b :=
    hostKeys_eq h.sameTables (.of_eq h.hosts_eq)
  unfold judgeMachine
  -- Up to the key of the host nothing depends on what is kept.
  cases m.host with
  | none => exact Severity.le_refl _
  | some id =>
    simp only [h.sameTables.host?_eq]
    cases b.host? id with
    | none => exact Severity.le_refl _
    | some host =>
      simp only [hhosts]
      cases (plan.hostKeys b).find? host.id with
      | none => exact Severity.le_refl _
      | some hostKey =>
        show (judgeOnHost a (plan.datastoreKeys a) host hostKey m).severity
          ≤ (judgeOnHost b (plan.datastoreKeys b) host hostKey m).severity
        by_cases hcomplains :
            ∃ id ∈ m.datastores, Complains a (plan.datastoreKeys a) host hostKey id
        · obtain ⟨id, hid, hcomplains⟩ := hcomplains
          rw [judgeOnHost_of_complains ⟨id, hid, hcomplains⟩,
            judgeOnHost_of_complains ⟨id, hid, hcomplains.of_within h⟩]
          exact Severity.le_refl _
        · rw [judgeOnHost_of_not_complains hcomplains]
          exact Severity.ok_le _

/-- No judgement on fewer objects is worse than the one on the same object among more. -/
theorem noWorse_evaluate_of_within {a b : Selection} (h : a.Within b) :
    Judgement.NoWorse (plan.evaluate a) (plan.evaluate b) := by
  intro j hj
  rcases mem_evaluate_iff.1 hj with ⟨host, hhost, hjudge⟩ | ⟨d, hd, hjudge⟩ | ⟨m, hm, rfl⟩
  · rw [h.hosts_eq] at hhost
    rw [judgeKey?_of_sameTables h.sameTables] at hjudge
    exact ⟨j, mem_evaluate_iff.2 (.inl ⟨host, hhost, hjudge⟩), rfl, Severity.le_refl _⟩
  · have hd' := h.datastores_sublist.subset hd
    rw [judgeKey?_of_sameTables h.sameTables] at hjudge
    exact ⟨j, mem_evaluate_iff.2 (.inr (.inl ⟨d, hd', hjudge⟩)), rfl, Severity.le_refl _⟩
  · have hm' := h.machines_sublist.subset hm
    exact ⟨_, plan.judgeMachine_mem_evaluate hm', rfl, severity_judgeMachine_le_of_within h m⟩

end PairingPlan

end InventoryProbe
