import InventoryProbe.Proofs.Pairing
import InventoryProbe.Proofs.Run.Execution
import InventoryProbe.Proofs.Selection.Lookup

/-!
# Machines in the wrong place

A machine is found fault with for where it runs and for what it lies on. What is wrong with the place of
a machine is said here of the inventory and the criteria alone, with nothing of the tables in which the
judging looks things up.

* **`Misplaced`**: the machine has no known host, or its host has a key and one of its datastores is
  unknown or has another key. Datastores that are ignored, datastores without the attribute and hosts
  without it put no machine in the wrong place.
* **`complains_select_iff`**: what a complaint about one datastore comes from.
* **`severity_judgeMachine_select`**: a machine is critical if it is misplaced, and well if it is not.
-/

namespace InventoryProbe

namespace PairingPlan

variable {plan : PairingPlan} {c : Criteria} {inventory : Inventory}

/-! ## The place of a machine -/

/-- That a machine runs on a host of the inventory, and that this host has a key. -/
def HostKey (plan : PairingPlan) (inventory : Inventory) (m : VirtualMachine) (hostKey : PairingKey) :
    Prop :=
  ∃ host ∈ inventory.hosts, m.host = some host.id ∧ inventory.key? plan.host host.id = some hostKey

/-- That the place of a machine is a wrong one. -/
inductive Misplaced (plan : PairingPlan) (c : Criteria) (inventory : Inventory) (m : VirtualMachine) :
    Prop where
  | unassigned (hhost : m.host = none)
  | unknownHost (id : String) (hhost : m.host = some id)
      (hnone : ∀ host ∈ inventory.hosts, host.id ≠ id)
  | unknownDatastore (hostKey : PairingKey) (hkeyed : plan.HostKey inventory m hostKey)
      (id : String) (hid : id ∈ m.datastores) (hnone : ∀ d ∈ inventory.datastores, d.id ≠ id)
  | otherKey (hostKey : PairingKey) (hkeyed : plan.HostKey inventory m hostKey)
      (d : Datastore) (hd : d ∈ inventory.datastores) (hid : d.id ∈ m.datastores)
      (hkept : d.name ∉ c.ignoredDatastores) (key : PairingKey)
      (hkey : inventory.key? plan.datastore d.id = some key) (hdiffers : key.small ≠ hostKey.small)

/-- The host of a machine gives it the key that the host has, if the host is known. -/
theorem hostKey_iff {m : VirtualMachine} {host : Host} (hhost : host ∈ inventory.hosts)
    (hm : m.host = some host.id) {hostKey : PairingKey} :
    plan.HostKey inventory m hostKey ↔ inventory.key? plan.host host.id = some hostKey := by
  constructor
  · rintro ⟨other, -, hother, hkey⟩
    rw [hm] at hother
    rwa [Option.some.inj hother]
  · intro hkey
    exact ⟨host, hhost, hm, hkey⟩

/-! ## Keys in the indexes -/

/-- The index of the hosts has the key of each host of the inventory. -/
theorem find?_hostKeys_select {host : Host} (hhost : host ∈ inventory.hosts) :
    (plan.hostKeys (c.select inventory)).find? host.id = inventory.key? plan.host host.id := by
  have hmet : host.id ∈ ((c.select inventory).hosts.map (·.ref)).map (·.id) :=
    List.mem_map_of_mem (List.mem_map_of_mem hhost)
  unfold hostKeys
  rw [find?_keys_index, if_pos hmet, key?_select]

/-- The index of the kept datastores has the key of each of them. -/
theorem find?_datastoreKeys_select {id : String} (h : (c.select inventory).hasDatastore id) :
    (plan.datastoreKeys (c.select inventory)).find? id = inventory.key? plan.datastore id := by
  obtain ⟨d, hd, hkept, rfl⟩ := Selection.hasDatastore_select.1 h
  have hmet : d.id ∈ ((c.select inventory).datastores.map (·.ref)).map (·.id) :=
    List.mem_map_of_mem (List.mem_map_of_mem (List.mem_filter.2 ⟨hd, hkept⟩))
  unfold datastoreKeys
  rw [find?_keys_index, if_pos hmet, key?_select]

/-! ## One datastore -/

section Complains

variable {s : Selection} {keys : KeyIndex} {host : Host} {hostKey : PairingKey} {id : String}

/-- A kept datastore gives cause for complaint only by a key of its own. -/
theorem complains_iff_of_hasDatastore (h : s.hasDatastore id) :
    Complains s keys host hostKey id ↔
      ∃ key, keys.find? id = some key ∧ key.small ≠ hostKey.small := by
  unfold Complains compare
  rw [if_pos h]
  -- Where there is no key to compare, there is nothing to complain of.
  cases hkey : keys.find? id with
  | none => simp [Comparison.complaint?]
  | some key =>
    by_cases hsame : key.small = hostKey.small
    · simp [PairingKey.agrees, hsame, Comparison.complaint?]
    · have hdiffers : key.agrees hostKey = false := by simp [PairingKey.agrees, hsame]
      simp only [hdiffers]
      exact iff_of_true rfl ⟨key, rfl, hsame⟩

/-- A datastore that is not kept gives cause for complaint only if it is none of the inventory. -/
theorem complains_iff_of_not_hasDatastore (h : ¬ s.hasDatastore id) :
    Complains s keys host hostKey id ↔ s.datastore? id = none := by
  unfold Complains compare
  rw [if_neg h]
  cases s.datastore? id with
  | none => exact iff_of_true rfl rfl
  | some d => exact iff_of_false nofun nofun

/-- A complaint is about a datastore that nobody knows, or about a kept one with another key. -/
theorem complains_select_iff :
    Complains (c.select inventory) (plan.datastoreKeys (c.select inventory)) host hostKey id ↔
      (∀ d ∈ inventory.datastores, d.id ≠ id) ∨
      ∃ d ∈ inventory.datastores, d.name ∉ c.ignoredDatastores ∧ d.id = id ∧
        ∃ key, inventory.key? plan.datastore id = some key ∧ key.small ≠ hostKey.small := by
  have hkept := @Selection.hasDatastore_select_iff c inventory id
  by_cases hhas : (c.select inventory).hasDatastore id
  · -- The datastore is kept, and so known: only its key can give cause for complaint.
    obtain ⟨d, hd, hname, hid⟩ := hkept.1 hhas
    have hknown : ¬ ∀ d ∈ inventory.datastores, d.id ≠ id := fun hnone => hnone d hd hid
    rw [complains_iff_of_hasDatastore hhas, find?_datastoreKeys_select hhas, or_iff_right hknown]
    constructor
    · intro hdiffers
      exact ⟨d, hd, hname, hid, hdiffers⟩
    · rintro ⟨-, -, -, -, hdiffers⟩
      exact hdiffers
  · -- No datastore with the identifier is kept, so that none has another key.
    rw [complains_iff_of_not_hasDatastore hhas, Selection.datastore?_select_eq_none_iff]
    refine (or_iff_left ?_).symm
    rintro ⟨d, hd, hname, hid, -⟩
    exact hhas (hkept.2 ⟨d, hd, hname, hid⟩)

end Complains

/-! ## One machine -/

/-- On a host that is known, only datastores can put a machine in the wrong place, and only if the host
has a key. -/
theorem misplaced_iff_of_host {m : VirtualMachine} {host : Host} (hhost : host ∈ inventory.hosts)
    (hm : m.host = some host.id) :
    plan.Misplaced c inventory m ↔
      ∃ hostKey, inventory.key? plan.host host.id = some hostKey ∧
        ∃ id ∈ m.datastores,
          Complains (c.select inventory) (plan.datastoreKeys (c.select inventory)) host hostKey id := by
  simp only [complains_select_iff, ← hostKey_iff hhost hm]
  constructor
  · intro hmis
    cases hmis with
    -- The first two are about machines whose host is not known.
    | unassigned hnone => rw [hm] at hnone; cases hnone
    | unknownHost id hid hnone =>
      rw [hm] at hid
      exact absurd (Option.some.inj hid) (hnone host hhost)
    | unknownDatastore hostKey hkeyed id hid hnone => exact ⟨hostKey, hkeyed, id, hid, .inl hnone⟩
    | otherKey hostKey hkeyed d hd hid hname key hkey hdiffers =>
      exact ⟨hostKey, hkeyed, d.id, hid, .inr ⟨d, hd, hname, rfl, key, hkey, hdiffers⟩⟩
  · rintro ⟨hostKey, hkeyed, id, hid, hnone | ⟨d, hd, hname, rfl, key, hkey, hdiffers⟩⟩
    · exact .unknownDatastore hostKey hkeyed id hid hnone
    · exact .otherKey hostKey hkeyed d hd hid hname key hkey hdiffers

/-- A misplaced machine is critical and every other one is well. -/
theorem severity_judgeMachine_select (plan : PairingPlan) (c : Criteria) (inventory : Inventory)
    (m : VirtualMachine) :
    let s := c.select inventory
    let v := plan.judgeMachine s (plan.hostKeys s) (plan.datastoreKeys s) m
    (plan.Misplaced c inventory m ∧ v.severity = .critical) ∨
      (¬ plan.Misplaced c inventory m ∧ v.severity = .ok) := by
  simp only
  unfold judgeMachine
  cases hm : m.host with
  | none => exact .inl ⟨.unassigned hm, rfl⟩
  | some id =>
    simp only [Selection.host?_select]
    cases hfound : inventory.host? id with
    | none => exact .inl ⟨.unknownHost id hm (lastKeyed_eq_none_iff.1 hfound), rfl⟩
    | some host =>
      obtain ⟨hhost, rfl⟩ := mem_of_lastKeyed hfound
      rw [misplaced_iff_of_host hhost hm]
      simp only [find?_hostKeys_select hhost]
      cases inventory.key? plan.host host.id with
      | none =>
        -- A host without the attribute is the right place for every machine.
        exact .inr ⟨by simp, rfl⟩
      | some hostKey =>
        by_cases hcomplains : ∃ id ∈ m.datastores,
            Complains (c.select inventory) (plan.datastoreKeys (c.select inventory)) host hostKey id
        · exact .inl ⟨⟨hostKey, rfl, hcomplains⟩, judgeOnHost_of_complains hcomplains⟩
        · refine .inr ⟨?_, judgeOnHost_of_not_complains hcomplains⟩
          rintro ⟨_, heq, hcomplains'⟩
          rw [Option.some.injEq] at heq
          exact hcomplains (heq ▸ hcomplains')

/-! ## The judgement on a machine -/

/-- **A machine is critical exactly if it is in the wrong place.** On an inventory that is not refused
every kept machine is judged once, as critical if it has no known host, or if its host has a key and
one of its datastores is unknown or has a key that differs in small letters; and as well in every other
case. -/
theorem evaluate_machine (plan : PairingPlan) (c : Criteria) {inventory : Inventory}
    (hvalid : inventory.validate = .ok ()) {m : VirtualMachine}
    (hm : m ∈ (c.select inventory).virtualMachines) :
    ∃ j, (plan.evaluate (c.select inventory)).filter (·.object = m.ref) = [j] ∧
      (j.severity = .critical ↔ plan.Misplaced c inventory m) ∧
      (¬ plan.Misplaced c inventory m → j.severity = .ok) := by
  -- The objects judged are objects of the inventory, which holds none twice.
  have hnodup : ((plan.evaluate (c.select inventory)).map (·.object)).Nodup := by
    rw [objects_evaluate]
    exact (Inventory.objects_nodup hvalid).sublist (plan.scope_sublist_objects c inventory)
  have hmem := plan.judgeMachine_mem_evaluate hm
  refine ⟨_, filter_key_eq_singleton hnodup hmem, ?_⟩
  rcases plan.severity_judgeMachine_select c inventory m with ⟨hmis, hcritical⟩ | ⟨hmis, hok⟩
  · exact ⟨iff_of_true hcritical hmis, fun hnot => absurd hmis hnot⟩
  · refine ⟨iff_of_false ?_ hmis, fun _ => hok⟩
    intro hcritical
    rw [hok] at hcritical
    cases hcritical

/-- The zone of the only datastore is not that of the host, and the datastore is not ignored. -/
theorem misplaced_pairedSite :
    (⟨⟨"zone", none⟩, ⟨"zone", none⟩, true⟩ : PairingPlan).Misplaced .initial PreparedRun.pairedSite
      (PreparedRun.plainMachine "vm-1" "web" "host-1" ["ds-1"]) :=
  .otherKey ⟨"a"⟩ ⟨_, List.mem_cons_self, rfl, rfl⟩ _ List.mem_cons_self List.mem_cons_self
    Std.ExtTreeSet.not_mem_empty ⟨"b"⟩ rfl (by decide +kernel)

theorem evaluate_machine_pairedSite :
    PreparedRun.pairedSite.validate = .ok () ∧
    PreparedRun.plainMachine "vm-1" "web" "host-1" ["ds-1"]
      ∈ (Criteria.initial.select PreparedRun.pairedSite).virtualMachines ∧
    ∃ j, ((⟨⟨"zone", none⟩, ⟨"zone", none⟩, true⟩ : PairingPlan).evaluate
        (Criteria.initial.select PreparedRun.pairedSite)).filter
          (·.object = ⟨.virtualMachine, "vm-1", "web"⟩) = [j] ∧
      j.severity = .critical := by
  have hvalid : PreparedRun.pairedSite.validate = .ok () := by decide
  have hm : PreparedRun.plainMachine "vm-1" "web" "host-1" ["ds-1"]
      ∈ (Criteria.initial.select PreparedRun.pairedSite).virtualMachines := by
    decide +kernel
  obtain ⟨j, hfilter, hcritical, -⟩ := evaluate_machine ⟨⟨"zone", none⟩, ⟨"zone", none⟩, true⟩
    .initial hvalid hm
  exact ⟨hvalid, hm, j, hfilter, hcritical.2 misplaced_pairedSite⟩

end PairingPlan

end InventoryProbe
