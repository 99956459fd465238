import InventoryProbe.Proofs.Catalogue
import InventoryProbe.Proofs.Check.Coverage
import InventoryProbe.Proofs.Tally.Closing
import InventoryProbe.Run.Basic

/-!
# Executing a run

What becomes of a run once its settings have been found good.

* **`built_of_prepare`**: a prepared run has a check that was built from the settings.
* **`execute_eq_ok_iff`**: it comes to an outcome exactly if the objects can all be judged and the
  scope names none of them twice.
* **`execute_of_prepare`**: on an inventory that is not refused, this is so unless a default version
  is called for that is not known; no run ends in a defect of its check.
-/

namespace InventoryProbe

namespace PreparedRun

variable {s : Settings} {n : CheckName} {run : PreparedRun} {inventory : Inventory}

/-! ## Preparing -/

/-- A run is prepared if the settings pass and the check can be built of them. -/
theorem prepare_eq_ok_iff {catalogue : Catalogue} {name : String} :
    prepare catalogue name s = .ok run ↔
      s.validate = .ok () ∧ catalogue.build name s = .ok run.check ∧ run.criteria = s.criteria := by
  unfold prepare
  rw [bind_eq_ok_iff]
  -- The check is built behind the settings are found good, and nothing can fail after it.
  constructor
  · rintro ⟨_, hvalid, hrest⟩
    obtain ⟨check, hbuild, hrun⟩ := bind_eq_ok_iff.1 hrest
    cases hrun
    exact ⟨mapError_eq_ok_iff.1 hvalid, hbuild, rfl⟩
  · rintro ⟨hvalid, hbuild, hcriteria⟩
    refine ⟨(), mapError_eq_ok_iff.2 hvalid, bind_eq_ok_iff.2 ⟨run.check, hbuild, ?_⟩⟩
    rw [← hcriteria]
    rfl

/-- A run is refused for the settings first, and then for the check. -/
theorem prepare_eq_error_iff {catalogue : Catalogue} {name : String} {e : RunError} :
    prepare catalogue name s = .error e ↔
      (∃ fault, s.validate = .error fault ∧ .setting fault = e) ∨
        s.validate = .ok () ∧ catalogue.build name s = .error e := by
  unfold prepare
  simp only [bind_eq_error_iff, mapError_eq_error_iff, mapError_eq_ok_iff]
  constructor
  · rintro (hinvalid | ⟨_, hvalid, hbuild | ⟨check, -, hpure⟩⟩)
    · exact .inl hinvalid
    · exact .inr ⟨hvalid, hbuild⟩
    · cases hpure
  · rintro (hinvalid | ⟨hvalid, hbuild⟩)
    · exact .inl hinvalid
    · exact .inr ⟨(), hvalid, .inl hbuild⟩

/-- A run of the standard catalogue is that of one of the twelve checks. -/
theorem built_of_prepare {name : String} (h : prepare .standard name s = .ok run) :
    ∃ n : CheckName, n.text = name ∧ run.check.Built s n ∧ run.criteria = s.criteria := by
  obtain ⟨-, hbuild, hcriteria⟩ := prepare_eq_ok_iff.1 h
  obtain ⟨n, hname, hbuild⟩ := Catalogue.exists_of_build_eq_ok hbuild
  exact ⟨n, hname, CheckName.built_of_build_eq_ok hbuild, hcriteria⟩

/-- One of the twelve checks that was prepared was built of the settings, and takes its
criteria from them. -/
theorem build_of_prepare (h : prepare .standard n.text s = .ok run) :
    n.build s = .ok run.check ∧ run.criteria = s.criteria := by
  obtain ⟨-, hbuild, hcriteria⟩ := prepare_eq_ok_iff.1 h
  rw [Catalogue.build_text, mapError_eq_ok_iff] at hbuild
  exact ⟨hbuild, hcriteria⟩

/-! ## Executing -/

/-- A run ends in what its check makes of the selection. -/
theorem execute_congr {check : Check} {c c' : Criteria} {a b : Inventory}
    (hscope : check.scope (c.select a) = check.scope (c'.select b))
    (hevaluate : check.evaluate (c.select a) = check.evaluate (c'.select b)) :
    execute ⟨c, check⟩ a = execute ⟨c', check⟩ b := by
  unfold execute
  simp only [hscope, hevaluate]

/-- Where judging succeeds, a run ends in what the scope and the judgements close to. -/
theorem execute_of_evaluate {check : Check} {c : Criteria} {judgements : List Judgement}
    (heval : check.evaluate (c.select inventory) = .ok judgements) :
    execute ⟨c, check⟩ inventory
      = (Tally.reconcile check.name (check.scope (c.select inventory)) judgements).mapError
          .evaluation := by
  unfold execute
  simp only [heval]
  rfl

/-- What a run comes to is what a tally closed to. -/
theorem exists_close_of_execute {o : Outcome} (h : run.execute inventory = .ok o) :
    ∃ history, (Tally.after run.check.name history).close = .ok o := by
  unfold execute at h
  simp only [bind_eq_ok_iff, mapError_eq_ok_iff] at h
  obtain ⟨judgements, -, hclose⟩ := h
  rw [Tally.reconcile_eq_close] at hclose
  exact ⟨_, hclose⟩

/-- A run comes to an outcome exactly if its objects can all be judged and none is named twice. -/
theorem execute_eq_ok_iff (h : run.check.Built s n) {o : Outcome} :
    run.execute inventory = .ok o ↔
      (run.check.scope (run.criteria.select inventory)).Nodup ∧
        ∃ judgements, run.check.evaluate (run.criteria.select inventory) = .ok judgements ∧
          o = ⟨n.text, .worstOf (judgements.map (·.severity)), judgements⟩ := by
  unfold execute
  simp only [bind_eq_ok_iff, mapError_eq_ok_iff]
  -- The judgements are those of the scope, so that reconciling can only find repetitions.
  constructor
  · rintro ⟨judgements, heval, hclose⟩
    obtain ⟨hnodup, ho⟩ := (Tally.reconcile_eq_ok_iff (h.objects_of_evaluate heval)).1 hclose
    rw [h.name_eq] at ho
    exact ⟨hnodup, judgements, heval, ho⟩
  · rintro ⟨hnodup, judgements, heval, ho⟩
    refine ⟨judgements, heval, ?_⟩
    rw [h.name_eq]
    exact (Tally.reconcile_eq_ok_iff (h.objects_of_evaluate heval)).2 ⟨hnodup, ho⟩

/-- Where no object is named twice, a run fails only as judging does. -/
theorem execute_eq_error_iff (h : run.check.Built s n)
    (hnodup : (run.check.scope (run.criteria.select inventory)).Nodup) {e : RunError} :
    run.execute inventory = .error e ↔
      ∃ fault, run.check.evaluate (run.criteria.select inventory) = .error fault ∧
        .evaluation fault = e := by
  cases heval : run.check.evaluate (run.criteria.select inventory) with
  -- What was judged once is reconciled with success.
  | ok judgements =>
    have hok := (execute_eq_ok_iff h).2 ⟨hnodup, judgements, heval, rfl⟩
    rw [hok]
    simp
  | error fault =>
    unfold execute
    rw [bind_eq_error_iff, mapError_eq_error_iff]
    simp [heval, mapError_eq_ok_iff]

/-- **Every check answers for its scope.** Once its settings are accepted, a run on an inventory
that is not refused judges exactly the objects of the scope, in order and without repetition, or
ends for want of data; and that happens only where every machine kept should have at least its
default version and one of them has no default. No run ends in a defect of its check. -/
theorem execute_of_prepare (hprepare : prepare .standard n.text s = .ok run)
    (hvalid : inventory.validate = .ok ()) :
    ((∃ o, run.execute inventory = .ok o ∧
        o.judgements.map (·.object) = run.check.scope (s.criteria.select inventory) ∧
        (o.judgements.map (·.object)).Nodup) ∨
      ∃ reason, run.execute inventory = .error (.evaluation (.unavailable reason))) ∧
    ((∃ e, run.execute inventory = .error e) ↔
      n = .hardwareVersion ∧ VersionPolicy.ofSettings s.version = .ok .defaultIsMinimum ∧
        ∃ m ∈ (s.criteria.select inventory).virtualMachines,
          VersionPolicy.default? (s.criteria.select inventory) m = none) ∧
    (∀ fault, run.execute inventory = .error (.evaluation fault) → fault.isDefect = false) := by
  obtain ⟨n', hname, hbuilt, hcriteria⟩ := built_of_prepare hprepare
  obtain rfl : n' = n := CheckName.text_injective hname
  rw [← hcriteria]
  have hnodup := hbuilt.scope_nodup run.criteria hvalid
  have hfails : (∃ e, run.execute inventory = .error e) ↔
      ∃ fault, run.check.evaluate (run.criteria.select inventory) = .error fault := by
    simp [execute_eq_error_iff hbuilt hnodup]
  -- A check of the catalogue fails only for want of data.
  have hunavailable : ∀ e, run.execute inventory = .error e →
      ∃ reason, e = .evaluation (.unavailable reason) := by
    intro e he
    obtain ⟨fault, heval, rfl⟩ := (execute_eq_error_iff hbuilt hnodup).1 he
    obtain ⟨reason, rfl⟩ := hbuilt.unavailable_of_evaluate_eq_error heval
    exact ⟨reason, rfl⟩
  refine ⟨?_, hfails.trans hbuilt.exists_evaluate_eq_error_iff, fun fault hfault => ?_⟩
  · cases hexecute : run.execute inventory with
    | ok o =>
      obtain ⟨-, judgements, heval, rfl⟩ := (execute_eq_ok_iff hbuilt).1 hexecute
      have hobjects := hbuilt.objects_of_evaluate heval
      exact .inl ⟨_, rfl, hobjects, hobjects ▸ hnodup⟩
    | error e =>
      obtain ⟨reason, rfl⟩ := hunavailable e hexecute
      exact .inr ⟨reason, rfl⟩
  · obtain ⟨reason, heq⟩ := hunavailable _ hfault
    cases heq
    rfl

/-! ## A site with one pair

Of the two hosts only the first has a zone, and its machine lies on a datastore of another one. -/

/-- A machine that runs, with nothing told of it but where. -/
def plainMachine (id name host : String) (datastores : List String) : VirtualMachine where
  id
  name
  datacenter := none
  host := some host
  resourcePool := none
  datastores
  powerState := .poweredOn
  hardwareVersion := ⟨19⟩
  isTemplate := false
  uptime := none
  processors := 1
  snapshots := []
  needsConsolidation := false
  tools := none

/-- Two hosts and a datastore, which are not of one zone, and a machine on the first host and
the datastore. -/
def pairedSite : Inventory where
  collectedAt :=
    ⟨⟨2025, 1, 1, by decide, by decide, by decide⟩, 0, 0, by decide, by decide, by decide⟩
  defaultVersion := none
  clusters := []
  hosts :=
    [⟨"host-1", "esx-1", none, none, 0, 0, 0, 0, false, none⟩,
     ⟨"host-2", "esx-2", none, none, 0, 0, 0, 0, false, none⟩]
  datastores := [⟨"ds-1", "ssd", none, 0, 0, true⟩]
  virtualMachines := [plainMachine "vm-1" "web" "host-1" ["ds-1"]]
  resourcePools := []
  alarms := []
  attributes := [⟨"host-1", "zone", "a"⟩, ⟨"ds-1", "zone", "b"⟩]

/-- Pairing by zones, hosts and datastores without one passed over. -/
def zoneSettings : Settings :=
  let pairing := { PairingSettings.unset with sharedAttribute := some "zone", ignoreMissing := true }
  { Settings.unset with pairing }

/-- Pairing by zones, where objects without one are passed over. -/
def zoneRun : PreparedRun := ⟨.initial, .pairings ⟨⟨"zone", none⟩, ⟨"zone", none⟩, true⟩⟩

/-- The second host is passed over, and the other objects are judged. -/
theorem zoneRun_executes :
    prepare .standard CheckName.pairings.text zoneSettings = .ok zoneRun ∧
    pairedSite.validate = .ok () ∧
    ∃ o, zoneRun.execute pairedSite = .ok o ∧
      o.judgements.map (·.object) = [⟨.host, "host-1", "esx-1"⟩, ⟨.datastore, "ds-1", "ssd"⟩,
        ⟨.virtualMachine, "vm-1", "web"⟩] := by
  have hprepare : prepare .standard CheckName.pairings.text zoneSettings = .ok zoneRun := rfl
  have hvalid : pairedSite.validate = .ok () := by decide
  have hscope : zoneRun.check.scope (Criteria.initial.select pairedSite)
      = [⟨.host, "host-1", "esx-1"⟩, ⟨.datastore, "ds-1", "ssd"⟩,
        ⟨.virtualMachine, "vm-1", "web"⟩] := by
    decide +kernel
  obtain ⟨hends, hfails, -⟩ := execute_of_prepare hprepare hvalid
  rcases hends with ⟨o, hexecute, hobjects, -⟩ | ⟨reason, hreason⟩
  · exact ⟨hprepare, hvalid, o, hexecute, hobjects.trans hscope⟩
  · -- Only versions can be wanting, and this is a run on pairs.
    obtain ⟨hname, -⟩ := hfails.1 ⟨_, hreason⟩
    cases hname

end PreparedRun

end InventoryProbe
