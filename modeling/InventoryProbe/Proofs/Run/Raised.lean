import InventoryProbe.Proofs.Check.Metered
import InventoryProbe.Proofs.Run.Execution

/-!
# Runs at higher boundaries

Two runs of a check that measures, over one inventory and with the same criteria, of which the second has
boundaries that lie at least as high. Neither pair of boundaries need be in order.

* **`execute_error_iff_of_raised`**: the two fail alike, for what makes a run of such a check fail is the
  scope alone.
* **`execute_of_raised`**: else they judge the same objects on the same observations, and the second judges
  none of them worse.
-/

namespace InventoryProbe

namespace PreparedRun

variable {n : CheckName} {check : Thresholds Binary64 → Check} {t raised : Thresholds Binary64}
  {c : Criteria} {inventory : Inventory}

/-- Raised boundaries make no run fail, and none succeed. -/
theorem execute_error_iff_of_raised (h : Check.Metered n check) (hraised : t.RaisedTo raised)
    {e : RunError} :
    execute ⟨c, check raised⟩ inventory = .error e ↔ execute ⟨c, check t⟩ inventory = .error e := by
  obtain ⟨hscope, milder, worse, hmilder, hworse, heases⟩ :=
    h.exists_evaluate_eases_of_raised hraised (c.select inventory)
  -- Only the objects count for the tally, and these are the same.
  have hobjects := (h.built .unset t).objects_of_evaluate hworse
  have hobjects' := (Judgement.objects_eq_of_eases heases).trans hobjects
  rw [execute_of_evaluate hmilder, execute_of_evaluate hworse, mapError_eq_error_iff,
    mapError_eq_error_iff, hscope, (h.built .unset t).name_eq, (h.built .unset raised).name_eq]
  simp only [Tally.reconcile_eq_error_iff hobjects, Tally.reconcile_eq_error_iff hobjects']

theorem exists_execute_eases_of_raised (h : Check.Metered n check) (hraised : t.RaisedTo raised)
    {o : Outcome} (hexecute : execute ⟨c, check t⟩ inventory = .ok o) :
    ∃ o', execute ⟨c, check raised⟩ inventory = .ok o' ∧
      List.Forall₂ Judgement.Eases o'.judgements o.judgements ∧ o'.overall ≤ o.overall := by
  obtain ⟨hscope, milder, worse, hmilder, hworse, heases⟩ :=
    h.exists_evaluate_eases_of_raised hraised (c.select inventory)
  obtain ⟨hnodup, judgements, heval, rfl⟩ := (execute_eq_ok_iff (h.built .unset t)).1 hexecute
  obtain rfl : worse = judgements := Except.ok.inj (hworse.symm.trans heval)
  -- The scope does not depend on the boundaries.
  have hnodup' : ((check raised).scope (c.select inventory)).Nodup := by
    rw [hscope]
    exact hnodup
  refine ⟨⟨n.text, .worstOf (milder.map (·.severity)), milder⟩, ?_, heases, ?_⟩
  · exact (execute_eq_ok_iff (h.built .unset raised)).2 ⟨hnodup', milder, hmilder, rfl⟩
  · exact (Judgement.NoWorse.of_eases heases).worstOf_le

/-- A check that measures never lacks data, so that only an object named twice can stop its run. -/
theorem exists_execute_of_metered (h : Check.Metered n check) (t : Thresholds Binary64)
    (c : Criteria) (hvalid : inventory.validate = .ok ()) :
    ∃ o, execute ⟨c, check t⟩ inventory = .ok o := by
  have hbuilt := h.built .unset t
  obtain ⟨judgements, heval⟩ := h.exists_evaluate t (c.select inventory)
  exact ⟨_, (execute_eq_ok_iff hbuilt).2 ⟨hbuilt.scope_nodup c hvalid, judgements, heval, rfl⟩⟩

/-- **Raising the boundaries never makes a run worse.** This is so for each of the checks that measure, at any
two pairs of boundaries, and such a check is built from settings at the pair that they give it. Its runs have
outcomes on every inventory that is not refused. At boundaries that lie at least as high, a run over the same
inventory fails where it failed before and in the same way; else it judges the same objects in the same order,
on the same observations, none of them is judged worse, and neither is the whole, in its state or in the exit
status. -/
theorem execute_of_raised (hmetered : n.metered? = some check) (hraised : t.RaisedTo raised)
    (c : Criteria) (inventory : Inventory) :
    (∀ s built, n.build s = .ok built ↔ ∃ defaults t, n.options = .thresholds defaults ∧
      (s.thresholdsFor n.text).resolve defaults = .ok t ∧ check t = built) ∧
    (inventory.validate = .ok () → ∃ o, execute ⟨c, check t⟩ inventory = .ok o) ∧
    (∀ e, execute ⟨c, check raised⟩ inventory = .error e ↔
      execute ⟨c, check t⟩ inventory = .error e) ∧
    ∀ o, execute ⟨c, check t⟩ inventory = .ok o →
      ∃ o', execute ⟨c, check raised⟩ inventory = .ok o' ∧
        List.Forall₂ Judgement.Eases o'.judgements o.judgements ∧ o'.overall ≤ o.overall ∧
        (Report.ofOutcome o' inventory.collectedAt).exitCode
          ≤ (Report.ofOutcome o inventory.collectedAt).exitCode := by
  have h := Check.metered_of_metered? hmetered
  refine ⟨fun s built => CheckName.build_eq_ok_iff_of_metered hmetered,
    exists_execute_of_metered h t c, fun e => execute_error_iff_of_raised h hraised,
    fun o hexecute => ?_⟩
  obtain ⟨o', hexecute', heases, hoverall⟩ := exists_execute_eases_of_raised h hraised hexecute
  -- Exit codes are ranked as severities are.
  exact ⟨o', hexecute', heases, hoverall, hoverall⟩

/-! ## A busy host

Of its memory nine tenths are in use. The boundary at which that is critical lies below the one at which it
is worth a warning, and stays there when both are raised. -/

/-- A host with nine tenths of its memory in use, and one of which nothing is known. -/
def busySite : Inventory :=
  { pairedSite with
    hosts :=
      [⟨"host-1", "esx-1", none, none, 10, 9, 0, 0, false, none⟩,
       ⟨"host-2", "esx-2", none, none, 0, 0, 0, 0, true, none⟩] }

theorem busySite_eased :
    CheckName.hostMemory.metered? = some Check.hostMemory ∧
    (⟨95, 85⟩ : Thresholds Binary64).RaisedTo ⟨96, 91⟩ ∧
    busySite.validate = .ok () ∧
    ∃ o o', execute ⟨.initial, Check.hostMemory ⟨95, 85⟩⟩ busySite = .ok o ∧
      execute ⟨.initial, Check.hostMemory ⟨96, 91⟩⟩ busySite = .ok o' ∧
      List.Forall₂ Judgement.Eases o'.judgements o.judgements ∧
      o.overall = .critical ∧ o'.overall = .ok := by
  have hmetered : CheckName.hostMemory.metered? = some Check.hostMemory := rfl
  have hraised : (⟨95, 85⟩ : Thresholds Binary64).RaisedTo ⟨96, 91⟩ :=
    ⟨by decide +kernel, by decide +kernel⟩
  have hvalid : busySite.validate = .ok () := by decide
  obtain ⟨-, houtcome, -, hmilder⟩ := execute_of_raised hmetered hraised .initial busySite
  obtain ⟨o, hexecute⟩ := houtcome hvalid
  obtain ⟨o', hexecute', heases, -⟩ := hmilder o hexecute
  -- Nine tenths are critical from one boundary on, and well below the other.
  have hcritical : (execute ⟨.initial, Check.hostMemory ⟨95, 85⟩⟩ busySite).map (·.overall)
      = .ok .critical := by
    decide +kernel
  have hok : (execute ⟨.initial, Check.hostMemory ⟨96, 91⟩⟩ busySite).map (·.overall)
      = .ok .ok := by
    decide +kernel
  rw [hexecute] at hcritical
  rw [hexecute'] at hok
  exact ⟨hmetered, hraised, hvalid, o, o', hexecute, hexecute', heases, Except.ok.inj hcritical,
    Except.ok.inj hok⟩

end PreparedRun

end InventoryProbe
