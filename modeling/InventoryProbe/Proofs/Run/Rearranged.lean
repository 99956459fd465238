import InventoryProbe.Proofs.Report.Findings
import InventoryProbe.Proofs.Run.Report

/-!
# Runs on inventories in another order

The order in which an inventory lists its objects is of no account. It says in which order they are
judged, and thereby which of two equally bad findings is shown first, and nothing else.

* **`exists_execute_of_rearranged`**: what comes to an outcome in one order does so in any other, with
  the same judgements.
* **`evaluate_of_rearranged`**: the reports differ in the order of equally bad findings only.
-/

namespace InventoryProbe

namespace PreparedRun

variable {s : Settings} {n : CheckName} {run : PreparedRun} {a b : Inventory} {o : Outcome}

/-- What comes to an outcome in one order does so in another, with the same judgements. -/
theorem exists_execute_of_rearranged (h : run.check.Built s n) (hre : a.Rearranged b)
    (hvalid : a.validate = .ok ()) (hexecute : run.execute a = .ok o) :
    ∃ o', run.execute b = .ok o' ∧ o.check = o'.check ∧ o.overall = o'.overall ∧
      o.judgements.Perm o'.judgements := by
  have hvalid' : b.validate = .ok () := hre.validate_eq_ok_iff.1 hvalid
  have hselect := Selection.rearranged_select run.criteria hre hvalid
  obtain ⟨-, judgements, heval, rfl⟩ := (execute_eq_ok_iff h).1 hexecute
  obtain ⟨rearranged, heval', hperm⟩ := h.exists_evaluate_of_rearranged hselect heval
  -- The scope is not compared: no valid inventory gives one with repetitions.
  have hnodup := h.scope_nodup run.criteria hvalid'
  refine ⟨_, (execute_eq_ok_iff h).2 ⟨hnodup, rearranged, heval', rfl⟩, rfl, ?_, hperm⟩
  exact Severity.worstOf_eq_of_perm (hperm.map _)

end PreparedRun

namespace Catalogue

variable {a b : Inventory}

/-- Where there is a report in one order there is one in any other, with the same findings. -/
theorem exists_evaluate_of_rearranged {name : String} {s : Settings} {report : Report}
    (h : a.Rearranged b) (heval : standard.evaluate name s a = .ok report) :
    ∃ report', standard.evaluate name s b = .ok report' ∧ report.Reordered report' := by
  obtain ⟨run, o, hprepare, hvalid, hexecute, rfl⟩ := evaluate_eq_ok_iff.1 heval
  obtain ⟨n, -, hbuilt, -⟩ := PreparedRun.built_of_prepare hprepare
  have hvalid' : b.validate = .ok () := h.validate_eq_ok_iff.1 hvalid
  obtain ⟨o', hexecute', hcheck, hoverall, hperm⟩ :=
    PreparedRun.exists_execute_of_rearranged hbuilt h hvalid hexecute
  refine ⟨_, evaluate_eq_ok_iff.2 ⟨run, o', hprepare, hvalid', hexecute', rfl⟩, ?_⟩
  rw [← h.collectedAt_eq]
  exact Report.reordered_ofOutcome hcheck hoverall hperm a.collectedAt

/-- **The order of an inventory is of no account.** Whatever the check and the settings, a run on an
inventory fails exactly if it fails on the same objects in another order; else the two reports have
the same state, summary and findings, and findings that are not equally bad stand in the same
order. An inventory that is refused is refused in every order. -/
theorem evaluate_of_rearranged (h : a.Rearranged b) (name : String) (s : Settings) :
    ((∃ e, standard.evaluate name s b = .error e) ↔ ∃ e, standard.evaluate name s a = .error e) ∧
    ∀ report report', standard.evaluate name s a = .ok report →
      standard.evaluate name s b = .ok report' → report.Reordered report' := by
  constructor
  · cases ha : standard.evaluate name s a with
    | ok report =>
      obtain ⟨report', hb, -⟩ := exists_evaluate_of_rearranged h ha
      simp [hb]
    | error e =>
      cases hb : standard.evaluate name s b with
      | ok report' =>
        -- Put back in the first order, this would be a report as well.
        obtain ⟨report, ha', -⟩ := exists_evaluate_of_rearranged h.symm hb
        rw [ha] at ha'
        cases ha'
      | error e' => simp
  · intro report report' ha hb
    obtain ⟨other, hb', hreordered⟩ := exists_evaluate_of_rearranged h ha
    rw [hb] at hb'
    cases hb'
    exact hreordered

/-! ## Three machines listed backwards

Of two machines nothing is known of the tools, and the third has none, so that two findings are equally
bad. -/

open PreparedRun (pairedSite plainMachine)

/-- One machine without tools, behind two of which nothing is known. -/
def threeMachines : Inventory :=
  { pairedSite with
    virtualMachines :=
      [plainMachine "vm-1" "web" "host-1" [], plainMachine "vm-2" "mail" "host-1" [],
       { plainMachine "vm-3" "db" "host-2" [] with tools := some .notInstalled }] }

/-- The same three the other way round. -/
def backwardMachines : Inventory :=
  { threeMachines with virtualMachines := threeMachines.virtualMachines.reverse }

/-- The two of which nothing is known may change places in the report, and the third stays in
front of them. -/
theorem backwardMachines_reordered :
    threeMachines.Rearranged backwardMachines ∧ threeMachines ≠ backwardMachines ∧
    ∃ report report',
      standard.evaluate CheckName.tools.text .unset threeMachines = .ok report ∧
      standard.evaluate CheckName.tools.text .unset backwardMachines = .ok report' ∧
      report.summary = "1 CRITICAL, 2 WARNING of 3 objects evaluated by check 'tools'" ∧
      report.Reordered report' := by
  have hre : threeMachines.Rearranged backwardMachines :=
    ⟨rfl, rfl, rfl, rfl, .refl _, .refl _, (List.reverse_perm _).symm, .refl _, .refl _⟩
  have hne : threeMachines ≠ backwardMachines := by decide +kernel
  have hsummary : (standard.evaluate CheckName.tools.text .unset threeMachines).map (·.summary)
      = .ok "1 CRITICAL, 2 WARNING of 3 objects evaluated by check 'tools'" := by
    decide +kernel
  have hstate : (standard.evaluate CheckName.tools.text .unset backwardMachines).map (·.state)
      = .ok .critical := by
    decide +kernel
  obtain ⟨report, ha, hsummary⟩ := map_eq_ok_iff.1 hsummary
  obtain ⟨report', hb, -⟩ := map_eq_ok_iff.1 hstate
  -- The two that are equally bad may stand in either order.
  have hreordered := (evaluate_of_rearranged hre _ _).2 report report' ha hb
  exact ⟨hre, hne, report, report', ha, hb, hsummary, hreordered⟩

end Catalogue

end InventoryProbe
