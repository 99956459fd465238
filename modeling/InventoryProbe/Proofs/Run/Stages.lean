import InventoryProbe.Proofs.Run.Execution

/-!
# The stages of a run

A run looks at its settings, then takes its inventory, and judges it in the end. Whether the inventory
is at hand or in a file makes a difference for the second stage alone, and the error of a run tells
which stage it ended in.

* **`OfSettings`**, **`Holds`**: the errors of the first stage, and the inventory that a file has for
  the second.
* **`load_of_holds`**: a file that holds an inventory leaves nothing but the rules of identity to be
  checked, as they are for an inventory at hand.
* **`evaluateFile_stages`**: settings come first, and the two ways of running a check agree.
-/

namespace InventoryProbe

/-- That a run has failed for its settings, or for the name that it was given. -/
inductive RunError.OfSettings : RunError → Prop where
  | setting (e : SettingError) : OfSettings (.setting e)
  | catalogue (e : CatalogueError) : OfSettings (.catalogue e)

/-- That the text of a file is that of an inventory, be it one that is refused later. -/
def SourceFile.Holds (file : SourceFile) (inventory : Inventory) : Prop :=
  ∃ text, file.content = .ok text ∧ Inventory.read text = .ok inventory

/-! ## Settings -/

namespace Catalogue

variable {c : Catalogue} {name : String} {s : Settings}

/-- That a check is not built is a fault of the settings. -/
theorem ofSettings_of_build {e : RunError} (h : c.build name s = .error e) : e.OfSettings := by
  unfold build at h
  split at h
  · obtain ⟨fault, -, rfl⟩ := mapError_eq_error_iff.1 h
    exact .setting fault
  · cases h
    exact .catalogue _

end Catalogue

namespace PreparedRun

variable {c : Catalogue} {name : String} {s : Settings} {run : PreparedRun}

theorem ofSettings_of_prepare {e : RunError} (h : prepare c name s = .error e) : e.OfSettings := by
  rcases prepare_eq_error_iff.1 h with ⟨fault, -, rfl⟩ | ⟨-, hbuild⟩
  · exact .setting fault
  · exact Catalogue.ofSettings_of_build hbuild

/-! ## Judging -/

/-- A run fails in the evaluation, and nowhere else. -/
theorem evaluation_of_report {inventory : Inventory} {e : RunError}
    (h : run.report inventory = .error e) : ∃ fault, e = .evaluation fault := by
  unfold report execute at h
  simp only [bind_eq_error_iff, mapError_eq_error_iff] at h
  -- The check has failed or the tally was not closed. Both are told as faults of the evaluation.
  obtain (⟨fault, -, rfl⟩ | ⟨_, -, fault, -, rfl⟩) | ⟨_, -, hpure⟩ := h
  · exact ⟨fault, rfl⟩
  · exact ⟨fault, rfl⟩
  · cases hpure

end PreparedRun

/-! ## Inventories in files -/

namespace SourceFile

variable {file : SourceFile}

/-- A file that holds an inventory is loaded if that passes. -/
theorem load_of_holds {inventory : Inventory} (h : file.Holds inventory) :
    file.load = inventory.validate.mapError .unavailable >>= fun _ => .ok inventory := by
  obtain ⟨text, hcontent, hread⟩ := h
  unfold load
  rw [hcontent]
  show (Inventory.read text).mapError _ >>= _ = _
  rw [hread]
  rfl

/-- A file that is not loaded is not available. -/
theorem unavailable_of_load {e : RunError} (h : file.load = .error e) :
    ∃ reason, e = .unavailable reason := by
  unfold load at h
  simp only [bind_eq_error_iff, mapError_eq_error_iff] at h
  -- The text is not there, or is not that of an inventory, or the inventory is refused.
  obtain ⟨_, -, rfl⟩ | ⟨_, -, ⟨_, -, rfl⟩ | ⟨_, -, ⟨reason, -, rfl⟩ | ⟨_, -, hpure⟩⟩⟩ := h
  · exact ⟨_, rfl⟩
  · exact ⟨_, rfl⟩
  · exact ⟨reason, rfl⟩
  · cases hpure

/-- What is loaded was in the file. -/
theorem holds_of_load {inventory : Inventory} (h : file.load = .ok inventory) :
    file.Holds inventory := by
  unfold load at h
  simp only [bind_eq_ok_iff, mapError_eq_ok_iff] at h
  obtain ⟨text, hcontent, _, hread, _, -, hpure⟩ := h
  cases hpure
  exact ⟨text, hcontent, hread⟩

theorem exists_unavailable_of_not_holds (h : ∀ inventory, ¬ file.Holds inventory) :
    ∃ reason, file.load = .error (.unavailable reason) := by
  cases hload : file.load with
  | ok inventory => exact absurd (holds_of_load hload) (h inventory)
  | error e =>
    obtain ⟨reason, rfl⟩ := unavailable_of_load hload
    exact ⟨reason, rfl⟩

end SourceFile

/-! ## Whole runs -/

namespace Catalogue

variable {c : Catalogue} {name : String} {s : Settings} {run : PreparedRun}

/-- A prepared run on a file loads the file and reports. -/
theorem evaluateFile_of_prepare (h : PreparedRun.prepare c name s = .ok run) (file : SourceFile) :
    c.evaluateFile name s file = file.load >>= run.report := by
  unfold evaluateFile
  rw [h]
  rfl

/-- A prepared run on an inventory validates the inventory and reports. -/
theorem evaluate_of_prepare (h : PreparedRun.prepare c name s = .ok run) (inventory : Inventory) :
    c.evaluate name s inventory
      = inventory.validate.mapError .unavailable >>= fun _ => run.report inventory := by
  unfold evaluate
  rw [h]
  rfl

theorem evaluateFile_eq_evaluate (h : PreparedRun.prepare c name s = .ok run) {file : SourceFile}
    {inventory : Inventory} (hholds : file.Holds inventory) :
    c.evaluateFile name s file = c.evaluate name s inventory := by
  rw [evaluateFile_of_prepare h, evaluate_of_prepare h, SourceFile.load_of_holds hholds]
  cases inventory.validate with
  | ok _ => rfl
  | error _ => rfl

/-- Behind the preparation nothing is blamed on the settings. -/
theorem not_ofSettings_of_evaluateFile (h : PreparedRun.prepare c name s = .ok run)
    {file : SourceFile} {e : RunError} (herror : c.evaluateFile name s file = .error e) :
    ¬ e.OfSettings := by
  rw [evaluateFile_of_prepare h] at herror
  rcases bind_eq_error_iff.1 herror with hload | ⟨inventory, -, hreport⟩
  · obtain ⟨reason, rfl⟩ := SourceFile.unavailable_of_load hload
    exact nofun
  · obtain ⟨fault, rfl⟩ := PreparedRun.evaluation_of_report hreport
    exact nofun

theorem not_ofSettings_of_evaluate (h : PreparedRun.prepare c name s = .ok run)
    {inventory : Inventory} {e : RunError} (herror : c.evaluate name s inventory = .error e) :
    ¬ e.OfSettings := by
  rw [evaluate_of_prepare h] at herror
  rcases bind_eq_error_iff.1 herror with hinvalid | ⟨_, -, hreport⟩
  · obtain ⟨reason, -, rfl⟩ := mapError_eq_error_iff.1 hinvalid
    exact nofun
  · obtain ⟨fault, rfl⟩ := PreparedRun.evaluation_of_report hreport
    exact nofun

/-- **Settings come first, and a file is as good as what it holds.** A run that cannot be prepared
fails alike on every file and on every inventory. One that can gives the same report or the same error
on a file as on the inventory that the file holds, finds no inventory in a file that holds none, and
no longer fails for its settings. -/
theorem evaluateFile_stages (c : Catalogue) (name : String) (s : Settings) :
    (∀ e, PreparedRun.prepare c name s = .error e → e.OfSettings ∧
      (∀ file, c.evaluateFile name s file = .error e) ∧
      ∀ inventory, c.evaluate name s inventory = .error e) ∧
    ∀ run, PreparedRun.prepare c name s = .ok run →
      (∀ file inventory, file.Holds inventory →
        c.evaluateFile name s file = c.evaluate name s inventory) ∧
      (∀ file, (∀ inventory, ¬ file.Holds inventory) →
        ∃ reason, c.evaluateFile name s file = .error (.unavailable reason)) ∧
      (∀ file e, c.evaluateFile name s file = .error e → ¬ e.OfSettings) ∧
      ∀ inventory e, c.evaluate name s inventory = .error e → ¬ e.OfSettings := by
  constructor
  · intro e h
    refine ⟨PreparedRun.ofSettings_of_prepare h, fun file => ?_, fun inventory => ?_⟩
    · -- The preparation comes first, whatever there is to read.
      exact bind_eq_error_iff.2 (.inl h)
    · exact bind_eq_error_iff.2 (.inl h)
  · intro run h
    refine ⟨fun file inventory => evaluateFile_eq_evaluate h, fun file hnone => ?_,
      fun file e => not_ofSettings_of_evaluateFile h, fun inventory e => not_ofSettings_of_evaluate h⟩
    -- Without an inventory the run ends at the file.
    obtain ⟨reason, hload⟩ := SourceFile.exists_unavailable_of_not_holds hnone
    refine ⟨reason, ?_⟩
    rw [evaluateFile_of_prepare h, hload]
    rfl

end Catalogue

end InventoryProbe
