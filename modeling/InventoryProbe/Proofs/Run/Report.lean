import InventoryProbe.Proofs.Run.Execution

/-!
# What the report of a run tells

A supervisor reads the state of a report. It can tell a run that could not be carried out from an
inventory in a bad state because no check judges an object `unknown`, so that only a failure makes a
report `unknown`.

* **`evaluateFile_eq_ok_iff`**, **`evaluate_eq_ok_iff`**: the steps of a run, all of which have
  succeeded if it has.
* **`Sound`**: a report on what was found, with the worst severity as its state.
* **`run_report`**: every report is of a failure, and `unknown`, or else it is sound.
-/

namespace InventoryProbe

namespace Severity

/-- The exit status says which severity it is. -/
theorem exitCode_injective {a b : Severity} (h : a.exitCode = b.exitCode) : a = b :=
  rank_injective h

theorem exitCode_eq_three_iff {a : Severity} : a.exitCode = 3 ↔ a = .unknown :=
  ⟨fun h => exitCode_injective h, fun h => h ▸ rfl⟩

/-- What was decided has one of three states, each with its exit code. -/
theorem ok_or_warning_or_critical {a : Severity} (h : a ≠ .unknown) :
    (a = .ok ∧ a.exitCode = 0) ∨ (a = .warning ∧ a.exitCode = 1) ∨
      (a = .critical ∧ a.exitCode = 2) := by
  cases a with
  | ok => exact .inl ⟨rfl, rfl⟩
  | warning => exact .inr (.inl ⟨rfl, rfl⟩)
  | critical => exact .inr (.inr ⟨rfl, rfl⟩)
  | unknown => exact absurd rfl h

end Severity

namespace PreparedRun

variable {s : Settings} {n : CheckName} {run : PreparedRun} {inventory : Inventory} {o : Outcome}

/-- A run is as bad as the worst of its judgements. -/
theorem isWorstOf_overall_of_execute (hexecute : run.execute inventory = .ok o) :
    o.overall.IsWorstOf (o.judgements.map (·.severity)) := by
  obtain ⟨history, hclose⟩ := exists_close_of_execute hexecute
  exact Tally.isWorstOf_overall_of_close hclose

/-- A run of a check leaves nothing undecided. -/
theorem overall_ne_unknown_of_execute (h : run.check.Built s n)
    (hexecute : run.execute inventory = .ok o) : o.overall ≠ .unknown := by
  obtain ⟨-, judgements, heval, rfl⟩ := (execute_eq_ok_iff h).1 hexecute
  apply Severity.worstOf_ne_unknown
  rw [List.forall_mem_map]
  exact fun j hj => h.severity_ne_unknown heval hj

end PreparedRun

namespace Catalogue

/-- A run on a file has come to its report by preparing, loading and executing. -/
theorem evaluateFile_eq_ok_iff {c : Catalogue} {name : String} {s : Settings} {file : SourceFile}
    {report : Report} :
    c.evaluateFile name s file = .ok report ↔
      ∃ run inventory o, PreparedRun.prepare c name s = .ok run ∧ file.load = .ok inventory ∧
        run.execute inventory = .ok o ∧ report = .ofOutcome o inventory.collectedAt := by
  unfold evaluateFile PreparedRun.report
  simp only [bind_eq_ok_iff]
  -- The last step only puts the report together, and cannot fail.
  constructor
  · rintro ⟨run, hprepare, inventory, hload, o, hexecute, hreport⟩
    cases hreport
    exact ⟨run, inventory, o, hprepare, hload, hexecute, rfl⟩
  · rintro ⟨run, inventory, o, hprepare, hload, hexecute, rfl⟩
    exact ⟨run, hprepare, inventory, hload, o, hexecute, rfl⟩

/-- A run on an inventory at hand has come to its report by preparing, validating and executing. -/
theorem evaluate_eq_ok_iff {c : Catalogue} {name : String} {s : Settings} {inventory : Inventory}
    {report : Report} :
    c.evaluate name s inventory = .ok report ↔
      ∃ run o, PreparedRun.prepare c name s = .ok run ∧ inventory.validate = .ok () ∧
        run.execute inventory = .ok o ∧ report = .ofOutcome o inventory.collectedAt := by
  unfold evaluate PreparedRun.report
  simp only [bind_eq_ok_iff, mapError_eq_ok_iff]
  constructor
  · rintro ⟨run, hprepare, _, hvalid, o, hexecute, hreport⟩
    cases hreport
    exact ⟨run, o, hprepare, hvalid, hexecute, rfl⟩
  · rintro ⟨run, o, hprepare, hvalid, hexecute, rfl⟩
    exact ⟨run, hprepare, (), hvalid, o, hexecute, rfl⟩

/-- That a report tells what a run of a check found in the inventory of a file. -/
structure Sound (c : Catalogue) (name : String) (s : Settings) (file : SourceFile)
    (report : Report) : Prop where
  found : ∃ run inventory o, PreparedRun.prepare c name s = .ok run ∧
    file.load = .ok inventory ∧ run.execute inventory = .ok o ∧
    report.collectedAt = some inventory.collectedAt ∧ report.evaluated = o.judgements.length ∧
    report.state.IsWorstOf (o.judgements.map (·.severity))
  state : (report.state = .ok ∧ report.exitCode = 0) ∨
    (report.state = .warning ∧ report.exitCode = 1) ∨
    (report.state = .critical ∧ report.exitCode = 2)

/-- A report that is returned is sound. -/
theorem sound_of_evaluateFile {name : String} {s : Settings} {file : SourceFile} {report : Report}
    (h : standard.evaluateFile name s file = .ok report) : standard.Sound name s file report := by
  obtain ⟨run, inventory, o, hprepare, hload, hexecute, rfl⟩ := evaluateFile_eq_ok_iff.1 h
  obtain ⟨n, -, hbuilt, -⟩ := PreparedRun.built_of_prepare hprepare
  have hworst := PreparedRun.isWorstOf_overall_of_execute hexecute
  have hknown := PreparedRun.overall_ne_unknown_of_execute hbuilt hexecute
  exact ⟨⟨run, inventory, o, hprepare, hload, hexecute, rfl, rfl, hworst⟩,
    Severity.ok_or_warning_or_critical hknown⟩

/-- A sound report has decided. -/
theorem Sound.state_ne_unknown {c : Catalogue} {name : String} {s : Settings} {file : SourceFile}
    {report : Report} (h : c.Sound name s file report) : report.state ≠ .unknown := by
  intro hunknown
  rcases h.state with ⟨hstate, -⟩ | ⟨hstate, -⟩ | ⟨hstate, -⟩
  · rw [hstate] at hunknown
    cases hunknown
  · rw [hstate] at hunknown
    cases hunknown
  · rw [hstate] at hunknown
    cases hunknown

/-- **A failed run and a bad inventory are told apart.** Whatever the name, the settings and the
file, the report is `unknown`, with exit status 3, exactly if the run fails, and is then empty. Else
it tells when the inventory was collected and has the worst severity of all judgements as its state;
for no check of the catalogue judges an object `unknown`. -/
theorem run_report (name : String) (s : Settings) (file : SourceFile) :
    ((standard.run name s file).state = .unknown ↔
      ∃ e, standard.evaluateFile name s file = .error e) ∧
    ((standard.run name s file).exitCode = 3 ↔
      ∃ e, standard.evaluateFile name s file = .error e) ∧
    (∀ e, standard.evaluateFile name s file = .error e →
      (standard.run name s file).findings = [] ∧ (standard.run name s file).evaluated = 0 ∧
        (standard.run name s file).collectedAt = none) ∧
    (∀ report, standard.evaluateFile name s file = .ok report →
      standard.run name s file = report ∧ standard.Sound name s file report) ∧
    (∀ check, standard.build name s = .ok check → ∀ selection judgements,
      check.evaluate selection = .ok judgements → ∀ j ∈ judgements, j.severity ≠ .unknown) := by
  have hchecks : ∀ check, standard.build name s = .ok check → ∀ selection judgements,
      check.evaluate selection = .ok judgements → ∀ j ∈ judgements, j.severity ≠ .unknown := by
    intro check hbuild selection judgements heval j hj
    obtain ⟨n, -, hbuild⟩ := exists_of_build_eq_ok hbuild
    exact (CheckName.built_of_build_eq_ok hbuild).severity_ne_unknown heval hj
  unfold run
  cases hrun : standard.evaluateFile name s file with
  | ok report =>
    -- A completed run stands for itself, and its state is one of the inventory.
    have hsound := sound_of_evaluateFile hrun
    have hknown := hsound.state_ne_unknown
    have hexit : report.exitCode ≠ 3 := mt Severity.exitCode_eq_three_iff.1 hknown
    have hcompleted : ¬ ∃ e : RunError, Except.ok report = .error e := by simp
    refine ⟨iff_of_false hknown hcompleted, iff_of_false hexit hcompleted, fun e he => ?_,
      fun report' heq => ?_, hchecks⟩
    · cases he
    · cases heq
      exact ⟨rfl, hsound⟩
  | error e =>
    -- A run that has failed leaves the empty report, which is unknown.
    refine ⟨iff_of_true rfl ⟨e, rfl⟩, iff_of_true rfl ⟨e, rfl⟩, fun _ _ => ⟨rfl, rfl, rfl⟩,
      fun report heq => ?_, hchecks⟩
    cases heq

end Catalogue

end InventoryProbe
