import InventoryProbe.Proofs.Check.Options
import InventoryProbe.Proofs.Run.Execution

/-!
# Which fault of settings is told

Of several faults that settings have for a check, one is told. The time that a run may take comes
first, then the criteria, then the name of the check, and its own options come last. The options of
other checks are not among them.

* **`Settings.Refused`**: the faults in their order.
* **`prepare_standard`**: a run is prepared exactly if there is none of them, and else refused for
  the first.
-/

namespace InventoryProbe

/-- Why a run of a check is refused; each fault is told where there is none of those before it. -/
inductive Settings.Refused (s : Settings) (name : String) : RunError → Prop where
  | timeout (zero : s.timeout = 0) :
    Refused s name
      (.setting (.invalidValue "timeout" "0" "timeout must be at least one second"))
  | criteria (positive : s.timeout ≠ 0) {axis : CriteriaAxis} {rest : List CriteriaAxis}
    (first : s.criteria.contradicted = axis :: rest) :
    Refused s name (.setting (.conflict axis.includeOption axis.excludeOption))
  | unknown (positive : s.timeout ≠ 0) (consistent : s.criteria.contradicted = [])
    (unnamed : ∀ n : CheckName, n.text ≠ name) :
    Refused s name (.catalogue (.unknown name (CheckName.all.map CheckName.text)))
  | options (positive : s.timeout ≠ 0) (consistent : s.criteria.contradicted = [])
    {n : CheckName} (named : n.text = name) {fault : SettingError} (wrong : n.OptionFault s fault) :
    Refused s name (.setting fault)

namespace Catalogue

variable {name : String} {s : Settings}

/-- A check is not built if it is none of the twelve, or for a fault in its options. -/
theorem standard_build_eq_error_iff {e : RunError} :
    standard.build name s = .error e ↔
      ((∀ n : CheckName, n.text ≠ name) ∧
        .catalogue (.unknown name (CheckName.all.map CheckName.text)) = e) ∨
      ∃ n : CheckName, n.text = name ∧ ∃ fault, n.OptionFault s fault ∧ .setting fault = e := by
  -- The name decides first: there are no options to be wrong of a check that there is not.
  by_cases hnamed : ∃ n : CheckName, n.text = name
  · obtain ⟨n, rfl⟩ := hnamed
    rw [build_text, mapError_eq_error_iff]
    simp only [CheckName.build_eq_error_iff]
    constructor
    · intro h
      exact .inr ⟨n, rfl, h⟩
    · rintro (⟨hunnamed, -⟩ | ⟨n', hname, h⟩)
      · exact absurd rfl (hunnamed n)
      · rwa [CheckName.text_injective hname] at h
  · have hunnamed : ∀ n : CheckName, n.text ≠ name := fun n hname => hnamed ⟨n, hname⟩
    rw [build_of_unnamed hunnamed]
    constructor
    · intro h
      cases h
      exact .inl ⟨hunnamed, rfl⟩
    · rintro (⟨-, rfl⟩ | ⟨n, hname, -⟩)
      · rfl
      · exact absurd hname (hunnamed n)

/-- A check is built if it is one of the twelve and its options have no fault. -/
theorem exists_standard_build_eq_ok_iff :
    (∃ check, standard.build name s = .ok check) ↔
      ∃ n : CheckName, n.text = name ∧ ∀ fault, ¬ n.OptionFault s fault := by
  constructor
  · rintro ⟨check, h⟩
    obtain ⟨n, hname, hbuild⟩ := exists_of_build_eq_ok h
    refine ⟨n, hname, fun fault hfault => ?_⟩
    rw [CheckName.build_eq_error_iff.2 hfault] at hbuild
    cases hbuild
  · rintro ⟨n, rfl, hnone⟩
    rw [build_text]
    cases hbuild : n.build s with
    | ok check => exact ⟨check, rfl⟩
    | error fault => exact absurd (CheckName.build_eq_error_iff.1 hbuild) (hnone fault)

end Catalogue

namespace PreparedRun

variable {name : String} {s : Settings}

/-- A run is refused exactly for the first fault there is: of the timeout, of the criteria, of the name,
of the options. -/
theorem prepare_eq_error_iff_refused {e : RunError} :
    prepare .standard name s = .error e ↔ s.Refused name e := by
  rw [prepare_eq_error_iff, Settings.validate_eq_ok_iff, Catalogue.standard_build_eq_error_iff]
  simp only [Settings.validate_eq_error_iff, Criteria.validate_eq_error_iff]
  -- The four kinds of fault, in the order in which they are looked for.
  constructor
  · rintro (⟨_, ⟨hzero, rfl⟩ | ⟨hpositive, axis, rest, hfirst, rfl⟩, rfl⟩ |
      ⟨⟨hpositive, hconsistent⟩, ⟨hunnamed, rfl⟩ | ⟨n, hname, fault, hfault, rfl⟩⟩)
    · exact .timeout hzero
    · exact .criteria hpositive hfirst
    · exact .unknown hpositive hconsistent hunnamed
    · exact .options hpositive hconsistent hname hfault
  · intro h
    cases h with
    | timeout zero => exact .inl ⟨_, .inl ⟨zero, rfl⟩, rfl⟩
    | criteria positive first => exact .inl ⟨_, .inr ⟨positive, _, _, first, rfl⟩, rfl⟩
    | unknown positive consistent unnamed =>
      exact .inr ⟨⟨positive, consistent⟩, .inl ⟨unnamed, rfl⟩⟩
    | options positive consistent named wrong =>
      exact .inr ⟨⟨positive, consistent⟩, .inr ⟨_, named, _, wrong, rfl⟩⟩

/-- A run is prepared exactly if there is no fault at any of the four stages. -/
theorem exists_prepare_eq_ok_iff :
    (∃ run, prepare .standard name s = .ok run) ↔
      s.timeout ≠ 0 ∧ (∀ axis, ¬ s.criteria.Contradicts axis) ∧
        ∃ n : CheckName, n.text = name ∧ ∀ fault, ¬ n.OptionFault s fault := by
  rw [← Criteria.contradicted_eq_nil_iff, ← and_assoc, ← Settings.validate_eq_ok_iff,
    ← Catalogue.exists_standard_build_eq_ok_iff]
  simp only [prepare_eq_ok_iff]
  constructor
  · rintro ⟨run, hvalid, hbuild, -⟩
    exact ⟨hvalid, run.check, hbuild⟩
  · rintro ⟨hvalid, check, hbuild⟩
    exact ⟨⟨s.criteria, check⟩, hvalid, hbuild, rfl⟩

/-- Nothing matters to the preparation but whether the timeout is zero, the criteria, and the options of
the check that was asked for. -/
theorem prepare_eq_of_sameOptions {n : CheckName} {s' : Settings}
    (htimeout : s'.timeout = 0 ↔ s.timeout = 0) (hcriteria : s'.criteria = s.criteria)
    (hoptions : n.SameOptions s' s) :
    prepare .standard n.text s' = prepare .standard n.text s := by
  -- The timeout counts only as far as it is zero or not.
  have hvalidate : s'.validate = s.validate := by
    unfold Settings.validate
    simp only [htimeout, hcriteria]
  have hbuild : Catalogue.standard.build n.text s' = Catalogue.standard.build n.text s := by
    rw [Catalogue.build_text, Catalogue.build_text, CheckName.build_eq_of_sameOptions hoptions]
  unfold prepare
  rw [hvalidate, hbuild, hcriteria]

/-- **One fault is told, and always the same.** Whatever the name and the settings, a run of the
standard catalogue is refused for the first of their faults, in the order of `Settings.Refused`, and
prepared where there is none: the time is not zero, no axis contradicts itself, and the name is that of
a check whose own options are in order. What is set for other checks, be it at fault or not, makes no
difference. -/
theorem prepare_standard (name : String) (s : Settings) :
    (∀ e, prepare .standard name s = .error e ↔ s.Refused name e) ∧
    ((∃ run, prepare .standard name s = .ok run) ↔
      s.timeout ≠ 0 ∧ (∀ axis, ¬ s.criteria.Contradicts axis) ∧
        ∃ n : CheckName, n.text = name ∧ ∀ fault, ¬ n.OptionFault s fault) ∧
    ∀ (n : CheckName) (s' : Settings), n.text = name → (s'.timeout = 0 ↔ s.timeout = 0) →
      s'.criteria = s.criteria → n.SameOptions s' s →
        prepare .standard name s' = prepare .standard name s := by
  refine ⟨fun e => prepare_eq_error_iff_refused, exists_prepare_eq_ok_iff, ?_⟩
  rintro n s' rfl htimeout hcriteria hoptions
  exact prepare_eq_of_sameOptions htimeout hcriteria hoptions

/-- Half a pair of boundaries stops the check that it is set for, and no other one. -/
example :
    let s := { Settings.unset with thresholds := {("host-cpu", ⟨some 90, none⟩)} }
    (prepare .standard "host-cpu" s).map (·.check.name)
      = .error (.setting (.missingPartner "warning" "critical")) ∧
    (prepare .standard "tools" s).map (·.check.name) = .ok "tools" := by
  decide +kernel

end PreparedRun

end InventoryProbe
