import Mathlib.Data.List.Basic
import InventoryProbe.Proofs.Failure
import InventoryProbe.Settings.Basic

/-!
# Faults of settings

Which settings are refused, and which of several faults is told. The faults are read off what is
given: the axes that contradict themselves, and the version policies that are asked for, each in a
fixed order.

* **`Criteria.validate_eq_error_iff`**: criteria are refused for the first axis that contradicts
  itself.
* **`VersionPolicy.ofSettings_eq_error_iff`**: options for versions are refused for the first two
  policies given, or else for half a pair of boundaries.
-/

namespace InventoryProbe

/-! ## Criteria -/

/-- The axes of criteria. -/
inductive CriteriaAxis where
  | pools
  | entityTypes
  | alarmNames
  | statuses
  deriving DecidableEq, Repr

namespace CriteriaAxis

/-- The axes in the order in which they are looked at. -/
def all : List CriteriaAxis := [.pools, .entityTypes, .alarmNames, .statuses]

/-- The option that includes values along an axis. -/
def includeOption : CriteriaAxis → String
  | .pools => "include-rp"
  | .entityTypes => "include-type"
  | .alarmNames => "include-name"
  | .statuses => "include-status"

/-- The option that excludes them. -/
def excludeOption : CriteriaAxis → String
  | .pools => "exclude-rp"
  | .entityTypes => "exclude-type"
  | .alarmNames => "exclude-name"
  | .statuses => "exclude-status"

end CriteriaAxis

/-- An axis contradicts itself if values are included as well as excluded. -/
theorem Axis.isContradictory_iff {α : Type} [Ord α] [Std.TransOrd α] {axis : Axis α} :
    axis.isContradictory ↔ axis.included ≠ ∅ ∧ axis.excluded ≠ ∅ := by
  simp [isContradictory]

namespace Criteria

variable {c : Criteria}

/-- That values are included along an axis as well as excluded. -/
def Contradicts (c : Criteria) : CriteriaAxis → Prop
  | .pools => c.pools.included ≠ ∅ ∧ c.pools.excluded ≠ ∅
  | .entityTypes => c.entityTypes.included ≠ ∅ ∧ c.entityTypes.excluded ≠ ∅
  | .alarmNames => c.alarmNames.included ≠ ∅ ∧ c.alarmNames.excluded ≠ ∅
  | .statuses => c.statuses.included ≠ ∅ ∧ c.statuses.excluded ≠ ∅

instance (c : Criteria) : DecidablePred c.Contradicts
  | .pools => decidable_of_iff _ Axis.isContradictory_iff
  | .entityTypes => decidable_of_iff _ Axis.isContradictory_iff
  | .alarmNames => decidable_of_iff _ Axis.isContradictory_iff
  | .statuses => decidable_of_iff _ Axis.isContradictory_iff

/-- The axes that contradict themselves. -/
def contradicted (c : Criteria) : List CriteriaAxis := CriteriaAxis.all.filter c.Contradicts

/-- Nothing is contradicted exactly if no axis is. -/
theorem contradicted_eq_nil_iff : c.contradicted = [] ↔ ∀ axis, ¬ c.Contradicts axis := by
  unfold contradicted
  rw [List.filter_eq_nil_iff]
  constructor
  · intro h axis
    -- The list has every axis in it.
    have hmem : axis ∈ CriteriaAxis.all := by cases axis <;> decide
    simpa using h axis hmem
  · intro h axis _
    simpa using h axis

/-- The axes are gone through in a fixed order. -/
theorem contradictions_eq (c : Criteria) :
    c.contradictions = CriteriaAxis.all.map fun axis =>
      (decide (c.Contradicts axis), axis.includeOption, axis.excludeOption) := by
  simp only [contradictions, CriteriaAxis.all, List.map, Contradicts, ← Axis.isContradictory_iff,
    Bool.decide_eq_true, CriteriaAxis.includeOption, CriteriaAxis.excludeOption]

/-- What is told of criteria is the first of the axes that contradict themselves. -/
theorem validate_eq (c : Criteria) :
    c.validate = match c.contradicted with
      | [] => .ok ()
      | axis :: _ => .error (.conflict axis.includeOption axis.excludeOption) := by
  -- The search stops at the first axis that is contradicted.
  have hfind : c.contradictions.find? (·.1) = c.contradicted.head?.map fun axis =>
      (decide (c.Contradicts axis), axis.includeOption, axis.excludeOption) := by
    rw [contradictions_eq, List.find?_map]
    unfold contradicted
    rw [List.head?_filter]
    rfl
  unfold validate
  rw [hfind]
  cases c.contradicted with
  | nil => rfl
  | cons axis rest => rfl

theorem validate_eq_error_iff {e : SettingError} :
    c.validate = .error e ↔ ∃ axis rest, c.contradicted = axis :: rest ∧
      .conflict axis.includeOption axis.excludeOption = e := by
  rw [validate_eq]
  cases c.contradicted with
  | nil => simp
  | cons axis rest => simp

theorem validate_eq_ok_iff : c.validate = .ok () ↔ c.contradicted = [] := by
  rw [validate_eq]
  cases c.contradicted with
  | nil => simp
  | cons axis rest => simp

end Criteria

/-! ## Versions -/

/-- What options for versions can ask for. -/
inductive PolicyKind where
  | homogeneous
  | outdatedBy
  | minimumRequired
  | defaultIsMinimum
  deriving DecidableEq, Repr

/-- The policies in the order in which their options are looked at. -/
def PolicyKind.all : List PolicyKind :=
  [.homogeneous, .outdatedBy, .minimumRequired, .defaultIsMinimum]

namespace VersionSettings

variable {s : VersionSettings}

/-- Whether a policy is asked for; one of its two boundaries is enough for `outdatedBy`. -/
def gives (s : VersionSettings) : PolicyKind → Bool
  | .homogeneous => s.homogeneous
  | .outdatedBy => s.outdatedByWarning.isSome || s.outdatedByCritical.isSome
  | .minimumRequired => s.minimumRequired.isSome
  | .defaultIsMinimum => s.defaultIsMinimum

/-- The policies that are asked for. -/
def given (s : VersionSettings) : List PolicyKind := PolicyKind.all.filter s.gives

/-- The option that is named for a policy. -/
def optionFor (s : VersionSettings) : PolicyKind → String
  | .homogeneous => "homogeneous"
  | .outdatedBy =>
    if s.outdatedByWarning.isSome then "outdated-by-warning" else "outdated-by-critical"
  | .minimumRequired => "minimum-required"
  | .defaultIsMinimum => "default-is-minimum"

/-- What is selected are the options of the policies that are given. -/
theorem selected_eq (s : VersionSettings) : s.selected = s.given.map s.optionFor := by
  obtain ⟨_ | _, _ | _, _ | _, _ | _, _ | _⟩ := s <;> rfl

/-- What is wrong with options for versions: that two policies or more are asked for, or, where this
is not so, that of the two boundaries there is only one. -/
inductive Fault (s : VersionSettings) : SettingError → Prop where
  | conflict {first second : PolicyKind} {rest : List PolicyKind}
    (many : s.given = first :: second :: rest) :
    Fault s (.conflict (s.optionFor first) (s.optionFor second))
  | noCritical (few : s.given.length ≤ 1) (warning : s.outdatedByWarning ≠ none)
    (critical : s.outdatedByCritical = none) :
    Fault s (.missingPartner "outdated-by-warning" "outdated-by-critical")
  | noWarning (few : s.given.length ≤ 1) (warning : s.outdatedByWarning = none)
    (critical : s.outdatedByCritical ≠ none) :
    Fault s (.missingPartner "outdated-by-critical" "outdated-by-warning")

/-- One policy is given at most, or there are a first and a second. -/
theorem few_or_many (s : VersionSettings) :
    s.given.length ≤ 1 ∨ ∃ first second rest, s.given = first :: second :: rest := by
  rcases s.given with _ | ⟨first, _ | ⟨second, rest⟩⟩
  · exact .inl (Nat.zero_le 1)
  · exact .inl (Nat.le_refl 1)
  · exact .inr ⟨first, second, rest, rfl⟩

/-- Where two policies are asked for, nothing else is told. -/
theorem fault_iff_of_many {first second : PolicyKind} {rest : List PolicyKind}
    (many : s.given = first :: second :: rest) {e : SettingError} :
    s.Fault e ↔ .conflict (s.optionFor first) (s.optionFor second) = e := by
  constructor
  · intro h
    cases h with
    -- The first two that are given are the same, however they are found.
    | conflict many' =>
      rw [many] at many'
      cases many'
      rfl
    | noCritical few => simp [many] at few
    | noWarning few => simp [many] at few
  · rintro rfl
    exact .conflict many

/-- Where no two policies are asked for, only half a pair of boundaries is wrong. -/
theorem fault_iff_of_few (few : s.given.length ≤ 1) {e : SettingError} :
    s.Fault e ↔
      (s.outdatedByWarning ≠ none ∧ s.outdatedByCritical = none ∧
        .missingPartner "outdated-by-warning" "outdated-by-critical" = e) ∨
      s.outdatedByWarning = none ∧ s.outdatedByCritical ≠ none ∧
        .missingPartner "outdated-by-critical" "outdated-by-warning" = e := by
  constructor
  · intro h
    cases h with
    | conflict many => simp [many] at few
    | noCritical _ warning critical => exact .inl ⟨warning, critical, rfl⟩
    | noWarning _ warning critical => exact .inr ⟨warning, critical, rfl⟩
  · rintro (⟨warning, critical, rfl⟩ | ⟨warning, critical, rfl⟩)
    · exact .noCritical few warning critical
    · exact .noWarning few warning critical

end VersionSettings

/-- Of a pair of options it is only told that one of them is missing. -/
theorem Thresholds.ofOptions_eq_error_iff {α : Type} {warningOption criticalOption : String}
    {warning critical : Option α} {e : SettingError} :
    ofOptions warningOption criticalOption warning critical = .error e ↔
      (warning ≠ none ∧ critical = none ∧ .missingPartner warningOption criticalOption = e) ∨
        warning = none ∧ critical ≠ none ∧ .missingPartner criticalOption warningOption = e := by
  cases warning <;> cases critical <;> simp [ofOptions]

namespace VersionPolicy

variable {s : VersionSettings} {e : SettingError}

/-- Two policies are in conflict, whatever else is wrong. -/
theorem ofSettings_of_many {first second : PolicyKind} {rest : List PolicyKind}
    (many : s.given = first :: second :: rest) :
    ofSettings s = .error (.conflict (s.optionFor first) (s.optionFor second)) := by
  unfold ofSettings
  rw [s.selected_eq, many]
  rfl

/-- With one policy at most only the boundaries can be at fault. -/
theorem ofSettings_eq_error_iff_of_few (few : s.given.length ≤ 1) :
    ofSettings s = .error e ↔
      Thresholds.ofOptions "outdated-by-warning" "outdated-by-critical"
        (s.outdatedByWarning.map UInt32.toNat) (s.outdatedByCritical.map UInt32.toNat)
          = .error e := by
  unfold ofSettings
  rw [s.selected_eq]
  split
  · -- Two are more than one.
    next hmany =>
    have hlength := congrArg List.length hmany
    simp at hlength
    omega
  · rw [bind_eq_error_iff]
    simp [pure, Except.pure]

/-- Options for versions are refused for their fault, and for nothing else. -/
theorem ofSettings_eq_error_iff : ofSettings s = .error e ↔ s.Fault e := by
  rcases s.few_or_many with few | ⟨first, second, rest, many⟩
  · rw [ofSettings_eq_error_iff_of_few few, Thresholds.ofOptions_eq_error_iff, s.fault_iff_of_few few]
    simp
  · rw [ofSettings_of_many many, s.fault_iff_of_many many]
    simp

end VersionPolicy

/-! ## Settings for any check -/

namespace Settings

variable {s : Settings}

/-- Settings are refused for a timeout of zero, and then for their criteria. -/
theorem validate_eq_error_iff {e : SettingError} :
    s.validate = .error e ↔
      (s.timeout = 0 ∧
        .invalidValue "timeout" "0" "timeout must be at least one second" = e) ∨
      s.timeout ≠ 0 ∧ s.criteria.validate = .error e := by
  unfold validate
  split
  · next hzero => simp [hzero]
  · next hpositive => simp [hpositive]

theorem validate_eq_ok_iff :
    s.validate = .ok () ↔ s.timeout ≠ 0 ∧ s.criteria.contradicted = [] := by
  rw [← Criteria.validate_eq_ok_iff]
  unfold validate
  split
  · next hzero => simp [hzero]
  · next hpositive => simp [hpositive]

end Settings

end InventoryProbe
