import InventoryProbe.Proofs.Binary64
import InventoryProbe.Proofs.Settings.Validity
import InventoryProbe.Thresholds

/-!
# Boundaries in force

Boundaries are set in two layers, each of which may give none, one or both. Only what comes out of both
layers is looked at: first whether each number can be a boundary, the warning boundary before the
critical one, and then whether both are there. So a bad number is told even where its partner is
missing, and defaults stand in for both boundaries or for none.

* **`ThresholdSettings.Fault`**: what boundaries are refused for.
* **`ThresholdSettings.resolve_above`**: boundaries in two layers are refused for their fault or put in
  force.
-/

namespace InventoryProbe

/-! ## Numbers that can be boundaries -/

/-- That a number cannot be a boundary. Neither of the two zeros lies below zero. -/
inductive Binary64.Unfit : Binary64 → Prop where
  | nan : Unfit .nan
  | infinite (negative : Bool) : Unfit (.infinite negative)
  | below {x : Binary64} (h : x < 0) : Unfit x

/-- What is fit for a boundary is finite and not negative. -/
theorem Binary64.not_unfit_iff {x : Binary64} : ¬ x.Unfit ↔ x.isFinite ∧ 0 ≤ x := by
  cases x with
  | nan => exact iff_of_false (fun h => h .nan) fun h => absurd h.1 (by decide)
  | infinite negative => exact iff_of_false (fun h => h (.infinite negative)) fun h => nomatch h.1
  | finite negative units fits =>
    -- Only the sign of a finite number can be at fault.
    have hunfit : (finite negative units fits).Unfit ↔ finite negative units fits < 0 := by
      constructor
      · rintro (_ | _ | h)
        exact h
      · exact .below
    rw [hunfit, not_lt_iff_of_place rfl place_zero]
    exact (and_iff_right rfl).symm

namespace ThresholdSettings

variable {s : ThresholdSettings} {defaults t : Thresholds Binary64} {e : SettingError}
variable {option : String} {boundary : Option Binary64}

/-! ## One boundary -/

/-- What is told of a number that cannot be a boundary. -/
def unfitValue (option : String) (x : Binary64) : SettingError :=
  .invalidValue option x.plain "threshold must be a finite, non-negative number"

/-- A value that is given is refused for being unfit, and for nothing else. -/
theorem validate_some (option : String) (x : Binary64) :
    validate option (some x) =
      if x.isFinite ∧ 0 ≤ x then .ok () else .error (unfitValue option x) := by
  unfold validate
  simp only [Bool.and_eq_true, decide_eq_true_eq]
  rfl

/-- An option passes if no unfit value is given for it. -/
theorem validate_eq_ok_iff {u : Unit} :
    validate option boundary = .ok u ↔ ∀ x ∈ boundary, ¬ x.Unfit := by
  cases boundary with
  | none => simp [validate]
  | some x =>
    simp only [validate_some, Option.mem_some_iff, forall_eq', Binary64.not_unfit_iff]
    split
    · next hfit => exact iff_of_true rfl hfit
    · next hunfit => exact iff_of_false (fun h => nomatch h) hunfit

/-- The refusal is that of the unfit value which is given. -/
theorem validate_eq_error_iff :
    validate option boundary = .error e ↔ ∃ x ∈ boundary, x.Unfit ∧ unfitValue option x = e := by
  cases boundary with
  | none => simp [validate]
  | some x =>
    simp only [validate_some, Option.mem_some_iff, exists_eq_left']
    split
    · next hfit =>
      exact iff_of_false (fun h => nomatch h) fun h => Binary64.not_unfit_iff.2 hfit h.1
    · next hunfit =>
      rw [← Binary64.not_unfit_iff, not_not] at hunfit
      rw [and_iff_right hunfit, Except.error.injEq]

/-! ## Both boundaries -/

/-- What is wrong with boundaries of which either may be missing. -/
inductive Fault (s : ThresholdSettings) : SettingError → Prop where
  | warning {x : Binary64} (set : s.warning = some x) (unfit : x.Unfit) :
    Fault s (unfitValue "warning" x)
  /-- The critical boundary is blamed only where nothing is wrong with the other one. -/
  | critical {x : Binary64} (before : ∀ y ∈ s.warning, ¬ y.Unfit) (set : s.critical = some x)
      (unfit : x.Unfit) : Fault s (unfitValue "critical" x)
  | noCritical {x : Binary64} (set : s.warning = some x) (fit : ¬ x.Unfit)
      (missing : s.critical = none) : Fault s (.missingPartner "warning" "critical")
  | noWarning {x : Binary64} (missing : s.warning = none) (set : s.critical = some x)
      (fit : ¬ x.Unfit) : Fault s (.missingPartner "critical" "warning")

end ThresholdSettings

/-- Of a pair of options both are there, or neither is. -/
theorem Thresholds.ofOptions_eq_ok_iff {α : Type} {warningOption criticalOption : String}
    {warning critical : Option α} {given : Option (Thresholds α)} :
    ofOptions warningOption criticalOption warning critical = .ok given ↔
      (∃ x y, warning = some x ∧ critical = some y ∧ some ⟨x, y⟩ = given) ∨
        warning = none ∧ critical = none ∧ none = given := by
  cases warning <;> cases critical <;> simp [ofOptions]

namespace ThresholdSettings

variable {s : ThresholdSettings} {defaults t : Thresholds Binary64} {e : SettingError}

/-- The options are refused exactly for the faults listed: the fitness of each value comes before the
question whether both are given. -/
theorem resolve_eq_error_iff : s.resolve defaults = .error e ↔ s.Fault e := by
  unfold resolve
  simp only [bind_eq_error_iff, validate_eq_error_iff, validate_eq_ok_iff,
    Thresholds.ofOptions_eq_error_iff]
  constructor
  · -- Each way in which the chain can stop is one of the faults.
    rintro (⟨x, hx, hunfit, rfl⟩ | ⟨-, hwarning, ⟨x, hx, hunfit, rfl⟩ | ⟨-, hcritical, h⟩⟩)
    · exact .warning hx hunfit
    · exact .critical hwarning hx hunfit
    · rcases h with (⟨hset, hmissing, rfl⟩ | ⟨hmissing, hset, rfl⟩) | ⟨_, -, hpure⟩
      · obtain ⟨x, hx⟩ := Option.ne_none_iff_exists'.1 hset
        exact .noCritical hx (hwarning x hx) hmissing
      · obtain ⟨x, hx⟩ := Option.ne_none_iff_exists'.1 hset
        exact .noWarning hmissing hx (hcritical x hx)
      · cases hpure
  · -- Each fault lets the chain pass up to the place where it is found.
    rintro (⟨hset, hunfit⟩ | ⟨hbefore, hset, hunfit⟩ | ⟨hset, hfit, hmissing⟩ |
      ⟨hmissing, hset, hfit⟩)
    · exact .inl ⟨_, hset, hunfit, rfl⟩
    · exact .inr ⟨(), hbefore, .inl ⟨_, hset, hunfit, rfl⟩⟩
    · refine .inr ⟨(), by simpa [hset] using hfit, .inr ⟨(), by simp [hmissing], .inl (.inl ?_)⟩⟩
      exact ⟨by simp [hset], hmissing, rfl⟩
    · refine .inr ⟨(), by simp [hmissing], .inr ⟨(), by simpa [hset] using hfit, .inl (.inr ?_)⟩⟩
      exact ⟨hmissing, by simp [hset], rfl⟩

/-- Boundaries that are set are in force as they stand, and the defaults where none is set. -/
theorem resolve_eq_ok_iff :
    s.resolve defaults = .ok t ↔
      (s.warning = some t.warning ∧ s.critical = some t.critical ∧
        (t.warning.isFinite ∧ 0 ≤ t.warning) ∧ t.critical.isFinite ∧ 0 ≤ t.critical) ∨
        s.warning = none ∧ s.critical = none ∧ t = defaults := by
  unfold resolve
  simp only [bind_eq_ok_iff, validate_eq_ok_iff, Thresholds.ofOptions_eq_ok_iff,
    ← Binary64.not_unfit_iff]
  constructor
  · -- Nothing was refused, so that both values are fit where they are given.
    rintro ⟨-, hwarning, -, hcritical, _, ⟨x, y, hx, hy, rfl⟩ | ⟨hx, hy, rfl⟩, ⟨⟩⟩
    · exact .inl ⟨hx, hy, hwarning x hx, hcritical y hy⟩
    · exact .inr ⟨hx, hy, rfl⟩
  · rintro (⟨hx, hy, hfitx, hfity⟩ | ⟨hx, hy, rfl⟩)
    · refine ⟨(), by simpa [hx] using hfitx, (), by simpa [hy] using hfity, some t, ?_, rfl⟩
      exact .inl ⟨t.warning, t.critical, hx, hy, rfl⟩
    · exact ⟨(), by simp [hx], (), by simp [hy], none, .inr ⟨hx, hy, rfl⟩, rfl⟩

/-! ## Kinds of faults -/

/-- Some value is refused exactly if one of the two is unfit. -/
theorem exists_fault_invalidValue_iff :
    (∃ option value reason, s.Fault (.invalidValue option value reason)) ↔
      (∃ x ∈ s.warning, x.Unfit) ∨ ∃ x ∈ s.critical, x.Unfit := by
  constructor
  · rintro ⟨option, value, reason, h⟩
    cases h with
    | warning hset hunfit => exact .inl ⟨_, hset, hunfit⟩
    | critical _ hset hunfit => exact .inr ⟨_, hset, hunfit⟩
  · intro h
    -- The warning boundary is looked at first, so that it is the one to blame if both are unfit.
    by_cases hwarning : ∃ x ∈ s.warning, x.Unfit
    · obtain ⟨x, hset, hunfit⟩ := hwarning
      exact ⟨_, _, _, .warning hset hunfit⟩
    · obtain ⟨x, hset, hunfit⟩ := h.resolve_left hwarning
      exact ⟨_, _, _, .critical (fun y hy hbad => hwarning ⟨y, hy, hbad⟩) hset hunfit⟩

/-- A partner is missed exactly if one of the two is given alone, and is fit. -/
theorem exists_fault_missingPartner_iff :
    (∃ option partner, s.Fault (.missingPartner option partner)) ↔
      ¬ ((∃ x ∈ s.warning, x.Unfit) ∨ ∃ x ∈ s.critical, x.Unfit) ∧
        s.warning.isSome ≠ s.critical.isSome := by
  constructor
  · rintro ⟨option, partner, h⟩
    cases h with
    | noCritical hset hfit hmissing => simpa [hset, hmissing] using hfit
    | noWarning hmissing hset hfit => simpa [hset, hmissing] using hfit
  · rintro ⟨hfit, hone⟩
    -- Two of the four combinations are of one boundary alone.
    cases hwarning : s.warning with
    | some x =>
      cases hcritical : s.critical with
      | some y => simp [hwarning, hcritical] at hone
      | none => exact ⟨_, _, .noCritical hwarning (fun h => hfit (.inl ⟨x, hwarning, h⟩)) hcritical⟩
    | none =>
      cases hcritical : s.critical with
      | some y => exact ⟨_, _, .noWarning hwarning hcritical fun h => hfit (.inr ⟨y, hcritical, h⟩)⟩
      | none => simp [hwarning, hcritical] at hone

/-! ## Two layers -/

/-- **Boundaries in two layers are refused for their fault, or put in force as they stand.** Each
boundary is that of the upper layer, or that of the lower one where the upper gives none. A number that
cannot be a boundary is told whatever else is set, and a missing partner only where no number is bad.
Boundaries that are set come into force together, as good numbers in the places they were given, and
the defaults only where none is set. -/
theorem resolve_above (upper lower : ThresholdSettings) (defaults : Thresholds Binary64) :
    let s := upper.above lower
    (∀ x, s.warning = some x ↔
      upper.warning = some x ∨ upper.warning = none ∧ lower.warning = some x) ∧
    (∀ x, s.critical = some x ↔
      upper.critical = some x ∨ upper.critical = none ∧ lower.critical = some x) ∧
    (∀ e, s.resolve defaults = .error e ↔ s.Fault e) ∧
    ((∃ option value reason, s.resolve defaults = .error (.invalidValue option value reason)) ↔
      (∃ x ∈ s.warning, x.Unfit) ∨ ∃ x ∈ s.critical, x.Unfit) ∧
    ((∃ option partner, s.resolve defaults = .error (.missingPartner option partner)) ↔
      ¬ ((∃ x ∈ s.warning, x.Unfit) ∨ ∃ x ∈ s.critical, x.Unfit) ∧
        s.warning.isSome ≠ s.critical.isSome) ∧
    ∀ t, s.resolve defaults = .ok t ↔
      (s.warning = some t.warning ∧ s.critical = some t.critical ∧
        (t.warning.isFinite ∧ 0 ≤ t.warning) ∧ t.critical.isFinite ∧ 0 ≤ t.critical) ∨
        s.warning = none ∧ s.critical = none ∧ t = defaults := by
  intro s
  have herror : ∀ e, s.resolve defaults = .error e ↔ s.Fault e := fun e => resolve_eq_error_iff
  refine ⟨Option.orElse_eq_some _ _, Option.orElse_eq_some _ _, herror, ?_, ?_,
    fun t => resolve_eq_ok_iff⟩
  · simp only [herror]
    exact exists_fault_invalidValue_iff
  · simp only [herror]
    exact exists_fault_missingPartner_iff

end ThresholdSettings

end InventoryProbe
