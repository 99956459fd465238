import InventoryProbe.Proofs.Settings.Validity

/-!
# Version policies given twice

Options for versions are laid over others one by one, but which policy they ask for is told by all
of them together. So a policy that is given above replaces the one given below only where both are
of one kind; policies of two kinds end up side by side, and contradict each other.

* **`above_eq_self`**: options that ask for every policy asked for below replace those below whole.
* **`exists_conflict_of_gives`**: options that ask for two policies are refused.
* **`ofSettings_withVersion_iff`**: when a policy given above is the one in force.
-/

namespace InventoryProbe

namespace VersionSettings

variable {s flags base : VersionSettings}

/-- A policy is listed if something is given for it. -/
theorem mem_given_iff {kind : PolicyKind} : kind ∈ s.given ↔ s.gives kind := by
  unfold given
  rw [List.mem_filter]
  refine and_iff_right ?_
  cases kind <;> decide

/-- Where something is set some policy is given. -/
theorem exists_gives_of_ne_unset (h : s ≠ .unset) : ∃ kind, s.gives kind := by
  by_contra hnone
  have hnone (kind : PolicyKind) : s.gives kind = false := by
    simpa using fun hgives => hnone ⟨kind, hgives⟩
  have hboundaries := hnone .outdatedBy
  obtain ⟨homogeneous, warning, critical, minimum, isMinimum⟩ := s
  simp only [gives, Bool.or_eq_false_iff, Option.isSome_eq_false_iff, Option.isNone_iff_eq_none]
    at hboundaries
  have hminimum : minimum = none := by simpa [gives] using hnone .minimumRequired
  have hhomogeneous : homogeneous = false := hnone .homogeneous
  have hdefault : isMinimum = false := hnone .defaultIsMinimum
  -- No field is set, for each of them gives a policy.
  apply h
  rw [hhomogeneous, hboundaries.1, hboundaries.2, hminimum, hdefault]
  rfl

/-! ## Options over others -/

theorem isSome_orElse {α : Type} (a b : Option α) : (a <|> b).isSome = (a.isSome || b.isSome) := by
  cases a <;> rfl

/-- A policy is given by two layers if one of them gives it. -/
theorem gives_above (flags base : VersionSettings) (kind : PolicyKind) :
    (flags.above base).gives kind = (flags.gives kind || base.gives kind) := by
  cases kind with
  | homogeneous | defaultIsMinimum => rfl
  | minimumRequired => exact isSome_orElse _ _
  | outdatedBy =>
    simp only [gives, above, isSome_orElse]
    ac_rfl

/-- What is below makes no difference to what is set above. -/
theorem orElse_eq_self {α : Type} {a b : Option α} (h : a = none → b = none) : (a <|> b) = a := by
  cases a with
  | none => exact h rfl
  | some x => rfl

/-- Options that ask for every policy that those below ask for replace them whole, unless they leave
half a pair of boundaries to be filled up. -/
theorem above_eq_self (hpair : flags.outdatedByWarning.isSome = flags.outdatedByCritical.isSome)
    (h : ∀ kind, base.gives kind → flags.gives kind) : flags.above base = flags := by
  have hmissing (kind : PolicyKind) (hnot : flags.gives kind = false) : base.gives kind = false :=
    Bool.eq_false_iff.2 fun hgives => Bool.eq_false_iff.1 hnot (h kind hgives)
  -- The boundaries are both set or both missing, and then missing below as well.
  have hboundaries (hnone : flags.outdatedByWarning = none ∨ flags.outdatedByCritical = none) :
      base.outdatedByWarning = none ∧ base.outdatedByCritical = none := by
    have hnot : flags.gives .outdatedBy = false := by
      rcases hnone with hwarning | hcritical
      · simp [gives, ← hpair, hwarning]
      · simp [gives, hpair, hcritical]
    simpa [gives] using hmissing .outdatedBy hnot
  have hminimum (hnone : flags.minimumRequired = none) : base.minimumRequired = none := by
    simpa [gives] using hmissing .minimumRequired (by simp [gives, hnone])
  have hhomogeneous : (flags.homogeneous || base.homogeneous) = flags.homogeneous :=
    Bool.or_eq_left_iff_imp.2 (h .homogeneous)
  have hdefault : (flags.defaultIsMinimum || base.defaultIsMinimum) = flags.defaultIsMinimum :=
    Bool.or_eq_left_iff_imp.2 (h .defaultIsMinimum)
  unfold above
  rw [orElse_eq_self fun hnone => (hboundaries (.inl hnone)).1,
    orElse_eq_self fun hnone => (hboundaries (.inr hnone)).2, orElse_eq_self hminimum,
    hhomogeneous, hdefault]

end VersionSettings

namespace VersionPolicy

variable {s flags : VersionSettings} {policy : VersionPolicy}

/-! ## What accepted options ask for -/

/-- Settings that make a policy have no fault. -/
theorem not_fault_of_ofSettings (h : ofSettings s = .ok policy) (e : SettingError) :
    ¬ s.Fault e := by
  intro hfault
  rw [ofSettings_eq_error_iff.2 hfault] at h
  cases h

theorem length_given_le_one (h : ofSettings s = .ok policy) : s.given.length ≤ 1 := by
  rcases s.few_or_many with few | ⟨first, second, rest, many⟩
  · exact few
  · exact absurd (.conflict many) (not_fault_of_ofSettings h _)

theorem isSome_boundaries_eq (h : ofSettings s = .ok policy) :
    s.outdatedByWarning.isSome = s.outdatedByCritical.isSome := by
  have few := length_given_le_one h
  -- One boundary without the other is a fault.
  cases hwarning : s.outdatedByWarning with
  | none =>
    cases hcritical : s.outdatedByCritical with
    | none => rfl
    | some critical =>
      exact absurd (.noWarning few hwarning (by simp [hcritical])) (not_fault_of_ofSettings h _)
  | some warning =>
    cases hcritical : s.outdatedByCritical with
    | none =>
      exact absurd (.noCritical few (by simp [hwarning]) hcritical) (not_fault_of_ofSettings h _)
    | some critical => rfl

/-- Two policies that are given make a conflict. -/
theorem exists_conflict_of_gives {kind kind' : PolicyKind} (h : s.gives kind) (h' : s.gives kind')
    (hne : kind ≠ kind') :
    ∃ first second rest, s.given = first :: second :: rest ∧
      ofSettings s = .error (.conflict (s.optionFor first) (s.optionFor second)) := by
  rcases s.few_or_many with few | ⟨first, second, rest, many⟩
  · have hmem := VersionSettings.mem_given_iff.2 h
    have hmem' := VersionSettings.mem_given_iff.2 h'
    -- Of one policy at most, both would be it.
    match hgiven : s.given with
    | [] => simp [hgiven] at hmem
    | [only] =>
      rw [hgiven, List.mem_singleton] at hmem hmem'
      exact absurd (hmem.trans hmem'.symm) hne
    | _ :: _ :: _ => simp [hgiven] at few
  · exact ⟨first, second, rest, many, ofSettings_of_many many⟩

/-- **A policy that is given above is in force only over one of its kind.** Where options above are
accepted by themselves and ask for a policy, they select it over the settings below exactly if these
ask for no policy of another kind. Any such policy contradicts what is given above, and all is
refused. -/
theorem ofSettings_withVersion_iff {s : Settings} (hflags : ofSettings flags = .ok policy)
    (hgiven : flags ≠ .unset) :
    (ofSettings (s.withVersion flags).version = .ok policy ↔
      ∀ kind, s.version.gives kind → flags.gives kind) ∧
    ∀ kind, s.version.gives kind → ¬ flags.gives kind →
      ∃ first second rest, (s.withVersion flags).version.given = first :: second :: rest ∧
        ofSettings (s.withVersion flags).version = .error (.conflict
          ((s.withVersion flags).version.optionFor first)
          ((s.withVersion flags).version.optionFor second)) := by
  have hversion : (s.withVersion flags).version = flags.above s.version := rfl
  rw [hversion]
  -- A policy that is given below and not above is one of two, for something is given above.
  have hconflict : ∀ kind, s.version.gives kind → ¬ flags.gives kind →
      ∃ first second rest, (flags.above s.version).given = first :: second :: rest ∧
        ofSettings (flags.above s.version) = .error (.conflict
          ((flags.above s.version).optionFor first)
          ((flags.above s.version).optionFor second)) := by
    intro kind hbelow hnot
    obtain ⟨own, hown⟩ := VersionSettings.exists_gives_of_ne_unset hgiven
    have hne : kind ≠ own := fun heq => hnot (heq ▸ hown)
    have hfirst : (flags.above s.version).gives kind := by
      rw [VersionSettings.gives_above, hbelow, Bool.or_true]
    have hsecond : (flags.above s.version).gives own := by
      rw [VersionSettings.gives_above, hown, Bool.true_or]
    exact exists_conflict_of_gives hfirst hsecond hne
  refine ⟨⟨fun haccepted kind hbelow => ?_, fun hcovered => ?_⟩, hconflict⟩
  · by_contra hnot
    obtain ⟨_, _, _, -, hrefused⟩ := hconflict kind hbelow hnot
    rw [hrefused] at haccepted
    cases haccepted
  · rw [VersionSettings.above_eq_self (isSome_boundaries_eq hflags) hcovered, hflags]

/-! ## A minimum given above

Below there is an older minimum in the first place, and in the second another policy. -/

/-- A version is required, and nothing else. -/
def requiring (minimum : HardwareVersion) : VersionSettings :=
  { VersionSettings.unset with minimumRequired := some minimum }

/-- A version that is required above another one is in force. -/
theorem newerMinimum_in_force :
    ofSettings (requiring ⟨15⟩) = .ok (.minimumRequired ⟨15⟩) ∧ requiring ⟨15⟩ ≠ .unset ∧
    ofSettings ({ Settings.unset with version := requiring ⟨13⟩ }.withVersion
      (requiring ⟨15⟩)).version = .ok (.minimumRequired ⟨15⟩) := by
  have hflags : ofSettings (requiring ⟨15⟩) = .ok (.minimumRequired ⟨15⟩) := rfl
  have hgiven : requiring ⟨15⟩ ≠ .unset := by decide
  refine ⟨hflags, hgiven, (ofSettings_withVersion_iff hflags hgiven).1.2 fun kind hbelow => ?_⟩
  cases kind <;> simp_all [requiring, VersionSettings.gives, VersionSettings.unset]

/-- Above another policy it is refused. -/
theorem homogeneousBelow_refused :
    let below :=
      { Settings.unset with version := { VersionSettings.unset with homogeneous := true } }
    ofSettings below.version = .ok .homogeneous ∧
    ofSettings (requiring ⟨15⟩) = .ok (.minimumRequired ⟨15⟩) ∧ requiring ⟨15⟩ ≠ .unset ∧
    ofSettings (below.withVersion (requiring ⟨15⟩)).version
      = .error (.conflict "homogeneous" "minimum-required") := by
  decide

end VersionPolicy

end InventoryProbe
