import InventoryProbe.Proofs.Binary64
import InventoryProbe.Proofs.Selection.Lookup
import InventoryProbe.Proofs.VersionPolicy

/-!
# What version policies find

Each policy measures the machines of a selection by another baseline: the newest version among them, a
fixed version, or the default that a new machine would get in the place of each. What it finds is said
here in whole numbers, with nothing of folds, of subtraction that stops at zero or of tables.

* **`IsNewestOf`**: the newest version among machines is one of theirs.
* **`DefaultFor`**: the default of a machine is that of its host, else of the cluster of its host, else
  of the environment. Each reference on the way may dangle.
* **`Warrants`**: the severity that a policy has for a machine.
* **`evaluate_select`**: every machine is given this severity, or the first machine without a default
  is named.
-/

namespace InventoryProbe

/-! ## The newest version -/

/-- That a version is the newest that machines have. -/
structure HardwareVersion.IsNewestOf (newest : HardwareVersion) (machines : List VirtualMachine) :
    Prop where
  le_newest : ∀ m ∈ machines, m.hardwareVersion ≤ newest
  attained : ∃ m ∈ machines, m.hardwareVersion = newest

namespace VersionPolicy

/-- The latest version is the one to begin from, or that of a machine. -/
theorem foldl_latest_attained (machines : List VirtualMachine) (start : HardwareVersion) :
    machines.foldl (fun v m => v.latest m.hardwareVersion) start = start ∨
      ∃ m ∈ machines,
        m.hardwareVersion = machines.foldl (fun v m => v.latest m.hardwareVersion) start := by
  induction machines generalizing start with
  | nil => exact .inl rfl
  | cons m rest ih =>
    rw [List.foldl_cons]
    rcases ih (start.latest m.hardwareVersion) with hstart | ⟨m', hm', hattained⟩
    · rw [hstart]
      unfold HardwareVersion.latest
      split
      · exact .inr ⟨m, List.mem_cons_self, rfl⟩
      · exact .inl rfl
    · exact .inr ⟨m', List.mem_cons_of_mem m hm', hattained⟩

/-- Of some machines the newest version is one of theirs, and none is newer. -/
theorem isNewestOf_newest {machines : List VirtualMachine} (hne : machines ≠ []) :
    (newest machines).IsNewestOf machines where
  le_newest _ hm := le_newest hm
  attained := by
    rcases foldl_latest_attained machines ⟨0⟩ with hzero | hattained
    · -- No machine is older than version zero, so one of version zero has the newest.
      obtain ⟨m, hm⟩ := List.exists_mem_of_ne_nil machines hne
      have hle : m.hardwareVersion ≤ ⟨0⟩ := hzero ▸ le_newest hm
      have hge : (⟨0⟩ : HardwareVersion) ≤ m.hardwareVersion :=
        HardwareVersion.le_iff_toNat_le.2 (Nat.zero_le _)
      exact ⟨m, hm, (HardwareVersion.eq_of_le_of_le hle hge).trans hzero.symm⟩
    · exact hattained

end VersionPolicy

/-! ## Defaults -/

namespace Inventory

/-- That the host of a machine is known and has a default version. -/
def HostDefault (inventory : Inventory) (m : VirtualMachine) (v : HardwareVersion) : Prop :=
  ∃ hostId host, m.host = some hostId ∧ inventory.host? hostId = some host ∧
    host.defaultVersion = some v

/-- That the host of a machine and the host's cluster are known and the cluster has a default
version. -/
def ClusterDefault (inventory : Inventory) (m : VirtualMachine) (v : HardwareVersion) : Prop :=
  ∃ hostId host clusterId cluster, m.host = some hostId ∧ inventory.host? hostId = some host ∧
    host.cluster = some clusterId ∧ inventory.cluster? clusterId = some cluster ∧
    cluster.defaultVersion = some v

/-- The default version for a machine and where it comes from: nearer things go first. -/
inductive DefaultFor (inventory : Inventory) (m : VirtualMachine) :
    HardwareVersion → VersionPolicy.DefaultSource → Prop where
  | host {v : HardwareVersion} (h : inventory.HostDefault m v) : DefaultFor inventory m v .host
  | cluster {v : HardwareVersion} (hhost : ∀ w, ¬ inventory.HostDefault m w)
      (h : inventory.ClusterDefault m v) : DefaultFor inventory m v .cluster
  | environment {v : HardwareVersion} (hhost : ∀ w, ¬ inventory.HostDefault m w)
      (hcluster : ∀ w, ¬ inventory.ClusterDefault m w) (h : inventory.defaultVersion = some v) :
      DefaultFor inventory m v .environment

/-- That there is a default version for a machine. -/
def HasDefault (inventory : Inventory) (m : VirtualMachine) : Prop :=
  ∃ v source, inventory.DefaultFor m v source

end Inventory

namespace VersionPolicy

variable {c : Criteria} {inventory : Inventory} {policy : VersionPolicy}

/-- The default of the host is what the selection finds for it. -/
theorem hostDefault_iff {m : VirtualMachine} {v : HardwareVersion} :
    inventory.HostDefault m v ↔
      (m.host.bind (c.select inventory).host?).bind (·.defaultVersion) = some v := by
  unfold Inventory.HostDefault
  simp only [Option.bind_eq_some_iff, Selection.host?_select]
  grind

theorem clusterDefault_iff {m : VirtualMachine} {v : HardwareVersion} :
    inventory.ClusterDefault m v ↔
      (((m.host.bind (c.select inventory).host?).bind (·.cluster)).bind
        (c.select inventory).cluster?).bind (·.defaultVersion) = some v := by
  unfold Inventory.ClusterDefault
  simp only [Option.bind_eq_some_iff, Selection.host?_select, Selection.cluster?_select]
  grind

/-- The default that is looked up is the one that the inventory has. -/
theorem default?_select_eq_some_iff {m : VirtualMachine} {v : HardwareVersion}
    {source : DefaultSource} :
    default? (c.select inventory) m = some (v, source) ↔ inventory.DefaultFor m v source := by
  have hhost := @hostDefault_iff c inventory m
  have hcluster := @clusterDefault_iff c inventory m
  show ((((m.host.bind (c.select inventory).host?).bind (·.defaultVersion)).map
      (·, DefaultSource.host)) <|>
    (((((m.host.bind (c.select inventory).host?).bind (·.cluster)).bind
      (c.select inventory).cluster?).bind (·.defaultVersion)).map (·, DefaultSource.cluster)) <|>
    (inventory.defaultVersion.map (·, DefaultSource.environment))) = some (v, source) ↔ _
  -- From here on it matters only which of the three places have a default.
  generalize (m.host.bind (c.select inventory).host?).bind (·.defaultVersion) = own at hhost ⊢
  generalize (((m.host.bind (c.select inventory).host?).bind (·.cluster)).bind
    (c.select inventory).cluster?).bind (·.defaultVersion) = shared at hcluster ⊢
  cases own with
  | some w =>
    constructor
    · intro h
      cases h
      exact .host (hhost.2 rfl)
    · intro h
      cases h with
      | host h => cases hhost.1 h; rfl
      | cluster hno => exact absurd (hhost.2 rfl) (hno w)
      | environment hno => exact absurd (hhost.2 rfl) (hno w)
  | none =>
    have hnohost : ∀ w, ¬ inventory.HostDefault m w := fun w h => nomatch hhost.1 h
    cases shared with
    | some w =>
      constructor
      · intro h
        cases h
        exact .cluster hnohost (hcluster.2 rfl)
      · intro h
        cases h with
        | host h => exact absurd h (hnohost v)
        | cluster _ h => cases hcluster.1 h; rfl
        | environment _ hno => exact absurd (hcluster.2 rfl) (hno w)
    | none =>
      have hnocluster : ∀ w, ¬ inventory.ClusterDefault m w := fun w h => nomatch hcluster.1 h
      constructor
      · intro h
        obtain ⟨w, hw, heq⟩ := Option.map_eq_some_iff.1 h
        cases heq
        exact .environment hnohost hnocluster hw
      · intro h
        cases h with
        | host h => exact absurd h (hnohost v)
        | cluster _ h => exact absurd h (hnocluster v)
        | environment _ _ h => exact congrArg (Option.map (·, DefaultSource.environment)) h

/-- The selection finds no default exactly if the machine has none. -/
theorem default?_select_eq_none_iff {m : VirtualMachine} :
    default? (c.select inventory) m = none ↔ ¬ inventory.HasDefault m := by
  unfold Inventory.HasDefault
  rw [Option.eq_none_iff_forall_ne_some, Prod.forall]
  simp only [ne_eq, default?_select_eq_some_iff, not_exists]

end VersionPolicy

/-! ## Boundaries in doubles -/

/-- Whole numbers of no more than 53 binary digits are classified alike as doubles. -/
theorem Thresholds.classify_ofNat {t : Thresholds Nat} {n : Nat} (hwarning : t.warning < 1 <<< 53)
    (hcritical : t.critical < 1 <<< 53) (hn : n < 1 <<< 53) :
    (⟨.ofNat t.warning, .ofNat t.critical⟩ : Thresholds Binary64).classify .higher (.ofNat n)
      = t.classify .higher n := by
  unfold classify
  simp only [reaches_higher_iff, Binary64.ofNat_le_ofNat_iff hwarning hn,
    Binary64.ofNat_le_ofNat_iff hcritical hn]

namespace VersionPolicy

variable {c : Criteria} {inventory : Inventory} {policy : VersionPolicy}

/-! ## One machine -/

/-- The severity that a policy has for a machine among machines of which the newest has a certain
version. By how much the machine is behind is a difference of whole numbers, and doubles would tell no
other. -/
def Warrants (policy : VersionPolicy) (inventory : Inventory) (newest : HardwareVersion)
    (m : VirtualMachine) (severity : Severity) : Prop :=
  match policy with
  | .homogeneous => severity = if m.hardwareVersion < newest then .warning else .ok
  | .outdatedBy distance =>
    let behind : Int := newest.number.toNat - m.hardwareVersion.number.toNat
    severity = (if distance.critical ≤ behind then .critical
      else if distance.warning ≤ behind then .warning else .ok) ∧
    (distance.warning < UInt32.size → distance.critical < UInt32.size →
      severity = (⟨.ofNat distance.warning, .ofNat distance.critical⟩ : Thresholds Binary64).classify
        .higher (.ofNat (m.hardwareVersion.behind newest)))
  | .minimumRequired minimum => severity = if m.hardwareVersion < minimum then .critical else .ok
  | .defaultIsMinimum => inventory.HasDefault m ∧ ∀ v source, inventory.DefaultFor m v source →
      severity = if m.hardwareVersion < v then .warning else .ok

/-- No machine is newer than the newest, so that the distance is what is missing to it. -/
theorem classify_behind {distance : Thresholds Nat} {newest v : HardwareVersion} (hle : v ≤ newest) :
    distance.classify .higher (v.behind newest)
      = if (distance.critical : Int) ≤ newest.number.toNat - v.number.toNat then .critical
        else if (distance.warning : Int) ≤ newest.number.toNat - v.number.toNat then .warning
        else .ok := by
  have hbehind : ((v.behind newest : Nat) : Int) = newest.number.toNat - v.number.toNat :=
    Int.ofNat_sub (HardwareVersion.le_iff_toNat_le.1 hle)
  unfold Thresholds.classify
  simp only [Thresholds.reaches_higher_iff, ← hbehind, Int.ofNat_le]

theorem behind_lt_size (v newest : HardwareVersion) : v.behind newest < UInt32.size :=
  Nat.lt_of_le_of_lt (Nat.sub_le _ _) newest.number.toNat_lt_size

/-- A verdict is the one that the policy calls for. -/
theorem warrants_of_judge {newest : HardwareVersion} {m : VirtualMachine} {verdict : Verdict}
    (hle : m.hardwareVersion ≤ newest)
    (h : policy.judge (c.select inventory) newest m = .ok verdict) :
    policy.Warrants inventory newest m verdict.severity := by
  cases policy with
  | homogeneous =>
    cases h
    show (judgeHomogeneous newest m.hardwareVersion).severity
      = if m.hardwareVersion < newest then .warning else .ok
    unfold judgeHomogeneous
    split
    · rfl
    · rfl
  | outdatedBy distance =>
    cases h
    -- Versions and boundaries of 32 binary digits are far below what doubles can count to.
    refine ⟨classify_behind hle, fun hwarning hcritical => ?_⟩
    have hsize : UInt32.size < 1 <<< 53 := by decide
    exact (Thresholds.classify_ofNat (Nat.lt_trans hwarning hsize) (Nat.lt_trans hcritical hsize)
      (Nat.lt_trans (behind_lt_size _ _) hsize)).symm
  | minimumRequired minimum =>
    cases h
    show (judgeMinimum minimum m.hardwareVersion).severity
      = if m.hardwareVersion < minimum then .critical else .ok
    unfold judgeMinimum
    split
    · rfl
    · rfl
  | defaultIsMinimum =>
    cases hdefault : default? (c.select inventory) m with
    | none => simp [judge, hdefault] at h
    | some entry =>
      rw [judge, hdefault] at h
      cases h
      refine ⟨⟨_, _, default?_select_eq_some_iff.1 hdefault⟩, fun v source hfor => ?_⟩
      -- What is looked up is one version, so a machine has no second default.
      rw [← default?_select_eq_some_iff (c := c), hdefault] at hfor
      cases hfor
      rfl

/-! ## All machines -/

/-- The words for a machine without a default. -/
theorem judge_eq_error_iff {newest : HardwareVersion} {m : VirtualMachine} {fault : EvaluationFault} :
    policy.judge (c.select inventory) newest m = .error fault ↔
      policy = .defaultIsMinimum ∧ ¬ inventory.HasDefault m ∧
        fault = .unavailable ("no default hardware version known for the host or cluster of VM '"
          ++ m.name ++ "'") := by
  rw [← default?_select_eq_none_iff (c := c)]
  cases policy with
  | homogeneous => simp [judge]
  | outdatedBy distance => simp [judge]
  | minimumRequired minimum => simp [judge]
  -- Only here anything is looked up that may be missing.
  | defaultIsMinimum =>
    cases hdefault : default? (c.select inventory) m with
    | none => simp [judge, hdefault, eq_comm]
    | some entry => simp [judge, hdefault]

/-- **Every machine is given the severity that the policy has for it.** Judging fails exactly if some
machine should have at least its default version and there is none, and the first such machine is
named. Otherwise the machines are judged one by one, in order. -/
theorem evaluate_select (policy : VersionPolicy) (c : Criteria) (inventory : Inventory) :
    ((∃ fault, policy.evaluate (c.select inventory) = .error fault) ↔
      policy = .defaultIsMinimum ∧
        ∃ m ∈ (c.select inventory).virtualMachines, ¬ inventory.HasDefault m) ∧
    (∀ fault, policy.evaluate (c.select inventory) = .error fault →
      ∃ front m back, (c.select inventory).virtualMachines = front ++ m :: back ∧
        (∀ other ∈ front, inventory.HasDefault other) ∧ ¬ inventory.HasDefault m ∧
        fault = .unavailable ("no default hardware version known for the host or cluster of VM '"
          ++ m.name ++ "'")) ∧
    ∀ judgements, policy.evaluate (c.select inventory) = .ok judgements →
      List.Forall₂ (fun m j => j.object = m.ref ∧
          ∃ newest : HardwareVersion, newest.IsNewestOf (c.select inventory).virtualMachines ∧
            policy.Warrants inventory newest m j.severity)
        (c.select inventory).virtualMachines judgements := by
  refine ⟨?_, ?_, ?_⟩
  · rw [exists_evaluate_eq_error_iff]
    simp only [default?_select_eq_none_iff]
  · intro fault hfault
    obtain ⟨front, m, back, hsplit, hfront, hm⟩ := exists_first_of_mapM_eq_error hfault
    obtain ⟨rfl, hnone, hreason⟩ := judge_eq_error_iff.1 (map_eq_error_iff.1 hm)
    refine ⟨front, m, back, hsplit, fun other hother => ?_, hnone, hreason⟩
    obtain ⟨j, hj⟩ := hfront other hother
    obtain ⟨verdict, hverdict, -⟩ := map_eq_ok_iff.1 hj
    -- A machine without a default would have been judged with a fault.
    by_contra hwithout
    rw [judge_eq_error_iff.2 ⟨rfl, hwithout, rfl⟩] at hverdict
    cases hverdict
  · intro judgements hjudgements
    have hsteps := mapM_eq_ok_iff.1 hjudgements
    -- That a machine is one of those judged is needed for the newest version among them.
    have hmem := (List.forall₂_and_left _ _).2 ⟨fun _ hm => hm, hsteps⟩
    refine hmem.imp fun m j ⟨hm, hj⟩ => ?_
    obtain ⟨verdict, hverdict, rfl⟩ := map_eq_ok_iff.1 hj
    exact ⟨rfl, _, isNewestOf_newest (List.ne_nil_of_mem hm),
      warrants_of_judge (le_newest hm) hverdict⟩

end VersionPolicy

end InventoryProbe
