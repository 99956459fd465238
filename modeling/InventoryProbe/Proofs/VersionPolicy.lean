import InventoryProbe.Proofs.Failure
import InventoryProbe.Proofs.Judgement
import InventoryProbe.Proofs.Selection.Rearranged
import InventoryProbe.Proofs.Thresholds
import InventoryProbe.VersionPolicy

/-!
# Judging by a version policy

Every policy but `defaultIsMinimum` has a verdict on any machine. Two of them look at the newest
version of the selection, which is the least upper bound of the versions in it, so that a smaller
selection has no newer one and no machine is judged worse in it.
-/

namespace InventoryProbe

/-! ## Versions in order -/

namespace HardwareVersion

theorem le_iff_toNat_le {a b : HardwareVersion} : a ≤ b ↔ a.number.toNat ≤ b.number.toNat :=
  UInt32.le_iff_toNat_le

theorem lt_iff_toNat_lt {a b : HardwareVersion} : a < b ↔ a.number.toNat < b.number.toNat :=
  UInt32.lt_iff_toNat_lt

/-- What is no older than two versions is no older than the later of them. -/
theorem latest_le_iff {a b v : HardwareVersion} : a.latest b ≤ v ↔ a ≤ v ∧ b ≤ v := by
  unfold latest
  simp only [le_iff_toNat_le]
  split <;> omega

/-- Two versions of which neither is the newer are one. -/
theorem eq_of_le_of_le {a b : HardwareVersion} (hab : a ≤ b) (hba : b ≤ a) : a = b := by
  have hnumber : a.number = b.number :=
    UInt32.toNat.inj (Nat.le_antisymm (le_iff_toNat_le.1 hab) (le_iff_toNat_le.1 hba))
  cases a
  cases b
  exact congrArg HardwareVersion.mk hnumber

/-- A version trails an older baseline by no more. -/
theorem behind_mono {v older newer : HardwareVersion} (h : older ≤ newer) :
    v.behind older ≤ v.behind newer := by
  have hle := le_iff_toNat_le.1 h
  unfold behind
  omega

end HardwareVersion

namespace VersionPolicy

/-! ## The newest version -/

/-- What is no older than all machines is no older than the latest of them. Induction on the machines,
with any version to begin from. -/
theorem foldl_latest_le_iff (machines : List VirtualMachine) (start v : HardwareVersion) :
    machines.foldl (fun v m => v.latest m.hardwareVersion) start ≤ v ↔
      start ≤ v ∧ ∀ m ∈ machines, m.hardwareVersion ≤ v := by
  induction machines generalizing start with
  | nil => simp
  | cons m rest ih =>
    rw [List.foldl_cons, ih, HardwareVersion.latest_le_iff, List.forall_mem_cons, and_assoc]

theorem newest_le_iff {machines : List VirtualMachine} {v : HardwareVersion} :
    newest machines ≤ v ↔ ∀ m ∈ machines, m.hardwareVersion ≤ v := by
  unfold newest
  rw [foldl_latest_le_iff]
  exact and_iff_right (HardwareVersion.le_iff_toNat_le.2 (Nat.zero_le _))

/-- No machine has a version that is newer than the newest. -/
theorem le_newest {machines : List VirtualMachine} {m : VirtualMachine} (h : m ∈ machines) :
    m.hardwareVersion ≤ newest machines :=
  newest_le_iff.1 (HardwareVersion.le_iff_toNat_le.2 (Nat.le_refl _)) m h

theorem newest_mono {fewer more : List VirtualMachine} (h : ∀ m ∈ fewer, m ∈ more) :
    newest fewer ≤ newest more :=
  newest_le_iff.2 fun m hm => le_newest (h m hm)

/-- The newest version does not depend on the order of the machines. -/
theorem newest_eq_of_perm {machines rearranged : List VirtualMachine}
    (h : machines.Perm rearranged) : newest machines = newest rearranged :=
  HardwareVersion.eq_of_le_of_le (newest_mono fun _ hm => h.mem_iff.1 hm)
    (newest_mono fun _ hm => h.mem_iff.2 hm)

/-! ## One machine -/

variable {policy : VersionPolicy} {s : Selection}

/-- Judging fails only where a default is called for and there is none. -/
theorem exists_judge_eq_error_iff {newest : HardwareVersion} {m : VirtualMachine} :
    (∃ fault, policy.judge s newest m = .error fault) ↔
      policy = .defaultIsMinimum ∧ default? s m = none := by
  -- Only one of the four has to look a default up.
  cases policy with
  | homogeneous => simp [judge]
  | outdatedBy distance => simp [judge]
  | minimumRequired minimum => simp [judge]
  | defaultIsMinimum =>
    cases hdefault : default? s m with
    | none => simp [judge, hdefault]
    | some entry => simp [judge, hdefault]

/-- The default of a machine is looked up, and nothing else is looked at for it. -/
theorem default?_of_sameTables {a b : Selection} (h : a.SameTables b) (m : VirtualMachine) :
    default? a m = default? b m := by
  have hhost : a.host? = b.host? := funext h.host?_eq
  have hcluster : a.cluster? = b.cluster? := funext h.cluster?_eq
  unfold default?
  rw [hhost, hcluster, h.defaultVersion_eq]

/-- Nothing but the default of a machine is looked up. -/
theorem judge_of_sameTables {a b : Selection} (h : a.SameTables b) (newest : HardwareVersion)
    (m : VirtualMachine) : policy.judge a newest m = policy.judge b newest m := by
  cases policy with
  | homogeneous => rfl
  | outdatedBy => rfl
  | minimumRequired => rfl
  | defaultIsMinimum =>
    unfold judge
    rw [default?_of_sameTables h]

/-- A machine can only fail to be judged for want of data. -/
theorem unavailable_of_judge_eq_error {newest : HardwareVersion} {m : VirtualMachine}
    {fault : EvaluationFault} (h : policy.judge s newest m = .error fault) :
    ∃ reason, fault = .unavailable reason := by
  obtain ⟨rfl, hdefault⟩ := exists_judge_eq_error_iff.1 ⟨fault, h⟩
  rw [judge, hdefault] at h
  cases h
  exact ⟨_, rfl⟩

/-- A machine that is judged is not left undecided. -/
theorem severity_ne_unknown_of_judge {newest : HardwareVersion} {m : VirtualMachine} {v : Verdict}
    (h : policy.judge s newest m = .ok v) : v.severity ≠ .unknown := by
  cases policy with
  | homogeneous =>
    cases h
    unfold judgeHomogeneous
    split <;> exact nofun
  | outdatedBy distance =>
    cases h
    exact distance.classify_ne_unknown .higher _
  | minimumRequired minimum =>
    cases h
    unfold judgeMinimum
    split <;> exact nofun
  | defaultIsMinimum =>
    cases hdefault : default? s m with
    -- Without a default there is no verdict.
    | none => simp [judge, hdefault] at h
    | some entry =>
      rw [judge, hdefault] at h
      cases h
      show (if m.hardwareVersion < entry.1 then Severity.warning else .ok) ≠ .unknown
      split <;> exact nofun

/-- A machine is judged no worse when the newest version is older and its own default the same. -/
theorem severity_le_of_judge {a b : Selection} {older newer : HardwareVersion}
    {m : VirtualMachine} {v w : Verdict} (hle : older ≤ newer)
    (hdefault : default? a m = default? b m) (ha : policy.judge a older m = .ok v)
    (hb : policy.judge b newer m = .ok w) : v.severity ≤ w.severity := by
  cases policy with
  | homogeneous =>
    cases ha
    cases hb
    unfold judgeHomogeneous
    by_cases holder : m.hardwareVersion < older
    · -- Behind the older of the two versions it is behind the newer one as well.
      have hnewer : m.hardwareVersion < newer := by
        rw [HardwareVersion.lt_iff_toNat_lt] at holder ⊢
        exact Nat.lt_of_lt_of_le holder (HardwareVersion.le_iff_toNat_le.1 hle)
      rw [if_pos holder, if_pos hnewer]
      exact Severity.le_refl _
    · rw [if_neg holder]
      exact Severity.ok_le _
  | outdatedBy distance =>
    cases ha
    cases hb
    exact distance.classify_mono .higher (HardwareVersion.behind_mono hle)
  | minimumRequired minimum =>
    cases ha
    cases hb
    exact Severity.le_refl _
  -- The default is the same in both, and nothing else is asked for.
  | defaultIsMinimum =>
    rw [judge, hdefault] at ha
    rw [judge] at hb
    cases hentry : default? b m with
    | none => simp [hentry] at hb
    | some entry =>
      rw [hentry] at ha hb
      cases ha
      cases hb
      exact Severity.le_refl _

/-! ## All machines -/

/-- Each judgement is on a machine that is kept. -/
theorem exists_of_mem_evaluate {judgements : List Judgement}
    (h : policy.evaluate s = .ok judgements) {j : Judgement} (hj : j ∈ judgements) :
    ∃ m ∈ s.virtualMachines, j.object = m.ref ∧
      policy.judge s (newest s.virtualMachines) m = .ok j.toVerdict := by
  obtain ⟨m, hm, hmap⟩ := exists_mem_left_of_mapM h hj
  obtain ⟨v, hv, rfl⟩ := map_eq_ok_iff.1 hmap
  exact ⟨m, hm, rfl, hv⟩

/-- Each machine that is kept has a judgement. -/
theorem exists_mem_of_evaluate {judgements : List Judgement}
    (h : policy.evaluate s = .ok judgements) {m : VirtualMachine} (hm : m ∈ s.virtualMachines) :
    ∃ j ∈ judgements, j.object = m.ref ∧
      policy.judge s (newest s.virtualMachines) m = .ok j.toVerdict := by
  obtain ⟨j, hj, hmap⟩ := exists_mem_right_of_mapM h hm
  obtain ⟨v, hv, rfl⟩ := map_eq_ok_iff.1 hmap
  exact ⟨_, hj, rfl, hv⟩

/-- The objects judged are those of the scope, in order. -/
theorem objects_of_evaluate {judgements : List Judgement}
    (h : policy.evaluate s = .ok judgements) : judgements.map (·.object) = scope s := by
  refine map_eq_map_of_mapM (fun m j hmap => ?_) h
  obtain ⟨v, -, rfl⟩ := map_eq_ok_iff.1 hmap
  rfl

/-- The evaluation fails exactly if defaults are asked for and a machine has none. -/
theorem exists_evaluate_eq_error_iff :
    (∃ fault, policy.evaluate s = .error fault) ↔
      policy = .defaultIsMinimum ∧ ∃ m ∈ s.virtualMachines, default? s m = none := by
  unfold evaluate
  rw [exists_mapM_eq_error_iff]
  simp only [map_eq_error_iff, exists_judge_eq_error_iff]
  constructor
  · rintro ⟨m, hm, hpolicy, hdefault⟩
    exact ⟨hpolicy, m, hm, hdefault⟩
  · rintro ⟨hpolicy, m, hm, hdefault⟩
    exact ⟨m, hm, hpolicy, hdefault⟩

/-- The evaluation fails for want of data, and for nothing else. -/
theorem unavailable_of_evaluate_eq_error {fault : EvaluationFault}
    (h : policy.evaluate s = .error fault) : ∃ reason, fault = .unavailable reason := by
  obtain ⟨m, -, hmap⟩ := exists_mem_of_mapM_eq_error h
  exact unavailable_of_judge_eq_error (map_eq_error_iff.1 hmap)

/-- No machine is left undecided. -/
theorem severity_ne_unknown_of_evaluate {judgements : List Judgement}
    (h : policy.evaluate s = .ok judgements) {j : Judgement} (hj : j ∈ judgements) :
    j.severity ≠ .unknown := by
  obtain ⟨m, -, -, hjudge⟩ := exists_of_mem_evaluate h hj
  exact severity_ne_unknown_of_judge hjudge

/-! ## Machines in another order -/

/-- In another order the same machines are judged alike, for the newest version is the same. -/
theorem exists_evaluate_of_rearranged {a b : Selection} (h : a.Rearranged b)
    {judgements : List Judgement} (ha : policy.evaluate a = .ok judgements) :
    ∃ rearranged, policy.evaluate b = .ok rearranged ∧ judgements.Perm rearranged := by
  -- The newest version is the same in any order, so each machine is judged alike.
  have hnewest := newest_eq_of_perm h.machines_perm
  have hjudge : ∀ m, policy.judge a (newest b.virtualMachines) m
      = policy.judge b (newest b.virtualMachines) m :=
    judge_of_sameTables h.toSameTables _
  unfold evaluate at ha ⊢
  simp only [hnewest, hjudge] at ha
  exact exists_mapM_of_perm h.machines_perm ha

/-! ## Fewer machines -/

/-- When machines go, the others can still be judged, and are judged no worse. -/
theorem exists_evaluate_noWorse_of_within {a b : Selection} (h : a.Within b)
    {more : List Judgement} (hb : policy.evaluate b = .ok more) :
    ∃ fewer, policy.evaluate a = .ok fewer ∧ Judgement.NoWorse fewer more := by
  cases ha : policy.evaluate a with
  | error fault =>
    -- The machine without a default is in the larger selection too.
    obtain ⟨hpolicy, m, hm, hdefault⟩ := exists_evaluate_eq_error_iff.1 ⟨fault, ha⟩
    obtain ⟨_, hfault⟩ := exists_evaluate_eq_error_iff.2
      ⟨hpolicy, m, h.machines_sublist.subset hm, default?_of_sameTables h.sameTables m ▸ hdefault⟩
    rw [hb] at hfault
    cases hfault
  | ok fewer =>
    refine ⟨fewer, rfl, fun j hj => ?_⟩
    obtain ⟨m, hm, hobject, hjudge⟩ := exists_of_mem_evaluate ha hj
    obtain ⟨i, hi, hobject', hjudge'⟩ := exists_mem_of_evaluate hb (h.machines_sublist.subset hm)
    have hnewest : newest a.virtualMachines ≤ newest b.virtualMachines :=
      newest_mono fun m hm => h.machines_sublist.subset hm
    exact ⟨i, hi, hobject'.trans hobject.symm,
      severity_le_of_judge hnewest (default?_of_sameTables h.sameTables m) hjudge hjudge'⟩

end VersionPolicy

end InventoryProbe
