import InventoryProbe.Check.Snapshots
import InventoryProbe.Proofs.Timestamp.Timeline

/-!
# The oldest snapshot

Among the snapshots of a machine the search for the oldest keeps the one it has unless the next was made
before it, and so ends at the first of those that were made earliest. Since that one no fewer seconds have
passed than since any other, so that one more snapshot, wherever it is listed, can only add to the age.

* **`OldestIn`**: the first of the snapshots that were made earliest.
* **`OldestIn.older`**, **`oldestIn_foldl`**: what one step of the search keeps, and so the search.
* **`evaluate_snapshotAge`**: what is reported on a machine that has snapshots.
-/

namespace InventoryProbe

/-- That a snapshot is the first of those made earliest: those before it in the list were made later, and
those behind it not earlier. -/
def OldestIn (snapshots : List Snapshot) (oldest : Snapshot) : Prop :=
  ∃ front back, snapshots = front ++ oldest :: back ∧ (∀ x ∈ front, oldest.created < x.created) ∧
    ∀ x ∈ back, oldest.created ≤ x.created

section Search

variable {snapshots : List Snapshot} {oldest : Snapshot}

theorem OldestIn.mem (h : OldestIn snapshots oldest) : oldest ∈ snapshots := by
  obtain ⟨front, back, rfl, -, -⟩ := h
  simp

/-- No snapshot was made before the oldest. -/
theorem OldestIn.created_le (h : OldestIn snapshots oldest) {x : Snapshot} (hx : x ∈ snapshots) :
    oldest.created ≤ x.created := by
  obtain ⟨front, back, rfl, hfront, hback⟩ := h
  rcases List.mem_append.1 hx with hx | hx
  · exact Timestamp.le_of_lt (hfront x hx)
  · rcases List.mem_cons.1 hx with rfl | hx
    · exact Timestamp.le_refl _
    · exact hback x hx

/-- Outside of inserted seconds no more of them have passed since any other snapshot. -/
theorem OldestIn.secondsSince_le (h : OldestIn snapshots oldest) {now : Timestamp}
    (hnow : ¬ now.isInserted) (hcreated : ∀ x ∈ snapshots, ¬ x.created.isInserted) {x : Snapshot}
    (hx : x ∈ snapshots) : now.secondsSince x.created ≤ now.secondsSince oldest.created :=
  Timestamp.secondsSince_le_of_le hnow (hcreated _ h.mem) (hcreated x hx) (h.created_le hx)

/-- One step of the search. -/
theorem OldestIn.older (h : OldestIn snapshots oldest) (next : Snapshot) :
    OldestIn (snapshots ++ [next]) (oldest.older next) := by
  unfold Snapshot.older
  split
  · -- The new one is older than the oldest before, and so than all of them.
    next hearlier =>
    refine ⟨snapshots, [], rfl, fun x hx => ?_, by simp⟩
    exact Timestamp.lt_of_lt_of_le hearlier (h.created_le hx)
  · next hlater =>
    obtain ⟨front, back, rfl, hfront, hback⟩ := h
    refine ⟨front, back ++ [next], by simp, hfront, fun x hx => ?_⟩
    rcases List.mem_append.1 hx with hx | hx
    · exact hback x hx
    · rw [List.mem_singleton.1 hx]
      exact Timestamp.not_lt_iff.1 hlater

/-- The oldest of some snapshots is compared with the others one by one. Induction on these. -/
theorem oldestIn_foldl (h : OldestIn snapshots oldest) (rest : List Snapshot) :
    OldestIn (snapshots ++ rest) (rest.foldl Snapshot.older oldest) := by
  induction rest generalizing snapshots oldest with
  | nil => rwa [List.append_nil]
  | cons next rest ih =>
    have hstep := ih (h.older next)
    rwa [List.append_assoc] at hstep

/-- A machine with snapshots has an oldest one. -/
theorem VirtualMachine.exists_oldestSnapshot {m : VirtualMachine} (h : m.snapshots ≠ []) :
    ∃ oldest, m.oldestSnapshot? = some oldest ∧ OldestIn m.snapshots oldest := by
  unfold oldestSnapshot?
  cases hsnapshots : m.snapshots with
  | nil => exact absurd hsnapshots h
  | cons first rest =>
    have hfirst : OldestIn [first] first := ⟨[], [], rfl, by simp, by simp⟩
    exact ⟨_, rfl, oldestIn_foldl hfirst rest⟩

end Search

namespace Check

variable {t : Thresholds Binary64} {now : Timestamp} {m : VirtualMachine}

/-- The verdict that reports a snapshot as so many seconds old. -/
def ageVerdict (t : Thresholds Binary64) (oldest : Snapshot) (seconds : Nat) : Verdict :=
  .ofMetric t ("oldest snapshot '" ++ oldest.name ++ "' age") (days seconds) (.days (days seconds))

/-- Its age makes the verdict. -/
theorem exists_judgeAge (t : Thresholds Binary64) (now : Timestamp) (h : m.snapshots ≠ []) :
    ∃ oldest, judgeAge t now m = ageVerdict t oldest (now.secondsSince oldest.created) ∧
      OldestIn m.snapshots oldest := by
  obtain ⟨oldest, hfound, holdest⟩ := VirtualMachine.exists_oldestSnapshot h
  refine ⟨oldest, ?_, holdest⟩
  unfold judgeAge
  rw [hfound]
  rfl

/-- The verdict stands where the machine stands among those that are kept. -/
theorem exists_evaluate_snapshotAge (t : Thresholds Binary64) {s : Selection} {i : Nat}
    (hm : s.virtualMachines[i]? = some m) (h : m.snapshots ≠ []) :
    ∃ judgements oldest, (snapshotAge t).evaluate s = .ok judgements ∧
      judgements[i]? =
        some ⟨ageVerdict t oldest (s.inventory.collectedAt.secondsSince oldest.created), m.ref⟩ ∧
      OldestIn m.snapshots oldest := by
  obtain ⟨oldest, hjudge, holdest⟩ := exists_judgeAge t s.inventory.collectedAt h
  refine ⟨_, oldest, rfl, ?_, holdest⟩
  rw [List.getElem?_map, hm, ← hjudge]
  rfl

/-- **The age is that of the first of the oldest snapshots, and no other snapshot is older.** Outside of
inserted seconds the seconds that have passed since a snapshot was made are those from it to the collection
on the line of time, cut off at the point, and none where it was made after the collection. Those since the
snapshot that is reported on are the most of all, and so one more snapshot of the machine, wherever it is
listed, never takes from them. -/
theorem evaluate_snapshotAge (t : Thresholds Binary64) (s : Selection) {i : Nat}
    (hm : s.virtualMachines[i]? = some m) (h : m.snapshots ≠ []) :
    let now := s.inventory.collectedAt
    ∃ judgements oldest, (snapshotAge t).evaluate s = .ok judgements ∧
      judgements[i]? = some ⟨ageVerdict t oldest (now.secondsSince oldest.created), m.ref⟩ ∧
      OldestIn m.snapshots oldest ∧
      (¬ now.isInserted → (∀ x ∈ m.snapshots, ¬ x.created.isInserted) →
        (∀ x ∈ m.snapshots, now.secondsSince x.created ≤ now.secondsSince oldest.created) ∧
        (∀ x ∈ m.snapshots,
          (now.secondsSince x.created : Int) = max 0 ((now.instant - x.created.instant).tdiv 1000000000)) ∧
        (∀ x ∈ m.snapshots, now < x.created → now.secondsSince x.created = 0) ∧
        ∀ front back added, m.snapshots = front ++ back → ¬ added.created.isInserted →
          let grown := { m with snapshots := front ++ added :: back }
          ∃ judgements' oldest',
            (snapshotAge t).evaluate { s with virtualMachines := s.virtualMachines.set i grown }
              = .ok judgements' ∧
            judgements'[i]? = some ⟨ageVerdict t oldest' (now.secondsSince oldest'.created), m.ref⟩ ∧
            OldestIn (front ++ added :: back) oldest' ∧
            now.secondsSince oldest.created ≤ now.secondsSince oldest'.created) := by
  intro now
  obtain ⟨judgements, oldest, heval, hjudgement, holdest⟩ := exists_evaluate_snapshotAge t hm h
  refine ⟨judgements, oldest, heval, hjudgement, holdest, fun hnow hcreated => ⟨fun x hx => ?_,
    fun x hx => ?_, fun x hx hlater => ?_, fun front back added hsplit hadded => ?_⟩⟩
  · exact holdest.secondsSince_le hnow hcreated hx
  · exact Timestamp.secondsSince_eq hnow (hcreated x hx)
  · exact Timestamp.secondsSince_eq_zero hnow (hcreated x hx) hlater
  · intro grown
    have hi : i < s.virtualMachines.length := (List.getElem?_eq_some_iff.1 hm).1
    have hgrown : (s.virtualMachines.set i grown)[i]? = some grown := List.getElem?_set_self hi
    obtain ⟨judgements', oldest', heval', hjudgement', holdest'⟩ :=
      exists_evaluate_snapshotAge t (s := { s with virtualMachines := s.virtualMachines.set i grown })
        hgrown (by simp [grown])
    -- The snapshots are those that were there and the one that was added.
    have hperm : grown.snapshots.Perm (added :: m.snapshots) := hsplit ▸ List.perm_middle
    have hnone : ∀ x ∈ grown.snapshots, ¬ x.created.isInserted := by
      intro x hx
      rcases List.mem_cons.1 (hperm.mem_iff.1 hx) with rfl | hx
      · exact hadded
      · exact hcreated x hx
    have hkept : oldest ∈ grown.snapshots := hperm.mem_iff.2 (List.mem_cons_of_mem _ holdest.mem)
    exact ⟨judgements', oldest', heval', hjudgement', holdest',
      holdest'.secondsSince_le hnow hnone hkept⟩

/-! ## A snapshot from after the collection, before two of one moment -/

/-- A moment of the first day of March 2026, a quarter past a second. -/
def firstOfMarch (second : Nat) (h : second < 86400) : Timestamp :=
  ⟨⟨2026, 3, 1, by decide, by decide, by decide⟩, second, 250000000, h, by decide, by simp⟩

/-- A machine with two snapshots. -/
def keptMachine : VirtualMachine where
  id := "vm-1"
  name := "web"
  datacenter := none
  host := none
  resourcePool := none
  datastores := []
  powerState := .poweredOn
  hardwareVersion := ⟨19⟩
  isTemplate := false
  uptime := none
  processors := 1
  snapshots :=
    [⟨"1", "late", firstOfMarch 7200 (by decide), 0⟩, ⟨"2", "upgrade", firstOfMarch 60 (by decide), 0⟩,
     ⟨"3", "backup", firstOfMarch 60 (by decide), 0⟩]
  needsConsolidation := false
  tools := none

/-- A site with this machine and nothing else. -/
def keptSite : Inventory :=
  { Inventory.empty (firstOfMarch 3600 (by decide)) with virtualMachines := [keptMachine] }

/-- The verdict is on the older of the two. -/
theorem keptMachine_age :
    ∃ judgements oldest,
      (snapshotAge ageDefaults).evaluate (Criteria.initial.select keptSite) = .ok judgements ∧
      judgements[0]? =
        some ⟨ageVerdict ageDefaults oldest (keptSite.collectedAt.secondsSince oldest.created),
          keptMachine.ref⟩ ∧
      ∀ x ∈ keptMachine.snapshots,
        keptSite.collectedAt.secondsSince x.created ≤ keptSite.collectedAt.secondsSince oldest.created := by
  have hm : (Criteria.initial.select keptSite).virtualMachines[0]? = some keptMachine := by decide +kernel
  obtain ⟨judgements, oldest, heval, hjudgement, -, houtside⟩ :=
    evaluate_snapshotAge ageDefaults (Criteria.initial.select keptSite) hm (by decide)
  -- No second is inserted at any of these moments.
  obtain ⟨hmost, -⟩ := houtside (by decide) (by decide)
  exact ⟨judgements, oldest, heval, hjudgement, hmost⟩

end Check

end InventoryProbe
