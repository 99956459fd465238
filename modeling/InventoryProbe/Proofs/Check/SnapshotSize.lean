import InventoryProbe.Check.Snapshots

/-!
# The space of snapshots

Sizes of snapshots are added in words of 64 bits. What comes of it depends on how the program is built: with
checks of its arithmetic it stops at the first sum that is no word, and without them it goes on with what is
left of the sum at `2 ^ 64`.

* **`checkedSnapshotBytes?_eq_some_iff`**, **`checkedSnapshotBytes?_eq_none_iff`**: with checks there is an
  answer exactly if the snapshots take less than `2 ^ 64` bytes, and then it is what they take.
* **`snapshotBytes_eq_mod`**: without checks the answer is what they take modulo `2 ^ 64`.
* **`judgeSize_eq`**: so the verdict goes by that remainder, and from `2 ^ 64` bytes on it is about fewer
  bytes than there are.
-/

namespace InventoryProbe

/-! ## Sums of words -/

/-- The sum of the sizes as a number. -/
def sumOfSizes : List Snapshot → Nat
  | [] => 0
  | s :: rest => s.size.toNat + sumOfSizes rest

/-- Words that are added in a row have the sum of their numbers, as far as a word can hold it. Induction on
the snapshots, with any word to begin from. -/
theorem toNat_foldl_size (snapshots : List Snapshot) (bytes : UInt64) :
    (snapshots.foldl (fun bytes s => bytes + s.size) bytes).toNat
      = (bytes.toNat + sumOfSizes snapshots) % UInt64.size := by
  induction snapshots generalizing bytes with
  | nil => exact (Nat.mod_eq_of_lt bytes.toNat_lt_size).symm
  | cons s rest ih =>
    rw [List.foldl_cons, ih, sumOfSizes, UInt64.toNat_add]
    -- What was lost by the first sum makes no difference to what is left of the last one.
    show ((bytes.toNat + s.size.toNat) % UInt64.size + _) % UInt64.size = _
    rw [Nat.mod_add_mod, Nat.add_assoc]

/-- A checked sum that there is has the sum of the two numbers. -/
theorem checkedSum?_of_lt {a b : UInt64} (h : a.toNat + b.toNat < UInt64.size) :
    checkedSum? a b = some (a + b) ∧ (a + b).toNat = a.toNat + b.toNat := by
  refine ⟨if_pos h, ?_⟩
  rw [UInt64.toNat_add]
  exact Nat.mod_eq_of_lt h

/-- Checked sums in a row come to an end exactly if the whole sum is a word, and they end in that word: no
sum on the way can be too large when the last one is not. Induction on the snapshots, with any word to begin
from. -/
theorem foldlM_checkedSum? (snapshots : List Snapshot) (bytes : UInt64) :
    (snapshots.foldlM (fun bytes s => checkedSum? bytes s.size) bytes).map UInt64.toNat
      = if bytes.toNat + sumOfSizes snapshots < UInt64.size
        then some (bytes.toNat + sumOfSizes snapshots) else none := by
  induction snapshots generalizing bytes with
  | nil => exact (if_pos bytes.toNat_lt_size).symm
  | cons s rest ih =>
    rw [List.foldlM_cons, sumOfSizes]
    by_cases hsum : bytes.toNat + s.size.toNat < UInt64.size
    · obtain ⟨hchecked, hnumber⟩ := checkedSum?_of_lt hsum
      rw [hchecked]
      show ((rest.foldlM (fun bytes s => checkedSum? bytes s.size) (bytes + s.size)).map UInt64.toNat) = _
      rw [ih, hnumber, Nat.add_assoc]
    · -- The first sum is too large already.
      have hwhole : ¬ bytes.toNat + (s.size.toNat + sumOfSizes rest) < UInt64.size := by omega
      have hnone : checkedSum? bytes s.size = none := if_neg hsum
      rw [hnone, if_neg hwhole]
      rfl

/-! ## The snapshots of a machine -/

namespace VirtualMachine

variable {m : VirtualMachine}

/-- The bytes that the snapshots of a machine take. -/
def totalBytes (m : VirtualMachine) : Nat := sumOfSizes m.snapshots

/-- **Without checks the bytes are counted modulo `2 ^ 64`.** -/
theorem snapshotBytes_eq_mod (m : VirtualMachine) : m.snapshotBytes = m.totalBytes % UInt64.size := by
  unfold snapshotBytes totalBytes
  rw [toNat_foldl_size, UInt64.toNat_zero, Nat.zero_add]

/-- What a checking program answers, as a number. -/
theorem map_toNat_checkedSnapshotBytes? (m : VirtualMachine) :
    m.checkedSnapshotBytes?.map UInt64.toNat
      = if m.totalBytes < UInt64.size then some m.totalBytes else none := by
  unfold checkedSnapshotBytes? totalBytes
  rw [foldlM_checkedSum?, UInt64.toNat_zero, Nat.zero_add]

/-- **With checks there is no answer from `2 ^ 64` bytes on.** -/
theorem checkedSnapshotBytes?_eq_none_iff :
    m.checkedSnapshotBytes? = none ↔ UInt64.size ≤ m.totalBytes := by
  rw [← Option.map_eq_none_iff (f := UInt64.toNat), map_toNat_checkedSnapshotBytes?]
  simp

/-- **Below, the answer with checks is what the snapshots take.** -/
theorem checkedSnapshotBytes?_eq_some_iff {bytes : UInt64} :
    m.checkedSnapshotBytes? = some bytes ↔ m.totalBytes < UInt64.size ∧ bytes.toNat = m.totalBytes := by
  have hnumber := m.map_toNat_checkedSnapshotBytes?
  constructor
  · intro hsome
    rw [hsome, Option.map_some] at hnumber
    split at hnumber
    · next hlt => exact ⟨hlt, Option.some.inj hnumber⟩
    · cases hnumber
  · rintro ⟨hlt, hbytes⟩
    rw [if_pos hlt, ← hbytes, Option.map_eq_some_iff] at hnumber
    -- The word is given by its number.
    obtain ⟨other, hother, heq⟩ := hnumber
    rwa [← UInt64.toNat_inj.1 heq]

/-- Where a checking program answers, a program without checks gives the same answer. -/
theorem snapshotBytes_of_checked {bytes : UInt64} (h : m.checkedSnapshotBytes? = some bytes) :
    m.snapshotBytes = bytes.toNat := by
  obtain ⟨hlt, hbytes⟩ := checkedSnapshotBytes?_eq_some_iff.1 h
  rw [snapshotBytes_eq_mod, hbytes, Nat.mod_eq_of_lt hlt]

/-- Where it stops, a program without checks counts fewer bytes than there are. -/
theorem snapshotBytes_lt_totalBytes (h : m.checkedSnapshotBytes? = none) :
    m.snapshotBytes < m.totalBytes := by
  have hlarge := checkedSnapshotBytes?_eq_none_iff.1 h
  rw [snapshotBytes_eq_mod]
  exact Nat.lt_of_lt_of_le (Nat.mod_lt _ (Nat.two_pow_pos 64)) hlarge

end VirtualMachine

/-! ## The verdict -/

namespace Check

/-- The verdict on snapshots goes by the bytes that they take modulo `2 ^ 64`. -/
theorem judgeSize_eq (t : Thresholds Binary64) (m : VirtualMachine) :
    judgeSize t m =
      let size : Binary64 := .ofNat (m.totalBytes % UInt64.size) / .ofNat bytesPerGigabyte
      .ofMetric t "snapshot size" size (.gigabytes size) := by
  unfold judgeSize
  rw [m.snapshotBytes_eq_mod]

/-- **Snapshots that differ by a multiple of `2 ^ 64` bytes are judged alike.** -/
theorem judgeSize_congr {a b : VirtualMachine}
    (h : a.totalBytes % UInt64.size = b.totalBytes % UInt64.size) (t : Thresholds Binary64) :
    judgeSize t a = judgeSize t b := by
  rw [judgeSize_eq, judgeSize_eq, h]

/-- Two snapshots of `2 ^ 63` bytes are judged as if there were none. -/
example (t : Thresholds Binary64) (m : VirtualMachine) (a b : Snapshot)
    (ha : a.size = 9223372036854775808) (hb : b.size = 9223372036854775808) :
    judgeSize t { m with snapshots := [a, b] } = judgeSize t { m with snapshots := [] } :=
  judgeSize_congr (by simp [VirtualMachine.totalBytes, sumOfSizes, ha, hb]) t

end Check

end InventoryProbe
