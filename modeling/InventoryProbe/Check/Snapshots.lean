import InventoryProbe.Check.Basic

/-!
# Snapshots of machines

How old the oldest snapshot of a machine is, how many snapshots it has, and what space they take.
-/

namespace InventoryProbe.Check

/-- The boundaries for the age of snapshots, in days. -/
def ageDefaults : Thresholds Binary64 := ⟨1, 2⟩

/-- The boundaries for the number of snapshots. -/
def countDefaults : Thresholds Binary64 := ⟨4, 25⟩

/-- The boundaries for the space of snapshots, in gigabytes. -/
def sizeDefaults : Thresholds Binary64 := ⟨20, 40⟩

/-- The verdict on the age of a machine's oldest snapshot. A snapshot made after the inventory was
collected is new. -/
def judgeAge (t : Thresholds Binary64) (collectedAt : Timestamp) (m : VirtualMachine) : Verdict :=
  match m.oldestSnapshot? with
  | none => .ok (.count 0) "no snapshots"
  | some oldest =>
    let age := days (collectedAt.secondsSince oldest.created)
    .ofMetric t ("oldest snapshot '" ++ oldest.name ++ "' age") age (.days age)

/-- The age of snapshots. -/
def snapshotAge (t : Thresholds Binary64) : Check where
  name := CheckName.snapshotAge.text
  description := CheckName.snapshotAge.description
  scope s := s.virtualMachines.map (·.ref)
  evaluate s :=
    let now := s.inventory.collectedAt
    .ok (s.virtualMachines.map fun m => ⟨judgeAge t now m, m.ref⟩)

/-- The verdict on the number of a machine's snapshots. -/
def judgeCount (t : Thresholds Binary64) (m : VirtualMachine) : Verdict :=
  let count := UInt64.ofNat m.snapshots.length
  .ofMetric t "snapshot count" (.ofNat count.toNat) (.count count)

/-- The number of snapshots. -/
def snapshotCount (t : Thresholds Binary64) : Check where
  name := CheckName.snapshotCount.text
  description := CheckName.snapshotCount.description
  scope s := s.virtualMachines.map (·.ref)
  evaluate s := .ok (s.virtualMachines.map fun m => ⟨judgeCount t m, m.ref⟩)

/-- The bytes of a gigabyte. -/
def bytesPerGigabyte : Nat := 1 <<< 30

/-- The verdict on the space that a machine's snapshots take. -/
def judgeSize (t : Thresholds Binary64) (m : VirtualMachine) : Verdict :=
  let size : Binary64 := .ofNat m.snapshotBytes / .ofNat bytesPerGigabyte
  .ofMetric t "snapshot size" size (.gigabytes size)

/-- The space that snapshots take. -/
def snapshotSize (t : Thresholds Binary64) : Check where
  name := CheckName.snapshotSize.text
  description := CheckName.snapshotSize.description
  scope s := s.virtualMachines.map (·.ref)
  evaluate s := .ok (s.virtualMachines.map fun m => ⟨judgeSize t m, m.ref⟩)

end InventoryProbe.Check
