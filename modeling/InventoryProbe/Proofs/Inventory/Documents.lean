import InventoryProbe.Inventory.Format
import InventoryProbe.Proofs.Document.Layout
import InventoryProbe.Proofs.HardwareVersion
import InventoryProbe.Proofs.Timestamp

/-!
# Inventories are read from their documents

Every field of every record is written under a name of its own and read from what was written for
it. So records are read back, lists of them in order, and an inventory as a whole.

* **`Inventory.read_write`**: an inventory is read from its own text.
-/

namespace InventoryProbe

/-! ## States

No two states of a kind share a name. -/

/-- Each state of a machine has a name of its own. -/
@[simp] theorem PowerState.faithful_codec : PowerState.codec.Faithful :=
  Codec.faithful_choice fun a => by cases a <;> decide

/-- Each state of the tools has a name of its own. -/
@[simp] theorem ToolsStatus.faithful_codec : ToolsStatus.codec.Faithful :=
  Codec.faithful_choice fun a => by cases a <;> decide

/-- Each type of an entity has a name of its own. -/
@[simp] theorem EntityType.faithful_codec : EntityType.codec.Faithful :=
  Codec.faithful_choice fun a => by cases a <;> decide

/-- Each status of an alarm has a name of its own. -/
@[simp] theorem AlarmStatus.faithful_codec : AlarmStatus.codec.Faithful :=
  Codec.faithful_choice fun a => by cases a <;> decide

/-! ## Values that may be absent

They are written as texts and numbers, so none is taken for an absent one. -/

/-- No text is written as one that is missing. -/
@[simp] theorem Codec.faithful_optional_text : Codec.text.optional.Faithful :=
  faithful_text.optional fun _ => nofun

@[simp] theorem Codec.faithful_optional_word64 : Codec.word64.optional.Faithful :=
  faithful_word64.optional fun _ => nofun

/-- No version is written as one that is missing. -/
@[simp] theorem HardwareVersion.faithful_optional : HardwareVersion.codec.optional.Faithful :=
  faithful_codec.optional fun _ => nofun

/-- No state of the tools is written as one that is missing. -/
@[simp] theorem ToolsStatus.faithful_optional : ToolsStatus.codec.optional.Faithful :=
  faithful_codec.optional fun _ => nofun

/-! ## Records -/

/-- The fields of a cluster differ in name, and each is read back. -/
theorem Cluster.lossless_layout : Cluster.layout.Lossless where
  fields := by simp [layout]
  nodup := by decide
  value _ := rfl

theorem Host.lossless_layout : Host.layout.Lossless where
  fields := by simp [layout]
  nodup := by decide
  value _ := rfl

theorem Datastore.lossless_layout : Datastore.layout.Lossless where
  fields := by simp [layout]
  nodup := by decide
  value _ := rfl

theorem Snapshot.lossless_layout : Snapshot.layout.Lossless where
  fields := by simp [layout]
  nodup := by decide
  value _ := rfl

/-- The fields of a machine differ in name, and its snapshots are read back. -/
theorem VirtualMachine.lossless_layout : VirtualMachine.layout.Lossless where
  fields := by simp [layout, Snapshot.lossless_layout.faithful]
  nodup := by decide
  value _ := rfl

theorem ResourcePool.lossless_layout : ResourcePool.layout.Lossless where
  fields := by simp [layout]
  nodup := by decide
  value _ := rfl

theorem AlarmSource.lossless_layout : AlarmSource.layout.Lossless where
  fields := by simp [layout]
  nodup := by decide
  value _ := rfl

theorem Alarm.lossless_layout : Alarm.layout.Lossless where
  fields := by simp [layout, AlarmSource.lossless_layout.faithful]
  nodup := by decide
  value _ := rfl

theorem AttributeEntry.lossless_layout : AttributeEntry.layout.Lossless where
  fields := by simp [layout]
  nodup := by decide
  value _ := rfl

namespace Inventory

/-- The fields of an inventory differ in name, and all its objects are read back. -/
theorem lossless_layout : Inventory.layout.Lossless where
  fields := by
    simp [layout, Cluster.lossless_layout.faithful, Host.lossless_layout.faithful,
      Datastore.lossless_layout.faithful, VirtualMachine.lossless_layout.faithful,
      ResourcePool.lossless_layout.faithful, Alarm.lossless_layout.faithful,
      AttributeEntry.lossless_layout.faithful]
  nodup := by decide
  value _ := rfl

theorem faithful_codec : Inventory.codec.Faithful := lossless_layout.faithful .skipped

/-- **An inventory is read from its own text**, whatever is in it, with every field of every record
and all lists in order. Every hardware version is written as `vmx-` and the digits of its number. -/
theorem read_write (inventory : Inventory) :
    Inventory.read inventory.write = .ok inventory ∧
    ∀ version : HardwareVersion, ∃ ds,
      HardwareVersion.codec.write version = .text ("vmx-" ++ String.ofList ds) ∧ 2 ≤ ds.length ∧
        (∀ c ∈ ds, Text.isDigit c) ∧ Text.numberOf 10 ds = version.number.toNat := by
  refine ⟨faithful_codec.readJson Json.Spacing.blank_tight inventory, fun version => ?_⟩
  obtain ⟨ds, htext, hlength, hdigits, hnumber⟩ := version.text_tagged
  exact ⟨ds, congrArg Document.text htext, hlength, hdigits, hnumber⟩

end Inventory

end InventoryProbe
