import InventoryProbe.Inventory.Format
import InventoryProbe.Proofs.Document.Json
import InventoryProbe.Proofs.Document.Spelling

/-!
# Inventories in other spellings

The fields of every record of an inventory document, those that may be left out with the value that
they then have. The layouts by which inventories are read have these fields, so that it makes no
difference to what is read in which order they come, what stands between them, and whether a value
is written that might have been left out.

* **`Inventory.read_of_respelled`**: a document that is accepted is read alike in every spelling.
-/

namespace InventoryProbe

open Relation (ReflTransGen)
open FieldShape (required nested defaulted optional amount many)

/-! ## Shapes -/

def Cluster.shape : Shape :=
  .record [required "id", required "name", optional "datacenter",
    optional "default_hardware_version"]

def Host.shape : Shape :=
  .record [required "id", required "name", optional "datacenter", optional "cluster",
    amount "memory_total_bytes", amount "memory_usage_bytes", amount "cpu_total_mhz",
    amount "cpu_usage_mhz", defaulted "in_maintenance" (.bool false),
    optional "default_hardware_version"]

/-- A datastore is accessible where nothing is said about it. -/
def Datastore.shape : Shape :=
  .record [required "id", required "name", optional "datacenter", amount "capacity_bytes",
    amount "free_bytes", defaulted "accessible" (.bool true)]

def Snapshot.shape : Shape :=
  .record [required "id", required "name", required "created", amount "size_bytes"]

def VirtualMachine.shape : Shape :=
  .record [required "id", required "name", optional "datacenter", optional "host",
    optional "resource_pool", many "datastores" .plain, required "power_state",
    required "hardware_version", defaulted "template" (.bool false), optional "uptime_seconds",
    amount "num_cpu", many "snapshots" Snapshot.shape,
    defaulted "consolidation_needed" (.bool false), optional "tools_status"]

def ResourcePool.shape : Shape :=
  .record [required "id", required "name", optional "datacenter", amount "memory_usage_bytes"]

def AlarmSource.shape : Shape :=
  .record [required "entity_type", required "id", required "name"]

def Alarm.shape : Shape :=
  .record [required "key", required "name", defaulted "description" (.text ""),
    optional "datacenter", nested "entity" AlarmSource.shape, required "status",
    defaulted "acknowledged" (.bool false), optional "triggered_at"]

def AttributeEntry.shape : Shape :=
  .record [required "object_id", required "name", required "value"]

def Inventory.shape : Shape :=
  .record [required "collected_at", optional "default_hardware_version",
    many "clusters" Cluster.shape, many "hosts" Host.shape, many "datastores" Datastore.shape,
    many "virtual_machines" VirtualMachine.shape, many "resource_pools" ResourcePool.shape,
    many "alarms" Alarm.shape, many "custom_attributes" AttributeEntry.shape]

/-! ## Layouts

A layout has the fields of a shape if they agree one by one. -/

namespace Layout

variable {ρ α κ : Type} {shapes : List (FieldShape Shape)} {name : String}

/-- A layout without fields has no shapes. -/
@[simp] theorem shaped_start {make : κ} : (start make : Layout ρ κ).Shaped shapes ↔ shapes = [] :=
  Iff.rfl

/-- A required field is of the last shape, which stands for no value where it is missing. -/
@[simp] theorem shaped_required {before : Layout ρ (α → κ)} {c : Codec α} {get : ρ → α} :
    (before.required name c get).Shaped shapes ↔ before.Shaped shapes.dropLast ∧
      ∃ s, shapes.getLast? = some s ∧ name = s.name ∧ s.absent = none ∧ c.Steady s.shape := by
  rw [required, Shaped]
  refine and_congr_right fun _ => exists_congr fun s => and_congr_right fun _ => ?_
  constructor
  · rintro ⟨hname, habsent, hsteady⟩
    refine ⟨hname, ?_, hsteady⟩
    cases hnone : s.absent with
    | none => rfl
    -- A default would have to be a value of the field, which has none.
    | some d =>
      obtain ⟨a, ha, -⟩ := habsent d hnone
      cases ha
  · rintro ⟨hname, habsent, hsteady⟩
    refine ⟨hname, fun d hd => ?_, hsteady⟩
    rw [habsent] at hd
    cases hd

/-- The last shape of a field with a default may stand for that where it is missing. -/
@[simp] theorem shaped_defaulted {before : Layout ρ (α → κ)} {c : Codec α} {absent : α}
    {get : ρ → α} :
    (before.defaulted name c absent get).Shaped shapes ↔ before.Shaped shapes.dropLast ∧
      ∃ s, shapes.getLast? = some s ∧ name = s.name ∧
        (∀ d, s.absent = some d → c.read .streamed d = .ok absent) ∧ c.Steady s.shape := by
  rw [Layout.defaulted, Shaped]
  refine and_congr_right fun _ => exists_congr fun s => and_congr_right fun _ => ?_
  constructor
  · rintro ⟨hname, habsent, hsteady⟩
    refine ⟨hname, fun d hd => ?_, hsteady⟩
    obtain ⟨a, ⟨⟩, hread⟩ := habsent d hd
    exact hread
  · rintro ⟨hname, habsent, hsteady⟩
    exact ⟨hname, fun d hd => ⟨absent, rfl, habsent d hd⟩, hsteady⟩

/-- The last shape of a field that may be missing may stand for that. -/
@[simp] theorem shaped_optional {before : Layout ρ (Option α → κ)} {c : Codec α}
    {get : ρ → Option α} :
    (before.optional name c get).Shaped shapes ↔ before.Shaped shapes.dropLast ∧
      ∃ s, shapes.getLast? = some s ∧ name = s.name ∧
        (∀ d, s.absent = some d → c.optional.read .streamed d = .ok none) ∧
          c.optional.Steady s.shape :=
  shaped_defaulted

end Layout

/-! ### Values of fields that are left out -/

namespace Codec

variable {α : Type} (form : Form)

@[simp] theorem read_optional_null (c : Codec α) : c.optional.read form .null = .ok none := rfl

@[simp] theorem read_list_nil (c : Codec α) : c.list.read form (.list []) = .ok [] := rfl

@[simp] theorem read_text (s : String) : text.read form (.text s) = .ok s := rfl

@[simp] theorem read_bool (b : Bool) : bool.read form (.bool b) = .ok b := rfl

@[simp] theorem read_word64_zero : word64.read form (.number "0") = .ok 0 := rfl

@[simp] theorem read_word32_zero : word32.read form (.number "0") = .ok 0 := rfl

end Codec

/-! ## Records -/

/-- A cluster is read alike however it is spelled. -/
@[simp] theorem Cluster.steady_layout : (Cluster.layout.codec .skipped).Steady Cluster.shape :=
  Layout.steady (by simp [Cluster.layout]) (by decide)

@[simp] theorem Host.steady_layout : (Host.layout.codec .skipped).Steady Host.shape :=
  Layout.steady (by simp [Host.layout]) (by decide)

@[simp] theorem Datastore.steady_layout : (Datastore.layout.codec .skipped).Steady Datastore.shape :=
  Layout.steady (by simp [Datastore.layout]) (by decide)

@[simp] theorem Snapshot.steady_layout : (Snapshot.layout.codec .skipped).Steady Snapshot.shape :=
  Layout.steady (by simp [Snapshot.layout]) (by decide)

/-- A machine is read alike however it and its snapshots are spelled. -/
@[simp] theorem VirtualMachine.steady_layout :
    (VirtualMachine.layout.codec .skipped).Steady VirtualMachine.shape :=
  Layout.steady (by simp [VirtualMachine.layout, Snapshot.steady_layout.list]) (by decide)

@[simp] theorem ResourcePool.steady_layout :
    (ResourcePool.layout.codec .skipped).Steady ResourcePool.shape :=
  Layout.steady (by simp [ResourcePool.layout]) (by decide)

@[simp] theorem AlarmSource.steady_layout :
    (AlarmSource.layout.codec .skipped).Steady AlarmSource.shape :=
  Layout.steady (by simp [AlarmSource.layout]) (by decide)

/-- An alarm is read alike however it and its entity are spelled. -/
@[simp] theorem Alarm.steady_layout : (Alarm.layout.codec .skipped).Steady Alarm.shape :=
  Layout.steady (by simp [Alarm.layout]) (by decide)

@[simp] theorem AttributeEntry.steady_layout :
    (AttributeEntry.layout.codec .skipped).Steady AttributeEntry.shape :=
  Layout.steady (by simp [AttributeEntry.layout]) (by decide)

namespace Inventory

theorem steady_codec : Inventory.codec.Steady Inventory.shape :=
  Layout.steady (by simp [layout]) (by decide)

/-- **Reading an inventory does not depend on how its document is spelled.** If a JSON text is
accepted, so is any text of its tree after any number of changes of spelling to any of its records,
and it is read as the same inventory. -/
theorem read_of_respelled {source respelled : String} {d d' : Document}
    (hsource : Json.read source.toList = (d, true))
    (hrespelled : Json.read respelled.toList = (d', true))
    (hchanges : ReflTransGen Inventory.shape.Respells d d') {inventory : Inventory}
    (hread : Inventory.read source = .ok inventory) : Inventory.read respelled = .ok inventory := by
  -- The text is read as its tree is, and all changes are changes of the tree.
  obtain ⟨_, htree, hd⟩ := Codec.readJson_eq_ok_iff.1 hread
  rw [hsource] at htree
  cases htree
  exact Codec.readJson_eq_ok_iff.2 ⟨d', hrespelled, steady_codec.read_of_reflTransGen hchanges hd⟩

/-! ## One inventory in two spellings

The second text has the members of the inventory in reverse with one more between them, says nothing
of the datastore's accessibility, and gives the size of the snapshot as zero. -/

/-- A snapshot of which the size is not given. -/
def snapshotMembers : List (Option String × Document) :=
  [(some "id", .text "snap-1"), (some "name", .text "before"),
   (some "created", .text "2026-02-01T00:00:00Z")]

/-- A datastore of which it is not said whether it can be accessed. -/
def datastoreMembers : List (Option String × Document) :=
  [(some "id", .text "ds-1"), (some "name", .text "ssd")]

/-- A machine with one snapshot. -/
def machineMembers (snapshot : List (Option String × Document)) : List (Option String × Document) :=
  [(some "id", .text "vm-1"), (some "name", .text "web"), (some "power_state", .text "poweredOn"),
   (some "hardware_version", .text "vmx-19"), (some "snapshots", .list [.object snapshot])]

/-- A datastore, a machine, and what nobody asked for. -/
def siteMembers (datastore snapshot strangers : List (Option String × Document)) :
    List (Option String × Document) :=
  [(some "collected_at", .text "2026-03-01T12:00:00Z"),
   (some "datastores", .list [.object datastore])] ++ strangers ++
  [(some "virtual_machines", .list [.object (machineMembers snapshot)])]

/-- The datastore can be accessed, and it is said so. -/
def plainSpelling : Document :=
  .object (siteMembers (datastoreMembers ++ [(some "accessible", .bool true)]) snapshotMembers [])

/-- That the datastore can be accessed is left unsaid, and that the snapshot takes nothing is said; there
is a stranger, and all stands backwards. -/
def otherSpelling : Document :=
  .object (siteMembers datastoreMembers (snapshotMembers ++ [(some "size_bytes", .number "0")])
    [(some "site", .list [.null])]).reverse

/-- The changes that lead from one spelling to the other, the deepest first. -/
theorem respelled_otherSpelling :
    ReflTransGen Inventory.shape.Respells plainSpelling otherSpelling := by
  let size : List (Option String × Document) := [(some "size_bytes", .number "0")]
  let accessible : List (Option String × Document) := [(some "accessible", .bool true)]
  let site : List (Option String × Document) := [(some "site", .list [.null])]
  -- A size is added to the snapshot, inside of its machine.
  have hsnapshot : Snapshot.shape.Respells (.object snapshotMembers)
      (.object (snapshotMembers ++ size)) :=
    @Shape.Respells.add _ snapshotMembers [] (.amount "size_bytes") _ (by simp) rfl (by decide)
  have hmachine : VirtualMachine.shape.Respells (.object (machineMembers snapshotMembers))
      (.object (machineMembers (snapshotMembers ++ size))) :=
    @Shape.Respells.member _ ((machineMembers []).take 4) [] (.many "snapshots" Snapshot.shape) _ _
      (by simp) (@Shape.Respells.item _ [] [] _ _ hsnapshot)
  -- A flag that says no more than its default is taken from the datastore.
  have hdatastore : Datastore.shape.Respells (.object (datastoreMembers ++ accessible))
      (.object datastoreMembers) :=
    @Shape.Respells.remove _ datastoreMembers [] (.defaulted "accessible" (.bool true)) _ (by simp)
      rfl
  have hmachines : Inventory.shape.Respells plainSpelling
      (.object (siteMembers (datastoreMembers ++ accessible) (snapshotMembers ++ size) [])) :=
    @Shape.Respells.member _ ((siteMembers (datastoreMembers ++ accessible) [] []).take 2) []
      (.many "virtual_machines" VirtualMachine.shape) _ _ (by simp)
      (@Shape.Respells.item _ [] [] _ _ hmachine)
  have hdatastores : Inventory.shape.Respells
      (.object (siteMembers (datastoreMembers ++ accessible) (snapshotMembers ++ size) []))
      (.object (siteMembers datastoreMembers (snapshotMembers ++ size) [])) :=
    @Shape.Respells.member _ ((siteMembers [] [] []).take 1)
      ((siteMembers [] (snapshotMembers ++ size) []).drop 2)
      (.many "datastores" Datastore.shape) _ _ (by simp)
      (@Shape.Respells.item _ [] [] _ _ hdatastore)
  -- A stranger comes in among the members of the inventory, and then all are turned around.
  have hinserted : Inventory.shape.Respells
      (.object (siteMembers datastoreMembers (snapshotMembers ++ size) []))
      (.object (siteMembers datastoreMembers (snapshotMembers ++ size) site)) :=
    @Shape.Respells.insert _ ((siteMembers datastoreMembers [] []).take 2)
      ((siteMembers [] (snapshotMembers ++ size) []).drop 2) "site" (.list [.null]) (by simp) rfl
  have hreversed : Inventory.shape.Respells
      (.object (siteMembers datastoreMembers (snapshotMembers ++ size) site)) otherSpelling :=
    .reorder (List.reverse_perm _).symm
  exact (((ReflTransGen.single hmachines).tail hdatastores).tail hinserted).tail hreversed

/-- Both spellings are read, and as one inventory. -/
theorem read_otherSpelling :
    Json.read (Json.write .tight plainSpelling).toList = (plainSpelling, true) ∧
    Json.read (Json.write .indented otherSpelling).toList = (otherSpelling, true) ∧
    ReflTransGen Inventory.shape.Respells plainSpelling otherSpelling ∧
    ∃ inventory, Inventory.read (Json.write .tight plainSpelling) = .ok inventory ∧
      Inventory.read (Json.write .indented otherSpelling) = .ok inventory := by
  have hplain : Json.read (Json.write .tight plainSpelling).toList = (plainSpelling, true) := by
    rw [Json.write, String.toList_ofList]
    exact Json.read_writeAt Json.Spacing.blank_tight
      (by simp [plainSpelling, siteMembers, datastoreMembers, machineMembers, snapshotMembers,
        Json.Writable.text, Json.Writable.bool])
  have hzero : Json.Writable (.number "0") := .number (Json.isNumber_toString 0)
  have hother : Json.read (Json.write .indented otherSpelling).toList = (otherSpelling, true) := by
    rw [Json.write, String.toList_ofList]
    exact Json.read_writeAt Json.Spacing.blank_indented
      (by simp [otherSpelling, siteMembers, datastoreMembers, machineMembers, snapshotMembers,
        Json.Writable.text, Json.Writable.null, hzero])
  -- Which inventory it is does not matter here, only that the first text is accepted.
  have haccepted : (codec.read .streamed plainSpelling).isOk = true := by decide +kernel
  cases htree : codec.read .streamed plainSpelling with
  | error e =>
    rw [htree] at haccepted
    cases haccepted
  | ok inventory =>
    have hread : Inventory.read (Json.write .tight plainSpelling) = .ok inventory :=
      Codec.readJson_eq_ok_iff.2 ⟨plainSpelling, hplain, htree⟩
    exact ⟨hplain, hother, respelled_otherSpelling, inventory, hread,
      read_of_respelled hplain hother respelled_otherSpelling hread⟩

end Inventory

end InventoryProbe
