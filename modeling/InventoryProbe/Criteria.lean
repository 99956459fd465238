import InventoryProbe.Inventory.Object
import InventoryProbe.Settings.Error

/-!
# Criteria

Which objects of an inventory a run looks at. Pools, entity types, alarm names and alarm statuses
are axes: along each of them values may be included or excluded, but not both.
-/

namespace InventoryProbe

open Std (ExtTreeSet TransOrd)

/-! ## Axes -/

/-- The values included and excluded along one axis. -/
structure Axis (α : Type) [Ord α] [TransOrd α] where
  included : ExtTreeSet α := ∅
  excluded : ExtTreeSet α := ∅

namespace Axis

variable {α : Type} [Ord α] [TransOrd α]

/-- The axis along which everything is kept. -/
def unrestricted : Axis α := {}

instance : Inhabited (Axis α) := ⟨unrestricted⟩

instance [Std.LawfulEqOrd α] : DecidableEq (Axis α) := fun a b =>
  decidable_of_iff (a.included = b.included ∧ a.excluded = b.excluded) <| by
    cases a
    cases b
    simp

/-- Whether values are included as well as excluded. -/
def isContradictory (axis : Axis α) : Bool := !axis.included.isEmpty && !axis.excluded.isEmpty

/-- Whether an alarm is kept, given which sets of values it matches: it must match the included
values, if there are any, and must not match the excluded ones. -/
def keeps (axis : Axis α) (isMatch : ExtTreeSet α → Bool) : Bool :=
  (axis.included.isEmpty || isMatch axis.included) && !isMatch axis.excluded

/-- The values of both. -/
def union (a b : Axis α) : Axis α := ⟨a.included ∪ b.included, a.excluded ∪ b.excluded⟩

end Axis

/-! ## Criteria -/

/-- Which objects are looked at. -/
structure Criteria where
  /-- The resource pools of machines, by name. -/
  pools : Axis String
  ignoredMachines : ExtTreeSet String
  ignoredDatastores : ExtTreeSet String
  /-- Whether machines that are switched off are looked at. -/
  poweredOff : Bool
  /-- The types of the entities that alarms were triggered on. -/
  entityTypes : Axis EntityType
  /-- Whether acknowledged alarms are looked at. -/
  acknowledged : Bool
  /-- Parts of alarm names, in any case. -/
  alarmNames : Axis String
  statuses : Axis AlarmStatus
  deriving DecidableEq

namespace Criteria

/-- The criteria that leave everything as it is. -/
def initial : Criteria :=
  ⟨.unrestricted, ∅, ∅, false, .unrestricted, false, .unrestricted, .unrestricted⟩

instance : Inhabited Criteria := ⟨initial⟩

/-- The axes, each told contradictory or not, with the options that set them. -/
def contradictions (c : Criteria) : List (Bool × String × String) :=
  [(c.pools.isContradictory, "include-rp", "exclude-rp"),
   (c.entityTypes.isContradictory, "include-type", "exclude-type"),
   (c.alarmNames.isContradictory, "include-name", "exclude-name"),
   (c.statuses.isContradictory, "include-status", "exclude-status")]

/-- Refuses criteria that include and exclude along one axis; of several axes the first is named. -/
def validate (c : Criteria) : Except SettingError Unit :=
  match c.contradictions.find? (·.1) with
  | some (_, included, excluded) => .error (.conflict included excluded)
  | none => .ok ()

/-- The criteria of both: every value that either gives, and every flag that either sets. -/
def union (a b : Criteria) : Criteria where
  pools := a.pools.union b.pools
  ignoredMachines := a.ignoredMachines ∪ b.ignoredMachines
  ignoredDatastores := a.ignoredDatastores ∪ b.ignoredDatastores
  poweredOff := a.poweredOff || b.poweredOff
  entityTypes := a.entityTypes.union b.entityTypes
  acknowledged := a.acknowledged || b.acknowledged
  alarmNames := a.alarmNames.union b.alarmNames
  statuses := a.statuses.union b.statuses

def layout : Layout Criteria Criteria :=
  Layout.start (fun poolsIn poolsOut machines datastores poweredOff typesIn typesOut acknowledged
      namesIn namesOut statusesIn statusesOut =>
    ⟨⟨poolsIn, poolsOut⟩, machines, datastores, poweredOff, ⟨typesIn, typesOut⟩, acknowledged,
      ⟨namesIn, namesOut⟩, ⟨statusesIn, statusesOut⟩⟩)
    |>.defaulted "include_resource_pools" Codec.text.set ∅ (·.pools.included)
    |>.defaulted "exclude_resource_pools" Codec.text.set ∅ (·.pools.excluded)
    |>.defaulted "ignore_vm_names" Codec.text.set ∅ (·.ignoredMachines)
    |>.defaulted "ignore_datastore_names" Codec.text.set ∅ (·.ignoredDatastores)
    |>.defaulted "include_powered_off" .bool false (·.poweredOff)
    |>.defaulted "include_managed_types" EntityType.codec.set ∅ (·.entityTypes.included)
    |>.defaulted "exclude_managed_types" EntityType.codec.set ∅ (·.entityTypes.excluded)
    |>.defaulted "include_acknowledged_alarms" .bool false (·.acknowledged)
    |>.defaulted "include_alarm_names" Codec.text.set ∅ (·.alarmNames.included)
    |>.defaulted "exclude_alarm_names" Codec.text.set ∅ (·.alarmNames.excluded)
    |>.defaulted "include_alarm_statuses" AlarmStatus.codec.set ∅ (·.statuses.included)
    |>.defaulted "exclude_alarm_statuses" AlarmStatus.codec.set ∅ (·.statuses.excluded)

def codec : Codec Criteria := layout.codec .refused

end Criteria

end InventoryProbe
