import InventoryProbe.Settings.Basic
import Mathlib.Data.List.ReduceOption

/-!
# Parts of settings laid over one another

What is given for one part of the settings is laid over what was there, one call after the other.
Each option then ends by one of three rules, however often something was given for the part.

* **`Replaced`**, **`Collected`**, **`Raised`**: the three rules; the last value stays, sets are put
  together, and a flag stays set.
* **`replaced_foldl`**, **`collected_foldl`**, **`raised_foldl`**: what one call does to an option
  says what any number of calls do to it.
* **`Criteria.Layered`**, **`PairingSettings.Layered`**, **`VersionSettings.Layered`**,
  **`ThresholdSettings.Layered`**: which rule holds for which option.
-/

namespace InventoryProbe

open Std (ExtTreeSet TransOrd LawfulEqOrd)

/-! ## Three rules -/

/-- That an option ends as the last value given for it, or as it was where none was given. -/
def Replaced {α : Type} (start : Option α) (given : List (Option α)) (finish : Option α) : Prop :=
  finish = (given.reduceOption.getLast? <|> start)

/-- That a set ends with what it had and with everything that was given. -/
def Collected {α : Type} [Ord α] [TransOrd α] (start : ExtTreeSet α) (given : List (ExtTreeSet α))
    (finish : ExtTreeSet α) : Prop :=
  ∀ a, a ∈ finish ↔ a ∈ start ∨ ∃ set ∈ given, a ∈ set

/-- That a flag ends set exactly if it was set or was given. -/
def Raised (start : Bool) (given : List Bool) (finish : Bool) : Prop :=
  finish = (start || given.any id)

theorem Replaced.unique {α : Type} {start : Option α} {given : List (Option α)} {a b : Option α}
    (ha : Replaced start given a) (hb : Replaced start given b) : a = b := Eq.trans ha (Eq.symm hb)

/-- What is collected is one set. -/
theorem Collected.unique {α : Type} [Ord α] [TransOrd α] [LawfulEqOrd α] {start : ExtTreeSet α}
    {given : List (ExtTreeSet α)} {a b : ExtTreeSet α} (ha : Collected start given a)
    (hb : Collected start given b) : a = b :=
  ExtTreeSet.ext_mem fun x => (ha x).trans (hb x).symm

theorem Raised.unique {start : Bool} {given : List Bool} {a b : Bool} (ha : Raised start given a)
    (hb : Raised start given b) : a = b := Eq.trans ha (Eq.symm hb)

section Folds

variable {σ α : Type} {merge : σ → σ → σ} (start : σ) (given : List σ)

/-- A field that later layers replace has the last value that was given. Induction on the layers. -/
theorem replaced_foldl (get : σ → Option α) (h : ∀ s g, get (merge s g) = (get g <|> get s)) :
    Replaced (get start) (given.map get) (get (given.foldl merge start)) := by
  unfold Replaced
  induction given generalizing start with
  | nil => rfl
  | cons g rest ih =>
    rw [List.foldl_cons, ih, h, List.map_cons]
    -- A layer that gives nothing leaves the field to the others.
    cases get g with
    | none => rfl
    | some value =>
      rw [List.reduceOption_cons_of_some, List.getLast?_cons]
      cases (rest.map get).reduceOption.getLast? with
      | none => rfl
      | some last => rfl

/-- A value that is always there is replaced by the last one as well. -/
theorem foldl_last : given.foldl (fun _ g => g) start = given.getLast?.getD start := by
  induction given generalizing start with
  | nil => rfl
  | cons g rest ih =>
    rw [List.foldl_cons, ih, List.getLast?_cons]
    rfl

/-- A field that layers add to has all values that were given. Induction on the layers. -/
theorem collected_foldl [Ord α] [TransOrd α] (get : σ → ExtTreeSet α)
    (h : ∀ s g, get (merge s g) = get s ∪ get g) :
    Collected (get start) (given.map get) (get (given.foldl merge start)) := by
  intro a
  -- Induction on what is given, from any start, which grows with every part.
  induction given generalizing start with
  | nil => simp
  | cons g rest ih =>
    rw [List.foldl_cons, ih, h, ExtTreeSet.mem_union_iff]
    simp [or_assoc]

/-- A field that layers raise is raised if one of them raises it. Induction on the layers. -/
theorem raised_foldl (get : σ → Bool) (h : ∀ s g, get (merge s g) = (get s || get g)) :
    Raised (get start) (given.map get) (get (given.foldl merge start)) := by
  unfold Raised
  induction given generalizing start with
  | nil => simp
  | cons g rest ih =>
    rw [List.foldl_cons, ih, h, List.map_cons, List.any_cons, Bool.or_assoc]
    rfl

end Folds

/-! ## The parts of settings

How the options of one part end when all that was given for the part is laid over what was there. -/

/-- That boundaries are those of a history, field by field. -/
structure ThresholdSettings.Layered (start : ThresholdSettings) (given : List ThresholdSettings)
    (finish : ThresholdSettings) : Prop where
  warning : Replaced start.warning (given.map (·.warning)) finish.warning
  critical : Replaced start.critical (given.map (·.critical)) finish.critical

/-- That options for pairing are those of a history, field by field. -/
structure PairingSettings.Layered (start : PairingSettings) (given : List PairingSettings)
    (finish : PairingSettings) : Prop where
  sharedAttribute :
    Replaced start.sharedAttribute (given.map (·.sharedAttribute)) finish.sharedAttribute
  sharedSeparator :
    Replaced start.sharedSeparator (given.map (·.sharedSeparator)) finish.sharedSeparator
  hostAttribute : Replaced start.hostAttribute (given.map (·.hostAttribute)) finish.hostAttribute
  hostSeparator : Replaced start.hostSeparator (given.map (·.hostSeparator)) finish.hostSeparator
  datastoreAttribute :
    Replaced start.datastoreAttribute (given.map (·.datastoreAttribute)) finish.datastoreAttribute
  datastoreSeparator :
    Replaced start.datastoreSeparator (given.map (·.datastoreSeparator)) finish.datastoreSeparator
  ignoreMissing : Raised start.ignoreMissing (given.map (·.ignoreMissing)) finish.ignoreMissing

/-- That options for versions are those of a history, field by field. -/
structure VersionSettings.Layered (start : VersionSettings) (given : List VersionSettings)
    (finish : VersionSettings) : Prop where
  homogeneous : Raised start.homogeneous (given.map (·.homogeneous)) finish.homogeneous
  outdatedByWarning :
    Replaced start.outdatedByWarning (given.map (·.outdatedByWarning)) finish.outdatedByWarning
  outdatedByCritical :
    Replaced start.outdatedByCritical (given.map (·.outdatedByCritical)) finish.outdatedByCritical
  minimumRequired :
    Replaced start.minimumRequired (given.map (·.minimumRequired)) finish.minimumRequired
  defaultIsMinimum :
    Raised start.defaultIsMinimum (given.map (·.defaultIsMinimum)) finish.defaultIsMinimum

/-- That an axis is that of a history. -/
structure Axis.Layered {α : Type} [Ord α] [TransOrd α] (start : Axis α) (given : List (Axis α))
    (finish : Axis α) : Prop where
  included : Collected start.included (given.map (·.included)) finish.included
  excluded : Collected start.excluded (given.map (·.excluded)) finish.excluded

/-- That criteria are those of a history, axis by axis. -/
structure Criteria.Layered (start : Criteria) (given : List Criteria) (finish : Criteria) :
    Prop where
  pools : start.pools.Layered (given.map (·.pools)) finish.pools
  ignoredMachines :
    Collected start.ignoredMachines (given.map (·.ignoredMachines)) finish.ignoredMachines
  ignoredDatastores :
    Collected start.ignoredDatastores (given.map (·.ignoredDatastores)) finish.ignoredDatastores
  poweredOff : Raised start.poweredOff (given.map (·.poweredOff)) finish.poweredOff
  entityTypes : start.entityTypes.Layered (given.map (·.entityTypes)) finish.entityTypes
  acknowledged : Raised start.acknowledged (given.map (·.acknowledged)) finish.acknowledged
  alarmNames : start.alarmNames.Layered (given.map (·.alarmNames)) finish.alarmNames
  statuses : start.statuses.Layered (given.map (·.statuses)) finish.statuses

/-! Laying all that was given over the start, one after the other, keeps to these rules. -/

/-- Boundaries that are merged one by one are those of their history. -/
theorem ThresholdSettings.layered_foldl (start : ThresholdSettings)
    (given : List ThresholdSettings) :
    start.Layered given (given.foldl (fun base t => t.above base) start) where
  warning := replaced_foldl start given (·.warning) fun _ _ => rfl
  critical := replaced_foldl start given (·.critical) fun _ _ => rfl

theorem PairingSettings.layered_foldl (start : PairingSettings) (given : List PairingSettings) :
    start.Layered given (given.foldl (fun base p => p.above base) start) where
  sharedAttribute := replaced_foldl start given (·.sharedAttribute) fun _ _ => rfl
  sharedSeparator := replaced_foldl start given (·.sharedSeparator) fun _ _ => rfl
  hostAttribute := replaced_foldl start given (·.hostAttribute) fun _ _ => rfl
  hostSeparator := replaced_foldl start given (·.hostSeparator) fun _ _ => rfl
  datastoreAttribute := replaced_foldl start given (·.datastoreAttribute) fun _ _ => rfl
  datastoreSeparator := replaced_foldl start given (·.datastoreSeparator) fun _ _ => rfl
  ignoreMissing := raised_foldl start given (·.ignoreMissing) fun _ _ => Bool.or_comm _ _

theorem VersionSettings.layered_foldl (start : VersionSettings) (given : List VersionSettings) :
    start.Layered given (given.foldl (fun base v => v.above base) start) where
  homogeneous := raised_foldl start given (·.homogeneous) fun _ _ => Bool.or_comm _ _
  outdatedByWarning := replaced_foldl start given (·.outdatedByWarning) fun _ _ => rfl
  outdatedByCritical := replaced_foldl start given (·.outdatedByCritical) fun _ _ => rfl
  minimumRequired := replaced_foldl start given (·.minimumRequired) fun _ _ => rfl
  defaultIsMinimum := raised_foldl start given (·.defaultIsMinimum) fun _ _ => Bool.or_comm _ _

theorem Criteria.layered_foldl (start : Criteria) (given : List Criteria) :
    start.Layered given (given.foldl Criteria.union start) := by
  -- Both sets of an axis are put together with those of the axis that is given.
  have haxis {α : Type} [Ord α] [TransOrd α] (get : Criteria → Axis α)
      (h : ∀ s g, get (s.union g) = (get s).union (get g)) :
      (get start).Layered (given.map get) (get (given.foldl Criteria.union start)) := by
    refine ⟨?_, ?_⟩
    · rw [List.map_map]
      exact collected_foldl start given (fun c => (get c).included) fun s g => by rw [h]; rfl
    · rw [List.map_map]
      exact collected_foldl start given (fun c => (get c).excluded) fun s g => by rw [h]; rfl
  exact {
    pools := haxis (·.pools) fun _ _ => rfl
    ignoredMachines := collected_foldl start given (·.ignoredMachines) fun _ _ => rfl
    ignoredDatastores := collected_foldl start given (·.ignoredDatastores) fun _ _ => rfl
    poweredOff := raised_foldl start given (·.poweredOff) fun _ _ => rfl
    entityTypes := haxis (·.entityTypes) fun _ _ => rfl
    acknowledged := raised_foldl start given (·.acknowledged) fun _ _ => rfl
    alarmNames := haxis (·.alarmNames) fun _ _ => rfl
    statuses := haxis (·.statuses) fun _ _ => rfl }

/-! Nothing is left open: two parts that end by the same rules are the same. -/

/-- A history has one result. -/
theorem ThresholdSettings.Layered.unique {start a b : ThresholdSettings}
    {given : List ThresholdSettings} (ha : start.Layered given a) (hb : start.Layered given b) :
    a = b := by
  cases a
  cases b
  rw [mk.injEq]
  exact ⟨ha.warning.unique hb.warning, ha.critical.unique hb.critical⟩

theorem PairingSettings.Layered.unique {start a b : PairingSettings} {given : List PairingSettings}
    (ha : start.Layered given a) (hb : start.Layered given b) : a = b := by
  cases a
  cases b
  rw [mk.injEq]
  exact ⟨ha.sharedAttribute.unique hb.sharedAttribute, ha.sharedSeparator.unique hb.sharedSeparator,
    ha.hostAttribute.unique hb.hostAttribute, ha.hostSeparator.unique hb.hostSeparator,
    ha.datastoreAttribute.unique hb.datastoreAttribute,
    ha.datastoreSeparator.unique hb.datastoreSeparator, ha.ignoreMissing.unique hb.ignoreMissing⟩

theorem VersionSettings.Layered.unique {start a b : VersionSettings} {given : List VersionSettings}
    (ha : start.Layered given a) (hb : start.Layered given b) : a = b := by
  cases a
  cases b
  rw [mk.injEq]
  exact ⟨ha.homogeneous.unique hb.homogeneous, ha.outdatedByWarning.unique hb.outdatedByWarning,
    ha.outdatedByCritical.unique hb.outdatedByCritical,
    ha.minimumRequired.unique hb.minimumRequired, ha.defaultIsMinimum.unique hb.defaultIsMinimum⟩

theorem Axis.Layered.unique {α : Type} [Ord α] [TransOrd α] [LawfulEqOrd α] {start a b : Axis α}
    {given : List (Axis α)} (ha : start.Layered given a) (hb : start.Layered given b) : a = b := by
  cases a
  cases b
  rw [mk.injEq]
  exact ⟨ha.included.unique hb.included, ha.excluded.unique hb.excluded⟩

theorem Criteria.Layered.unique {start a b : Criteria} {given : List Criteria}
    (ha : start.Layered given a) (hb : start.Layered given b) : a = b := by
  cases a
  cases b
  rw [mk.injEq]
  exact ⟨ha.pools.unique hb.pools, ha.ignoredMachines.unique hb.ignoredMachines,
    ha.ignoredDatastores.unique hb.ignoredDatastores, ha.poweredOff.unique hb.poweredOff,
    ha.entityTypes.unique hb.entityTypes, ha.acknowledged.unique hb.acknowledged,
    ha.alarmNames.unique hb.alarmNames, ha.statuses.unique hb.statuses⟩

/-! ## The same part again -/

theorem union_union_self {α : Type} [Ord α] [TransOrd α] [LawfulEqOrd α] (a b : ExtTreeSet α) :
    a ∪ b ∪ b = a ∪ b :=
  ExtTreeSet.ext_mem fun x => by simp [ExtTreeSet.mem_union_iff]

theorem Axis.union_union_self {α : Type} [Ord α] [TransOrd α] [LawfulEqOrd α] (a b : Axis α) :
    (a.union b).union b = a.union b := by
  unfold union
  rw [InventoryProbe.union_union_self, InventoryProbe.union_union_self]

theorem Criteria.union_union_self (a b : Criteria) : (a.union b).union b = a.union b := by
  unfold union
  simp only [Axis.union_union_self, InventoryProbe.union_union_self, Bool.or_assoc, Bool.or_self]

theorem orElse_orElse_self {α : Type} (a b : Option α) : (a <|> a <|> b) = (a <|> b) := by
  cases a <;> rfl

/-- Boundaries that are given once more change nothing. -/
theorem ThresholdSettings.above_above_self (t base : ThresholdSettings) :
    t.above (t.above base) = t.above base := by
  unfold above
  simp only [orElse_orElse_self]

theorem PairingSettings.above_above_self (p base : PairingSettings) :
    p.above (p.above base) = p.above base := by
  unfold above
  simp only [orElse_orElse_self, ← Bool.or_assoc, Bool.or_self]

theorem VersionSettings.above_above_self (v base : VersionSettings) :
    v.above (v.above base) = v.above base := by
  unfold above
  simp only [orElse_orElse_self, ← Bool.or_assoc, Bool.or_self]

end InventoryProbe
