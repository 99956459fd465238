import Mathlib.Data.List.Basic
import InventoryProbe.Proofs.Run.Pruned
import InventoryProbe.Proofs.Settings.Validity

/-!
# Values included or excluded

Along an axis on which criteria say nothing, values may be included or excluded. The two ways part
between them what was kept before: nothing is kept both times, nothing is lost, and nothing is added.

* **`Restriction`**: values for one axis, which criteria include or exclude.
* **`Splits`**: two lists that have the entries of a third between them.
* **`Parted`**: two selections that differ from a third, and from one another, along one axis only.
* **`parted_select`**: including values and excluding them part a selection.

A machine outside any pool matches no pool name, so that it is left to the side that excludes. This is
why the empty set must match nothing on each axis (`keeps_parted`): an axis without values would else
keep less than everything.
-/

namespace InventoryProbe

open Std (ExtTreeMap ExtTreeSet TransOrd)

/-! ## One axis -/

namespace Axis

variable {α : Type} [Ord α] [TransOrd α] {axis : Axis α} {isMatch : ExtTreeSet α → Bool}
  {values : ExtTreeSet α}

/-- Where nothing is included or excluded everything is kept. -/
theorem keeps_of_unrestricted (hfree : axis = .unrestricted) (hnone : isMatch ∅ = false) :
    axis.keeps isMatch := by
  subst hfree
  simp [keeps, unrestricted, hnone]

/-- Along an axis that said nothing before, what matches values is kept where they are included, and
what does not match them where they are excluded. -/
theorem keeps_parted (isMatch : ExtTreeSet α → Bool) (hnone : isMatch ∅ = false)
    (hfree : axis = .unrestricted) (hgiven : values ≠ ∅) :
    axis.keeps isMatch = true ∧
    { axis with included := values }.keeps isMatch = isMatch values ∧
    { axis with excluded := values }.keeps isMatch = !isMatch values := by
  refine ⟨keeps_of_unrestricted hfree hnone, ?_⟩
  subst hfree
  simp [keeps, unrestricted, hnone, hgiven]

/-- Values that are included where nothing was said contradict nothing. -/
theorem isContradictory_included (hfree : axis = .unrestricted) :
    { axis with included := values }.isContradictory = axis.isContradictory := by
  subst hfree
  simp [isContradictory, unrestricted]

theorem isContradictory_excluded (hfree : axis = .unrestricted) :
    { axis with excluded := values }.isContradictory = axis.isContradictory := by
  subst hfree
  simp [isContradictory, unrestricted]

end Axis

theorem Criteria.matchesAny_empty (text : String) : matchesAny text ∅ = false := by
  unfold matchesAny
  simp

/-! ## Restrictions -/

/-- Values for one axis of criteria. -/
inductive Restriction where
  | pools (names : ExtTreeSet String)
  | entityTypes (types : ExtTreeSet EntityType)
  | alarmNames (patterns : ExtTreeSet String)
  | statuses (values : ExtTreeSet AlarmStatus)

namespace Restriction

/-- The axis of the values. -/
def axis : Restriction → CriteriaAxis
  | .pools _ => .pools
  | .entityTypes _ => .entityTypes
  | .alarmNames _ => .alarmNames
  | .statuses _ => .statuses

/-- That there are any values. -/
def IsGiven : Restriction → Prop
  | .pools names => names ≠ ∅
  | .entityTypes types => types ≠ ∅
  | .alarmNames patterns => patterns ≠ ∅
  | .statuses values => values ≠ ∅

/-- Whether an alarm matches the values; it matches no pools. -/
def matchesAlarm : Restriction → Alarm → Bool
  | .pools _, _ => false
  | .entityTypes types, a => types.contains a.source.entityType
  | .alarmNames patterns, a => Criteria.matchesAny a.name patterns
  | .statuses values, a => values.contains a.status

end Restriction

namespace Criteria

variable {c : Criteria}

/-- That nothing is included or excluded along an axis. -/
def IsFree (c : Criteria) : CriteriaAxis → Prop
  | .pools => c.pools = .unrestricted
  | .entityTypes => c.entityTypes = .unrestricted
  | .alarmNames => c.alarmNames = .unrestricted
  | .statuses => c.statuses = .unrestricted

/-- The criteria with these values as the included ones of their axis. -/
def including (c : Criteria) : Restriction → Criteria
  | .pools names => { c with pools.included := names }
  | .entityTypes types => { c with entityTypes.included := types }
  | .alarmNames patterns => { c with alarmNames.included := patterns }
  | .statuses values => { c with statuses.included := values }

/-- The criteria with these values as the excluded ones of their axis. -/
def excluding (c : Criteria) : Restriction → Criteria
  | .pools names => { c with pools.excluded := names }
  | .entityTypes types => { c with entityTypes.excluded := types }
  | .alarmNames patterns => { c with alarmNames.excluded := patterns }
  | .statuses values => { c with statuses.excluded := values }

/-- Criteria pass with included values if they passed without them. -/
theorem validate_including {r : Restriction} (hfree : c.IsFree r.axis) :
    (c.including r).validate = c.validate := by
  cases r with
  | pools | entityTypes | alarmNames | statuses =>
    simp only [validate, contradictions, including, Axis.isContradictory_included hfree]

theorem validate_excluding {r : Restriction} (hfree : c.IsFree r.axis) :
    (c.excluding r).validate = c.validate := by
  cases r with
  | pools | entityTypes | alarmNames | statuses =>
    simp only [validate, contradictions, excluding, Axis.isContradictory_excluded hfree]

/-! ## What is kept

Each condition on an object is that of its axis, so that it is split where the condition is. -/

/-- Where nothing was said of pools, those with one of the names are kept on the one side and the others
on the other. -/
theorem keepsPool_parted {names : ExtTreeSet String} (hfree : c.pools = .unrestricted)
    (hgiven : names ≠ ∅) (pool : Option String) :
    c.keepsPool pool = true ∧
    (c.including (.pools names)).keepsPool pool = pool.any names.contains ∧
    (c.excluding (.pools names)).keepsPool pool = !pool.any names.contains := by
  have hin : c.pools.included = ∅ := by rw [hfree]; rfl
  have hout : c.pools.excluded = ∅ := by rw [hfree]; rfl
  unfold keepsPool including excluding
  simp only
  refine ⟨?_, ?_, ?_⟩
  · simp [hin, hout]
  · -- Included names decide alone.
    simp [hgiven]
  · -- Excluded ones count, for none are included.
    cases pool <;> simp [hin, hgiven]

/-- Machines are parted by the names of their pools. -/
theorem keepsMachine_parted {names : ExtTreeSet String} (hfree : c.pools = .unrestricted)
    (hgiven : names ≠ ∅) (pools : ExtTreeMap String ResourcePool) :
    ∃ side : VirtualMachine → Bool, ∀ m,
      (c.including (.pools names)).keepsMachine pools m = (c.keepsMachine pools m && side m) ∧
      (c.excluding (.pools names)).keepsMachine pools m = (c.keepsMachine pools m && !side m) := by
  refine ⟨fun m => ((m.resourcePool.bind (pools[·]?)).map ResourcePool.name).any names.contains,
    fun m => ?_⟩
  obtain ⟨hwhole, hin, hout⟩ :=
    keepsPool_parted hfree hgiven ((m.resourcePool.bind (pools[·]?)).map ResourcePool.name)
  -- The other conditions are the same on both sides, and only their order differs.
  simp only [keepsMachine, hwhole, hin, hout, Bool.and_true]
  simp only [including, excluding]
  exact ⟨by ac_rfl, by ac_rfl⟩

/-- Alarms are parted by whether they match. -/
theorem keepsAlarm_parted {r : Restriction} (halarms : r.axis ≠ .pools) (hfree : c.IsFree r.axis)
    (hgiven : r.IsGiven) (a : Alarm) :
    (c.including r).keepsAlarm a = (c.keepsAlarm a && r.matchesAlarm a) ∧
    (c.excluding r).keepsAlarm a = (c.keepsAlarm a && !r.matchesAlarm a) := by
  cases r with
  | pools names => exact absurd rfl halarms
  | entityTypes types =>
    obtain ⟨hwhole, hin, hout⟩ := Axis.keeps_parted (fun s => s.contains a.source.entityType)
      ExtTreeSet.contains_empty hfree hgiven
    simp only [keepsAlarm, including, excluding, Restriction.matchesAlarm, hwhole, hin, hout,
      Bool.true_and]
    exact ⟨by ac_rfl, by ac_rfl⟩
  | alarmNames patterns =>
    obtain ⟨hwhole, hin, hout⟩ := Axis.keeps_parted (matchesAny a.name)
      (matchesAny_empty a.name) hfree hgiven
    simp only [keepsAlarm, including, excluding, Restriction.matchesAlarm, hwhole, hin, hout,
      Bool.and_true]
    exact ⟨by ac_rfl, by ac_rfl⟩
  | statuses values =>
    obtain ⟨hwhole, hin, hout⟩ := Axis.keeps_parted (fun s => s.contains a.status)
      ExtTreeSet.contains_empty hfree hgiven
    -- The status is looked at last, so that nothing has to be moved.
    simp only [keepsAlarm, including, excluding, Restriction.matchesAlarm, hwhole, hin, hout,
      Bool.and_true]
    trivial

end Criteria

/-! ## Selections -/

/-- Two lists that have the entries of a third between them, each of them in its order. -/
def Splits {α : Type} (whole inside outside : List α) : Prop :=
  ∃ side : α → Bool, inside = whole.filter side ∧ outside = whole.filter fun a => !side a

/-- Two filters that share a condition split between them what meets it. -/
theorem splits_filter {α : Type} {keep keepIn keepOut : α → Bool} (side : α → Bool)
    (objects : List α) (h : ∀ a, keepIn a = (keep a && side a) ∧ keepOut a = (keep a && !side a)) :
    Splits (objects.filter keep) (objects.filter keepIn) (objects.filter keepOut) := by
  refine ⟨side, ?_, ?_⟩
  · rw [List.filter_filter]
    exact List.filter_congr fun a _ => (h a).1.trans (Bool.and_comm _ _)
  · rw [List.filter_filter]
    exact List.filter_congr fun a _ => (h a).2.trans (Bool.and_comm _ _)

/-- What was there is on exactly one of the two sides. -/
theorem Splits.mem_inside_iff {α : Type} {whole inside outside : List α}
    (h : Splits whole inside outside) {a : α} (ha : a ∈ whole) : a ∈ inside ↔ a ∉ outside := by
  obtain ⟨side, rfl, rfl⟩ := h
  simp [ha]

/-- Two selections that have the objects of a third between them, as far as values of an axis apply to
them, and are equal to it in everything else. -/
def Selection.Parted (whole inside outside : Selection) : CriteriaAxis → Prop
  | .pools =>
    Splits whole.virtualMachines inside.virtualMachines outside.virtualMachines ∧
    Splits whole.resourcePools inside.resourcePools outside.resourcePools ∧
    inside = { whole with
      virtualMachines := inside.virtualMachines, resourcePools := inside.resourcePools } ∧
    outside = { whole with
      virtualMachines := outside.virtualMachines, resourcePools := outside.resourcePools }
  | .entityTypes | .alarmNames | .statuses =>
    Splits whole.alarms inside.alarms outside.alarms ∧
    inside = { whole with alarms := inside.alarms } ∧
    outside = { whole with alarms := outside.alarms }

/-- That a machine names no pool, or one that the inventory does not have. -/
def Inventory.Unpooled (inventory : Inventory) (m : VirtualMachine) : Prop :=
  ∀ id, m.resourcePool = some id → ∀ p ∈ inventory.resourcePools, p.id ≠ id

variable {c : Criteria} {r : Restriction}

theorem parted_select (hfree : c.IsFree r.axis) (hgiven : r.IsGiven) (inventory : Inventory) :
    (c.select inventory).Parted ((c.including r).select inventory)
      ((c.excluding r).select inventory) r.axis := by
  by_cases haxis : r.axis = .pools
  · cases r with
    | pools names =>
      -- Pools part machines as well as pools.
      obtain ⟨side, hside⟩ := Criteria.keepsMachine_parted hfree hgiven
        (tableBy (·.id) inventory.resourcePools)
      refine ⟨splits_filter side _ hside, ?_, rfl, rfl⟩
      refine splits_filter (fun p => names.contains p.name) _ fun p => ?_
      obtain ⟨hwhole, hin, hout⟩ := Criteria.keepsPool_parted hfree hgiven (some p.name)
      rw [hwhole, hin, hout]
      exact ⟨rfl, rfl⟩
    | entityTypes | alarmNames | statuses => cases haxis
  · have halarms := splits_filter r.matchesAlarm inventory.alarms
      (Criteria.keepsAlarm_parted haxis hfree hgiven)
    cases r with
    | pools => exact absurd rfl haxis
    | entityTypes | alarmNames | statuses => exact ⟨halarms, rfl, rfl⟩

/-! ## Machines outside any pool -/

/-- A machine outside of any pool is not kept where pools are included. -/
theorem not_mem_including_of_unpooled {names : ExtTreeSet String} {inventory : Inventory}
    (hfree : c.pools = .unrestricted) (hgiven : names ≠ ∅) {m : VirtualMachine}
    (hunpooled : inventory.Unpooled m) :
    m ∉ ((c.including (.pools names)).select inventory).virtualMachines := by
  intro hm
  have hkept := (List.mem_filter.1 hm).2
  obtain ⟨-, hpool, -, -⟩ := Criteria.keepsMachine_iff.1 hkept
  rw [(Criteria.keepsPool_parted hfree hgiven _).2.1] at hpool
  -- A name that matches would be that of a pool which the inventory has.
  have hnone : m.resourcePool.bind ((tableBy ResourcePool.id inventory.resourcePools)[·]?) = none := by
    cases hid : m.resourcePool with
    | none => rfl
    | some id =>
      rw [Option.bind_some, ← Option.not_isSome_iff_eq_none, isSome_getElem?_tableBy]
      rintro ⟨p, hp, hkey⟩
      exact hunpooled id hid p hp hkey
  rw [hnone] at hpool
  cases hpool

/-- **Including values and excluding them are complementary.** Where criteria say nothing along an axis,
the same values can be included or excluded, if there are any. Each object that the axis is about and
that the criteria kept is then kept in one of the two ways and not in the other, in its old place; no
other object is kept, and all else is as it was both times. A machine outside any pool of the inventory
goes with those that are not excluded. -/
theorem complementary_select (c : Criteria) (r : Restriction) (hfree : c.IsFree r.axis)
    (hgiven : r.IsGiven) (inventory : Inventory) :
    ((c.including r).validate = c.validate ∧ (c.excluding r).validate = c.validate) ∧
    (c.select inventory).Parted ((c.including r).select inventory)
      ((c.excluding r).select inventory) r.axis ∧
    (r.axis = .pools → ∀ m ∈ (c.select inventory).virtualMachines, inventory.Unpooled m →
      m ∈ ((c.excluding r).select inventory).virtualMachines ∧
      m ∉ ((c.including r).select inventory).virtualMachines) := by
  have hparted := parted_select hfree hgiven inventory
  refine ⟨⟨Criteria.validate_including hfree, Criteria.validate_excluding hfree⟩, hparted, ?_⟩
  intro haxis m hm hunpooled
  cases r with
  | pools names =>
    have hout := not_mem_including_of_unpooled hfree hgiven hunpooled
    obtain ⟨hmachines, -⟩ := hparted
    refine ⟨?_, hout⟩
    -- What the one side has not is on the other.
    by_contra hlost
    exact hout ((hmachines.mem_inside_iff hm).2 hlost)
  | entityTypes | alarmNames | statuses => cases haxis

/-! ## Machines of a test pool and others

Of four machines one is in the pool, one in another, one in none, and one in a pool that is not there. -/

open PreparedRun (pooledSite plainMachine)

/-- Two machines more: one without a pool, and one in a pool that nobody knows. -/
def scatteredSite : Inventory :=
  { pooledSite with
    virtualMachines := pooledSite.virtualMachines ++
      [plainMachine "vm-3" "alone" "host-1" [],
       { plainMachine "vm-4" "lost" "host-1" [] with resourcePool := some "pool-9" }] }

/-- The machine without a pool and the one in an unknown pool are on the side that excludes. -/
theorem scatteredSite_parted :
    let r : Restriction := .pools {"test"}
    Criteria.initial.IsFree r.axis ∧ r.IsGiven ∧
    ((Criteria.initial.including r).select scatteredSite).virtualMachines.map (·.name) = ["new"] ∧
    ((Criteria.initial.excluding r).select scatteredSite).virtualMachines.map (·.name)
      = ["old", "alone", "lost"] ∧
    (Criteria.initial.select scatteredSite).Parted
      ((Criteria.initial.including r).select scatteredSite)
      ((Criteria.initial.excluding r).select scatteredSite) .pools ∧
    ∀ m ∈ (Criteria.initial.select scatteredSite).virtualMachines, scatteredSite.Unpooled m →
      m ∈ ((Criteria.initial.excluding r).select scatteredSite).virtualMachines := by
  intro r
  have hfree : Criteria.initial.IsFree r.axis := rfl
  have hgiven : r.IsGiven := by
    show ({"test"} : ExtTreeSet String) ≠ ∅
    decide
  obtain ⟨-, hparted, hunpooled⟩ := complementary_select .initial r hfree hgiven scatteredSite
  refine ⟨hfree, hgiven, by decide +kernel, by decide +kernel, hparted, ?_⟩
  -- Neither of the two is in a pool.
  intro m hm hm'
  exact (hunpooled rfl m hm hm').1

end InventoryProbe
