import Mathlib.Logic.Relation
import InventoryProbe.Proofs.Selection
import InventoryProbe.Proofs.Settings.Validity

/-!
# Narrowing criteria

Criteria are narrowed step by step: values are excluded, included ones are dropped or asked for in
the first place, objects are ignored by name, and what was looked at on request no longer is.

* **`Axis.Narrows`**, **`Criteria.Narrows`**: one step.
* **`keepsLess_of_narrows`**: a step to criteria that are not refused keeps nothing that was not kept
  before it.
* **`keepsLess_of_narrowing`**: nor does any number of them, for if the last criteria are not refused,
  none on the way to them are.

Dropping the last included value is no step: an axis without included values is not restricted by
them, and keeps more. Nor does it narrow criteria to include pools beside excluded ones: the included
pools then decide alone, and those that were excluded come back. This is why contradictions are kept out.
-/

namespace InventoryProbe

open Std (ExtTreeSet TransOrd)

/-! ## Axes -/

namespace Axis

variable {α : Type} [Ord α] [TransOrd α]

/-- A step that narrows an axis. -/
inductive Narrows : Axis α → Axis α → Prop where
  | exclude (axis : Axis α) (values : ExtTreeSet α) :
    Narrows axis { axis with excluded := axis.excluded ∪ values }
  | drop (axis : Axis α) (values : ExtTreeSet α) (left : axis.included \ values ≠ ∅) :
    Narrows axis { axis with included := axis.included \ values }
  | fill (axis : Axis α) (values : ExtTreeSet α) (unrestricted : axis.included = ∅) :
    Narrows axis { axis with included := values }

/-- Adding values leaves a set that has some with some. -/
theorem union_ne_empty {given : ExtTreeSet α} (h : given ≠ ∅) (values : ExtTreeSet α) :
    given ∪ values ≠ ∅ := by
  rw [ne_eq, ← ExtTreeSet.isEmpty_iff] at h ⊢
  rw [ExtTreeSet.isEmpty_union, Bool.and_eq_true]
  exact fun hempty => h hempty.1

/-- No step takes the last included or the last excluded value away, so that an axis which contradicts
itself goes on doing so. -/
theorem Narrows.contradictory {wide narrow : Axis α} (h : wide.Narrows narrow)
    (hwide : wide.included ≠ ∅ ∧ wide.excluded ≠ ∅) :
    narrow.included ≠ ∅ ∧ narrow.excluded ≠ ∅ := by
  obtain ⟨hin, hout⟩ := hwide
  cases h with
  | exclude values => exact ⟨hin, union_ne_empty hout values⟩
  | drop values hleft => exact ⟨hleft, hout⟩
  | fill values hfree => exact absurd hfree hin

/-- That what matches some values also matches more of them. -/
def Upward (isMatch : ExtTreeSet α → Bool) : Prop :=
  ∀ {fewer more : ExtTreeSet α}, (∀ x ∈ fewer, x ∈ more) → isMatch fewer → isMatch more

/-- The two conditions that an axis puts on an object. -/
theorem keeps_iff {axis : Axis α} {isMatch : ExtTreeSet α → Bool} :
    axis.keeps isMatch ↔
      (axis.included = ∅ ∨ isMatch axis.included) ∧ ¬ isMatch axis.excluded := by
  simp [keeps]

/-- A step keeps nothing along an axis that was not kept before. -/
theorem keeps_of_narrows {wide narrow : Axis α} (h : wide.Narrows narrow)
    {isMatch : ExtTreeSet α → Bool} (hup : Upward isMatch) (hkept : narrow.keeps isMatch) :
    wide.keeps isMatch := by
  rw [keeps_iff] at hkept ⊢
  obtain ⟨hin, hout⟩ := hkept
  cases h with
  | exclude values =>
    -- What matches a value excluded before matches one that is excluded now.
    refine ⟨hin, fun hmatch => hout (hup (fun x hx => ?_) hmatch)⟩
    exact ExtTreeSet.mem_union_of_left hx
  | drop values hleft =>
    -- Something is left, so the axis still asks for a match.
    have hmatch := hin.resolve_left hleft
    refine ⟨.inr ?_, hout⟩
    exact hup (fun x hx => (ExtTreeSet.mem_diff_iff.1 hx).1) hmatch
  | fill values hfree => exact ⟨.inl hfree, hout⟩

end Axis

/-! ## What objects match -/

/-- A value that is among some values is among more of them. -/
theorem upward_contains {α : Type} [Ord α] [TransOrd α] (value : α) :
    Axis.Upward fun values : ExtTreeSet α => values.contains value := by
  intro fewer more hsub hmatch
  exact ExtTreeSet.mem_iff_contains.1 (hsub value (ExtTreeSet.mem_iff_contains.2 hmatch))

namespace Criteria

/-- So is the name of a pool, and what is in no pool never matches. -/
theorem upward_pool (pool : Option String) :
    Axis.Upward fun names : ExtTreeSet String => pool.any names.contains := by
  intro fewer more hsub hmatch
  cases pool with
  | none => exact hmatch
  | some name => exact upward_contains name hsub hmatch

/-- A name that has one of some patterns in it has one of more patterns in it. -/
theorem upward_matchesAny (text : String) : Axis.Upward (matchesAny text) := by
  intro fewer more hsub hmatch
  unfold matchesAny at hmatch ⊢
  obtain ⟨pattern, hmem, hpart⟩ := List.any_eq_true.1 hmatch
  have hmore : pattern ∈ more := hsub pattern (ExtTreeSet.mem_toList.1 hmem)
  exact List.any_eq_true.2 ⟨pattern, ExtTreeSet.mem_toList.2 hmore, hpart⟩

/-- Where included and excluded pools are not given at once, pools are an axis as the others are. Of the two
orders in which the sets may be looked at, only contradictions would tell. -/
theorem keepsPool_eq_keeps {c : Criteria} (h : ¬ c.Contradicts .pools) (pool : Option String) :
    c.keepsPool pool = c.pools.keeps fun names => pool.any names.contains := by
  unfold keepsPool Axis.keeps
  by_cases hin : c.pools.included = ∅
  · by_cases hout : c.pools.excluded = ∅
    · cases pool <;> simp [hin, hout]
    · cases pool <;> simp [hin, hout]
  · -- Where pools are included, none may be excluded.
    have hout : c.pools.excluded = ∅ := by
      by_contra hout
      exact h ⟨hin, hout⟩
    cases pool <;> simp [hin, hout]

/-! ## Criteria -/

/-- A step that narrows criteria. -/
inductive Narrows : Criteria → Criteria → Prop where
  | pools (c : Criteria) {axis : Axis String} (h : c.pools.Narrows axis) :
    Narrows c { c with pools := axis }
  | ignoreMachines (c : Criteria) (names : ExtTreeSet String) :
    Narrows c { c with ignoredMachines := c.ignoredMachines ∪ names }
  | ignoreDatastores (c : Criteria) (names : ExtTreeSet String) :
    Narrows c { c with ignoredDatastores := c.ignoredDatastores ∪ names }
  | clearPoweredOff (c : Criteria) : Narrows c { c with poweredOff := false }
  | entityTypes (c : Criteria) {axis : Axis EntityType} (h : c.entityTypes.Narrows axis) :
    Narrows c { c with entityTypes := axis }
  | clearAcknowledged (c : Criteria) : Narrows c { c with acknowledged := false }
  | alarmNames (c : Criteria) {axis : Axis String} (h : c.alarmNames.Narrows axis) :
    Narrows c { c with alarmNames := axis }
  | statuses (c : Criteria) {axis : Axis AlarmStatus} (h : c.statuses.Narrows axis) :
    Narrows c { c with statuses := axis }

/-- Pools that are included and excluded at once stay so in narrower criteria. -/
theorem Narrows.contradicts_pools {wide narrow : Criteria} (h : wide.Narrows narrow)
    (hwide : wide.Contradicts .pools) : narrow.Contradicts .pools := by
  cases h with
  | pools haxis => exact haxis.contradictory hwide
  | ignoreMachines | ignoreDatastores | clearPoweredOff | entityTypes | clearAcknowledged | alarmNames
  | statuses => exact hwide

/-- A name that is not ignored was not ignored when fewer were. -/
theorem not_contains_of_union {ignored names : ExtTreeSet String} {name : String}
    (h : !(ignored ∪ names).contains name) : !ignored.contains name := by
  simp only [ExtTreeSet.contains_union, Bool.not_or, Bool.and_eq_true] at h
  exact h.1

/-- The four conditions on a machine. -/
theorem keepsMachine_iff {c : Criteria} {pools : Std.ExtTreeMap String ResourcePool}
    {m : VirtualMachine} :
    c.keepsMachine pools m ↔ !m.isTemplate ∧
      c.keepsPool ((m.resourcePool.bind (pools[·]?)).map ResourcePool.name) ∧
      !c.ignoredMachines.contains m.name ∧ (c.poweredOff || !m.isPoweredOff) := by
  unfold keepsMachine
  simp only [Bool.and_eq_true, and_assoc]

/-- The four conditions on an alarm. -/
theorem keepsAlarm_iff {c : Criteria} {alarm : Alarm} :
    c.keepsAlarm alarm ↔ c.entityTypes.keeps (·.contains alarm.source.entityType) ∧
      (c.acknowledged || !alarm.acknowledged) ∧
      c.alarmNames.keeps (matchesAny alarm.name) ∧ c.statuses.keeps (·.contains alarm.status) := by
  unfold keepsAlarm
  simp only [Bool.and_eq_true, and_assoc]

/-- A step keeps nothing that was not kept before it: it sharpens one of the conditions on objects of
one kind, and leaves the other kinds alone. -/
theorem keepsLess_of_narrows {wide narrow : Criteria} (h : wide.Narrows narrow)
    (hpools : ¬ narrow.Contradicts .pools) : narrow.KeepsLess wide := by
  have hpools' : ¬ wide.Contradicts .pools := mt h.contradicts_pools hpools
  cases h with
  | pools axis =>
    refine ⟨fun pools m hm => ?_, fun _ hd => hd, fun _ ha => ha⟩
    obtain ⟨htemplate, hpool, hname, hpower⟩ := keepsMachine_iff.1 hm
    rw [keepsPool_eq_keeps hpools] at hpool
    have hwide := Axis.keeps_of_narrows axis (upward_pool _) hpool
    rw [← keepsPool_eq_keeps hpools'] at hwide
    exact keepsMachine_iff.2 ⟨htemplate, hwide, hname, hpower⟩
  | ignoreMachines names =>
    refine ⟨fun pools m hm => ?_, fun _ hd => hd, fun _ ha => ha⟩
    obtain ⟨htemplate, hpool, hname, hpower⟩ := keepsMachine_iff.1 hm
    exact keepsMachine_iff.2 ⟨htemplate, hpool, not_contains_of_union hname, hpower⟩
  | ignoreDatastores names =>
    exact ⟨fun _ _ hm => hm, fun _ hd => not_contains_of_union hd, fun _ ha => ha⟩
  | clearPoweredOff =>
    refine ⟨fun pools m hm => ?_, fun _ hd => hd, fun _ ha => ha⟩
    obtain ⟨htemplate, hpool, hname, hpower⟩ := keepsMachine_iff.1 hm
    -- Only machines that are switched on are left, and these are kept either way.
    have hrunning : !m.isPoweredOff := by simpa using hpower
    exact keepsMachine_iff.2 ⟨htemplate, hpool, hname, by simp [hrunning]⟩
  | entityTypes axis =>
    refine ⟨fun _ _ hm => hm, fun _ hd => hd, fun alarm ha => ?_⟩
    obtain ⟨htype, hacknowledged, hname, hstatus⟩ := keepsAlarm_iff.1 ha
    have hwide := Axis.keeps_of_narrows axis (upward_contains _) htype
    exact keepsAlarm_iff.2 ⟨hwide, hacknowledged, hname, hstatus⟩
  | clearAcknowledged =>
    refine ⟨fun _ _ hm => hm, fun _ hd => hd, fun alarm ha => ?_⟩
    obtain ⟨htype, hacknowledged, hname, hstatus⟩ := keepsAlarm_iff.1 ha
    have hopen : !alarm.acknowledged := by simpa using hacknowledged
    exact keepsAlarm_iff.2 ⟨htype, by simp [hopen], hname, hstatus⟩
  | alarmNames axis =>
    refine ⟨fun _ _ hm => hm, fun _ hd => hd, fun alarm ha => ?_⟩
    obtain ⟨htype, hacknowledged, hname, hstatus⟩ := keepsAlarm_iff.1 ha
    have hwide := Axis.keeps_of_narrows axis (upward_matchesAny _) hname
    exact keepsAlarm_iff.2 ⟨htype, hacknowledged, hwide, hstatus⟩
  | statuses axis =>
    refine ⟨fun _ _ hm => hm, fun _ hd => hd, fun alarm ha => ?_⟩
    obtain ⟨htype, hacknowledged, hname, hstatus⟩ := keepsAlarm_iff.1 ha
    have hwide := Axis.keeps_of_narrows axis (upward_contains _) hstatus
    exact keepsAlarm_iff.2 ⟨htype, hacknowledged, hname, hwide⟩

/-- Any number of steps keeps nothing that was not kept before. Induction on the steps, of which the last
shows that those before it did not contradict themselves either. -/
theorem keepsLess_of_narrowing {wide narrow : Criteria}
    (h : Relation.ReflTransGen Narrows wide narrow) (hvalid : narrow.validate = .ok ()) :
    narrow.KeepsLess wide := by
  have hpools : ¬ narrow.Contradicts .pools :=
    contradicted_eq_nil_iff.1 (validate_eq_ok_iff.1 hvalid) .pools
  clear hvalid
  induction h with
  | refl => exact .refl wide
  | tail _ hstep ih =>
    have hbefore := ih (mt hstep.contradicts_pools hpools)
    exact (keepsLess_of_narrows hstep hpools).trans hbefore

end Criteria

end InventoryProbe
