import InventoryProbe.Proofs.Binary64
import InventoryProbe.Proofs.Check.Built
import InventoryProbe.Proofs.Check.Options
import InventoryProbe.Proofs.Judgement

/-!
# Checks that measure

Seven of the checks compare a metric with two boundaries, which settings may move. What they do without a
metric, as with a host in maintenance or a machine without snapshots, does not hang on the boundaries.

* **`CheckName.metered?`**: the check that a name stands for, at any two boundaries.
* **`Metered`**: how such a check judges: each object on its own, and no worse at higher boundaries.
* **`exists_evaluate_eases_of_raised`**: at higher boundaries it judges the same objects in the same order,
  on the same observations, and none of them worse.
-/

namespace InventoryProbe

/-! ## Verdicts at raised boundaries -/

/-- Raised boundaries ease the verdict on a metric. -/
theorem Verdict.eases_ofMetric {t raised : Thresholds Binary64} (h : t.RaisedTo raised)
    (label : String) (metric : Binary64) (observed : Observation) :
    (Verdict.ofMetric raised label metric observed).Eases
      (Verdict.ofMetric t label metric observed) :=
  ⟨rfl, h.classify_le metric⟩

namespace Check

variable {t raised : Thresholds Binary64}

theorem judgeUsage_eases (h : t.RaisedTo raised) (label : String) (used capacity : Host → UInt64)
    (host : Host) :
    (judgeUsage raised label used capacity host).Eases (judgeUsage t label used capacity host) := by
  unfold judgeUsage
  -- Nothing is measured in maintenance or without a capacity.
  split
  · exact .refl _
  · split
    · exact .refl _
    · exact Verdict.eases_ofMetric h label _ _

theorem judgeDatastore_eases (h : t.RaisedTo raised) (d : Datastore) :
    (judgeDatastore raised d).Eases (judgeDatastore t d) := by
  unfold judgeDatastore
  -- Nothing is measured out of reach or without a capacity.
  split
  · exact .refl _
  · split
    · exact Verdict.eases_ofMetric h "usage" _ _
    · exact .refl _

theorem judgeUptime_eases (h : t.RaisedTo raised) (m : VirtualMachine) :
    (judgeUptime raised m).Eases (judgeUptime t m) := by
  unfold judgeUptime
  split
  · exact Verdict.eases_ofMetric h "uptime" _ _
  · exact .refl _

theorem judgeAge_eases (h : t.RaisedTo raised) (collectedAt : Timestamp) (m : VirtualMachine) :
    (judgeAge raised collectedAt m).Eases (judgeAge t collectedAt m) := by
  unfold judgeAge
  split
  · exact .refl _
  · exact Verdict.eases_ofMetric h _ _ _

theorem judgeCount_eases (h : t.RaisedTo raised) (m : VirtualMachine) :
    (judgeCount raised m).Eases (judgeCount t m) :=
  Verdict.eases_ofMetric h "snapshot count" _ _

theorem judgeSize_eases (h : t.RaisedTo raised) (m : VirtualMachine) :
    (judgeSize raised m).Eases (judgeSize t m) :=
  Verdict.eases_ofMetric h "snapshot size" _ _

end Check

/-! ## The checks -/

/-- The check that a name stands for, at any two boundaries, if it measures at all. -/
def CheckName.metered? : CheckName → Option (Thresholds Binary64 → Check)
  | .datastoreUsage => some Check.datastoreUsage
  | .hostCpu => some Check.hostCpu
  | .hostMemory => some Check.hostMemory
  | .snapshotAge => some Check.snapshotAge
  | .snapshotCount => some Check.snapshotCount
  | .snapshotSize => some Check.snapshotSize
  | .uptime => some Check.uptime
  | .alarms | .diskConsolidation | .hardwareVersion | .pairings | .tools => none

namespace Check

/-- That a check lists objects whatever the boundaries are, and judges each on its own, no worse at higher
boundaries. -/
inductive Metered (n : CheckName) : (Thresholds Binary64 → Check) → Prop where
  | each {check : Thresholds Binary64 → Check} {α : Type} {objects : Selection → List α}
    {ref : α → ObjectRef} {judge : Thresholds Binary64 → Selection → α → Verdict}
    (judges : ∀ t, (check t).JudgesEach n objects ref (judge t)) (lists : Lists objects ref)
    (standalone : ∀ t, Standalone (judge t))
    (eases : ∀ {t raised : Thresholds Binary64}, t.RaisedTo raised →
      ∀ s object, (judge raised s object).Eases (judge t s object))
    (name_ne : n ≠ .hardwareVersion) : Metered n check

/-- Each of the seven checks measures objects of one kind. -/
theorem metered_of_metered? {n : CheckName} {check : Thresholds Binary64 → Check}
    (h : n.metered? = some check) : Metered n check := by
  cases n with
  | datastoreUsage =>
    cases h
    exact .each judgesEach_datastoreUsage lists_datastores standalone_judgeDatastore
      (fun h _ => judgeDatastore_eases h) (by decide)
  | hostCpu =>
    cases h
    exact .each judgesEach_hostCpu lists_hosts (fun t => standalone_judgeUsage t "cpu" _ _)
      (fun h _ => judgeUsage_eases h "cpu" _ _) (by decide)
  | hostMemory =>
    cases h
    exact .each judgesEach_hostMemory lists_hosts (fun t => standalone_judgeUsage t "memory" _ _)
      (fun h _ => judgeUsage_eases h "memory" _ _) (by decide)
  | snapshotAge =>
    cases h
    exact .each judgesEach_snapshotAge lists_machines standalone_judgeAge
      (fun h _ => judgeAge_eases h _) (by decide)
  | snapshotCount =>
    cases h
    exact .each judgesEach_snapshotCount lists_machines standalone_judgeCount
      (fun h _ => judgeCount_eases h) (by decide)
  | snapshotSize =>
    cases h
    exact .each judgesEach_snapshotSize lists_machines standalone_judgeSize
      (fun h _ => judgeSize_eases h) (by decide)
  | uptime =>
    cases h
    exact .each judgesEach_uptime lists_running standalone_judgeUptime
      (fun h _ => judgeUptime_eases h) (by decide)
  | alarms | diskConsolidation | hardwareVersion | pairings | tools => cases h

namespace Metered

variable {n : CheckName} {check : Thresholds Binary64 → Check}

/-- A check that measures is built from settings with any boundaries. -/
theorem built (h : Metered n check) (s : Settings) (t : Thresholds Binary64) :
    Built s n (check t) := by
  cases h with
  | each judges lists standalone _ hname => exact .each (judges t) lists (standalone t) hname

/-- A check that measures never fails. -/
theorem exists_evaluate (h : Metered n check) (t : Thresholds Binary64) (s : Selection) :
    ∃ judgements, (check t).evaluate s = .ok judgements := by
  cases h with
  | each judges => exact ⟨_, (judges t).evaluate_eq s⟩

/-- At higher boundaries the same objects are judged in the same order, on the same observations, and none of
them worse. -/
theorem exists_evaluate_eases_of_raised (h : Metered n check) (hraised : t.RaisedTo raised)
    (s : Selection) :
    (check raised).scope s = (check t).scope s ∧
      ∃ milder worse, (check raised).evaluate s = .ok milder ∧
        (check t).evaluate s = .ok worse ∧ List.Forall₂ Judgement.Eases milder worse := by
  cases h with
  | each judges _ _ eases =>
    refine ⟨?_, _, _, (judges raised).evaluate_eq s, (judges t).evaluate_eq s, ?_⟩
    · -- The scope is the list of objects, in which no boundary has a part.
      rw [(judges raised).scope_eq, (judges t).scope_eq]
    · rw [List.forall₂_map_left_iff, List.forall₂_map_right_iff, List.forall₂_same]
      exact fun object _ => ⟨rfl, eases hraised s object⟩

end Metered

end Check

/-- From settings a check that measures is built at the boundaries that they give it. -/
theorem CheckName.build_eq_ok_iff_of_metered {n : CheckName} {check : Thresholds Binary64 → Check}
    (h : n.metered? = some check) {s : Settings} {built : Check} :
    n.build s = .ok built ↔
      ∃ defaults t, n.options = .thresholds defaults ∧
        (s.thresholdsFor n.text).resolve defaults = .ok t ∧ check t = built := by
  cases n with
  -- All seven are built alike.
  | datastoreUsage | hostCpu | hostMemory | snapshotAge | snapshotCount | snapshotSize | uptime =>
    cases h
    unfold build
    rw [map_eq_ok_iff]
    constructor
    · rintro ⟨t, ht, hbuilt⟩
      exact ⟨_, t, rfl, ht, hbuilt⟩
    · rintro ⟨_, t, hdefaults, ht, hbuilt⟩
      rw [← CheckOptions.thresholds.inj hdefaults] at ht
      exact ⟨t, ht, hbuilt⟩
  | alarms | diskConsolidation | hardwareVersion | pairings | tools => cases h

end InventoryProbe
