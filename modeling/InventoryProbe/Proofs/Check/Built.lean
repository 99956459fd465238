import InventoryProbe.Check.Build
import InventoryProbe.Proofs.Failure
import InventoryProbe.Proofs.Inventory.Identity
import InventoryProbe.Proofs.Selection.Pruned
import InventoryProbe.Proofs.Selection.Rearranged
import InventoryProbe.Proofs.Thresholds

/-!
# The checks that are built

A check that is built from settings is of one of three shapes, and whatever holds of all checks is
shown of these three instead of the twelve names.

* **`JudgesEach`**: a check whose scope and whose judgements are each made from a list of objects. Ten of
  the checks are such, every one of them from one list.
* **`Lists`**: which objects a check lists, as far as this is the same for all that list them: they
  are of the inventory, fewer when fewer are kept, and in another order when that is another one.
* **`Standalone`**: a verdict that rests on the object and the time of the inventory alone, and is
  never `unknown`.
* **`Built`**: the three shapes. Ten checks judge each object on its own; the versions of machines and
  the pairings are judged with an eye on other objects.
-/

namespace InventoryProbe

/-! ## Verdicts that say something -/

/-- A metric is always classified, also one that is no number. -/
theorem Verdict.severity_ofMetric_ne_unknown (t : Thresholds Binary64) (label : String)
    (metric : Binary64) (observed : Observation) :
    (Verdict.ofMetric t label metric observed).severity ≠ .unknown :=
  t.classify_ne_unknown .higher metric

/-- Every status stands for a severity. -/
theorem AlarmStatus.severity_ne_unknown (status : AlarmStatus) : status.severity ≠ .unknown := by
  cases status <;> decide

namespace Check

/-- That the verdict on an object rests on the object and the time of the inventory alone, whatever
else is kept, and that there always is one. -/
structure Standalone {α : Type} (judge : Selection → α → Verdict) : Prop where
  frame : ∀ {a b : Selection}, a.inventory.collectedAt = b.inventory.collectedAt → judge a = judge b
  conclusive : ∀ s object, (judge s object).severity ≠ .unknown

/-- A verdict that looks at the object alone. -/
theorem Standalone.of_object {α : Type} {judge : α → Verdict}
    (h : ∀ object, (judge object).severity ≠ .unknown) : Standalone fun _ => judge where
  frame _ := rfl
  conclusive _ := h

/-! The verdicts of the ten checks are all such. Only the age of snapshots looks at the time. -/

/-- The usage of a host is judged by the host alone. -/
theorem standalone_judgeUsage (t : Thresholds Binary64) (label : String)
    (used capacity : Host → UInt64) : Standalone fun _ => judgeUsage t label used capacity := by
  refine .of_object fun host => ?_
  unfold judgeUsage
  split
  · exact nofun
  · split
    · exact nofun
    · exact Verdict.severity_ofMetric_ne_unknown t label _ _

/-- A datastore is judged by itself. -/
theorem standalone_judgeDatastore (t : Thresholds Binary64) :
    Standalone fun _ => judgeDatastore t := by
  refine .of_object fun d => ?_
  unfold judgeDatastore
  split
  · exact nofun
  · split
    · exact Verdict.severity_ofMetric_ne_unknown t "usage" _ _
    · exact nofun

theorem standalone_judgeUptime (t : Thresholds Binary64) : Standalone fun _ => judgeUptime t := by
  refine .of_object fun m => ?_
  unfold judgeUptime
  split
  · exact Verdict.severity_ofMetric_ne_unknown t "uptime" _ _
  · exact nofun

theorem standalone_judgeTools : Standalone fun _ => judgeTools := by
  refine .of_object fun m => ?_
  unfold judgeTools
  split
  · exact nofun
  · split <;> exact nofun

theorem standalone_judgeDisks : Standalone fun _ => judgeDisks := by
  refine .of_object fun m => ?_
  unfold judgeDisks
  split <;> exact nofun

/-- The age of its snapshots depends on when the inventory was collected, and on nothing else beside them. -/
theorem standalone_judgeAge (t : Thresholds Binary64) :
    Standalone fun s => judgeAge t s.inventory.collectedAt where
  frame h := by rw [h]
  conclusive s m := by
    -- Without snapshots a machine is well.
    unfold judgeAge
    split
    · exact nofun
    · exact Verdict.severity_ofMetric_ne_unknown t _ _ _

theorem standalone_judgeCount (t : Thresholds Binary64) : Standalone fun _ => judgeCount t :=
  .of_object fun _ => Verdict.severity_ofMetric_ne_unknown t "snapshot count" _ _

theorem standalone_judgeSize (t : Thresholds Binary64) : Standalone fun _ => judgeSize t :=
  .of_object fun _ => Verdict.severity_ofMetric_ne_unknown t "snapshot size" _ _

theorem standalone_judgeAlarm : Standalone fun _ => judgeAlarm :=
  .of_object fun alarm => alarm.status.severity_ne_unknown

/-! ## Objects that are listed -/

/-- That a check lists objects of the inventory, in its order, and no more of them when fewer are
kept; and that it sees which from the kept objects. -/
structure Lists {α : Type} (objects : Selection → List α) (ref : α → ObjectRef) : Prop where
  sublist : ∀ (c : Criteria) (inventory : Inventory),
    ((objects (c.select inventory)).map ref).Sublist inventory.objects
  mono : ∀ {a b : Selection}, a.Within b → (objects a).Sublist (objects b)
  perm : ∀ {a b : Selection}, a.Rearranged b → (objects a).Perm (objects b)
  seen : ∀ s, objects s.seen = objects s

/-- Hosts are objects of the inventory, and none is left out. -/
theorem lists_hosts : Lists (·.hosts) Host.ref where
  sublist c inventory := by
    rw [inventory.objects_eq]
    simp only [List.append_assoc]
    exact List.sublist_append_left _ _
  mono h := by rw [h.hosts_eq]
  perm h := h.hosts_perm
  seen _ := rfl

theorem lists_datastores : Lists (·.datastores) Datastore.ref where
  sublist c inventory := by
    -- Objects are listed kind by kind, and datastores behind the hosts.
    have hkept := (Selection.datastores_select_sublist c inventory).map Datastore.ref
    rw [inventory.objects_eq]
    simp only [List.append_assoc]
    exact (hkept.trans (List.sublist_append_left _ _)).trans (List.sublist_append_right _ _)
  mono h := h.datastores_sublist
  perm h := h.datastores_perm
  seen _ := rfl

/-- Machines of an inventory are among its objects. -/
theorem machines_sublist_objects {machines : List VirtualMachine} {inventory : Inventory}
    (h : machines.Sublist inventory.virtualMachines) :
    (machines.map (·.ref)).Sublist inventory.objects := by
  rw [inventory.objects_eq]
  simp only [List.append_assoc]
  -- Hosts and datastores stand in front of the machines, the other kinds behind them.
  refine .trans ?_ (List.sublist_append_right _ _)
  refine .trans ?_ (List.sublist_append_right _ _)
  exact (h.map _).trans (List.sublist_append_left _ _)

/-- Machines that are kept are objects of the inventory. -/
theorem lists_machines : Lists (·.virtualMachines) VirtualMachine.ref where
  sublist c inventory :=
    machines_sublist_objects (Selection.virtualMachines_select_sublist c inventory)
  mono h := h.machines_sublist
  perm h := h.machines_perm
  seen _ := rfl

theorem lists_running :
    Lists (·.virtualMachines.filter (·.powerState = .poweredOn)) VirtualMachine.ref where
  sublist c inventory := by
    have hkept := Selection.virtualMachines_select_sublist c inventory
    exact machines_sublist_objects (List.filter_sublist.trans hkept)
  mono h := h.machines_sublist.filter _
  perm h := h.machines_perm.filter _
  seen _ := rfl

theorem lists_alarms : Lists (·.alarms) Alarm.ref where
  sublist c inventory := by
    have hkept := (Selection.alarms_select_sublist c inventory).map Alarm.ref
    rw [inventory.objects_eq]
    exact hkept.trans (List.sublist_append_right _ _)
  mono h := h.alarms_sublist
  perm h := h.alarms_perm
  seen _ := rfl

/-! ## Lists that are judged

The scope of a check and its judgements are computed apart from one another. That they are of the same
objects is what a run is closed by, and so has to be shown of every check. -/

/-- That a check has a list of objects as its scope, and gives each object of the list a judgement. -/
structure JudgesEach {α : Type} (check : Check) (n : CheckName) (objects : Selection → List α)
    (ref : α → ObjectRef) (judge : Selection → α → Verdict) : Prop where
  name_eq : check.name = n.text
  scope_eq : ∀ s, check.scope s = (objects s).map ref
  evaluate_eq : ∀ s, check.evaluate s = .ok ((objects s).map fun a => ⟨judge s a, ref a⟩)

namespace JudgesEach

variable {α : Type} {check : Check} {n : CheckName} {objects : Selection → List α}
  {ref : α → ObjectRef} {judge : Selection → α → Verdict} {s : Selection}
  {judgements : List Judgement}

/-- The judgements are those of the list. -/
theorem eq_map_of_evaluate (h : check.JudgesEach n objects ref judge)
    (heval : check.evaluate s = .ok judgements) :
    judgements = (objects s).map fun a => ⟨judge s a, ref a⟩ := by
  rw [h.evaluate_eq] at heval
  exact (Except.ok.inj heval).symm

/-- The judgements are of the objects of the scope. -/
theorem objects_of_evaluate (h : check.JudgesEach n objects ref judge)
    (heval : check.evaluate s = .ok judgements) :
    judgements.map (·.object) = check.scope s := by
  rw [h.eq_map_of_evaluate heval, h.scope_eq, List.map_map]
  rfl

end JudgesEach

theorem judgesEach_alarms : alarms.JudgesEach .alarms (·.alarms) Alarm.ref fun _ => judgeAlarm :=
  ⟨rfl, fun _ => rfl, fun _ => rfl⟩

/-- Each datastore that is kept is judged by its usage. -/
theorem judgesEach_datastoreUsage (t : Thresholds Binary64) :
    (datastoreUsage t).JudgesEach .datastoreUsage (·.datastores) Datastore.ref
      fun _ => judgeDatastore t :=
  ⟨rfl, fun _ => rfl, fun _ => rfl⟩

/-- Each machine is judged by its disks. -/
theorem judgesEach_diskConsolidation :
    diskConsolidation.JudgesEach .diskConsolidation (·.virtualMachines) VirtualMachine.ref
      fun _ => judgeDisks :=
  ⟨rfl, fun _ => rfl, fun _ => rfl⟩

/-- Each host is judged by its processor. -/
theorem judgesEach_hostCpu (t : Thresholds Binary64) :
    (hostCpu t).JudgesEach .hostCpu (·.hosts) Host.ref
      fun _ => judgeUsage t "cpu" (·.cpuUsage) (·.cpuCapacity) :=
  ⟨rfl, fun _ => rfl, fun _ => rfl⟩

/-- Each host is judged by its memory. -/
theorem judgesEach_hostMemory (t : Thresholds Binary64) :
    (hostMemory t).JudgesEach .hostMemory (·.hosts) Host.ref
      fun _ => judgeUsage t "memory" (·.memoryUsage) (·.memoryCapacity) :=
  ⟨rfl, fun _ => rfl, fun _ => rfl⟩

/-- Each machine is judged by its oldest snapshot. -/
theorem judgesEach_snapshotAge (t : Thresholds Binary64) :
    (snapshotAge t).JudgesEach .snapshotAge (·.virtualMachines) VirtualMachine.ref
      fun s => judgeAge t s.inventory.collectedAt :=
  ⟨rfl, fun _ => rfl, fun _ => rfl⟩

/-- Each machine is judged by the number of its snapshots. -/
theorem judgesEach_snapshotCount (t : Thresholds Binary64) :
    (snapshotCount t).JudgesEach .snapshotCount (·.virtualMachines) VirtualMachine.ref
      fun _ => judgeCount t :=
  ⟨rfl, fun _ => rfl, fun _ => rfl⟩

/-- Each machine is judged by the space that its snapshots take. -/
theorem judgesEach_snapshotSize (t : Thresholds Binary64) :
    (snapshotSize t).JudgesEach .snapshotSize (·.virtualMachines) VirtualMachine.ref
      fun _ => judgeSize t :=
  ⟨rfl, fun _ => rfl, fun _ => rfl⟩

theorem judgesEach_tools :
    tools.JudgesEach .tools (·.virtualMachines) VirtualMachine.ref fun _ => judgeTools :=
  ⟨rfl, fun _ => rfl, fun _ => rfl⟩

/-- Machines that are not running are neither in the scope nor judged. -/
theorem judgesEach_uptime (t : Thresholds Binary64) :
    (uptime t).JudgesEach .uptime (·.virtualMachines.filter (·.powerState = .poweredOn))
      VirtualMachine.ref fun _ => judgeUptime t :=
  ⟨rfl, fun _ => rfl, fun _ => rfl⟩

/-! ## The three shapes -/

/-- The checks that are built from settings. -/
inductive Built (s : Settings) : CheckName → Check → Prop where
  | each {n : CheckName} {check : Check} {α : Type} {objects : Selection → List α}
    {ref : α → ObjectRef} {judge : Selection → α → Verdict}
    (judges : check.JudgesEach n objects ref judge) (lists : Lists objects ref)
    (standalone : Standalone judge) (name_ne : n ≠ .hardwareVersion) : Built s n check
  | hardwareVersion {policy : VersionPolicy}
    (selected : VersionPolicy.ofSettings s.version = .ok policy) :
    Built s .hardwareVersion (.hardwareVersion policy)
  | pairings {plan : PairingPlan} (planned : PairingPlan.ofSettings s.pairing = .ok plan) :
    Built s .pairings (.pairings plan)

end Check

/-- Whatever is built has one of the three shapes. -/
theorem CheckName.built_of_build_eq_ok {n : CheckName} {s : Settings} {check : Check}
    (h : n.build s = .ok check) : Check.Built s n check := by
  unfold build at h
  -- Ten of the twelve judge objects of one kind, each by itself.
  cases n with
  | alarms =>
    cases h
    exact .each Check.judgesEach_alarms Check.lists_alarms Check.standalone_judgeAlarm (by decide)
  | datastoreUsage =>
    obtain ⟨t, -, rfl⟩ := map_eq_ok_iff.1 h
    exact .each (Check.judgesEach_datastoreUsage t) Check.lists_datastores
      (Check.standalone_judgeDatastore t) (by decide)
  | diskConsolidation =>
    cases h
    exact .each Check.judgesEach_diskConsolidation Check.lists_machines Check.standalone_judgeDisks
      (by decide)
  | hardwareVersion =>
    obtain ⟨policy, hpolicy, rfl⟩ := map_eq_ok_iff.1 h
    exact .hardwareVersion hpolicy
  | hostCpu =>
    obtain ⟨t, -, rfl⟩ := map_eq_ok_iff.1 h
    exact .each (Check.judgesEach_hostCpu t) Check.lists_hosts
      (Check.standalone_judgeUsage t "cpu" _ _) (by decide)
  | pairings =>
    obtain ⟨plan, hplan, rfl⟩ := map_eq_ok_iff.1 h
    exact .pairings hplan
  | hostMemory =>
    obtain ⟨t, -, rfl⟩ := map_eq_ok_iff.1 h
    exact .each (Check.judgesEach_hostMemory t) Check.lists_hosts
      (Check.standalone_judgeUsage t "memory" _ _) (by decide)
  | snapshotAge =>
    obtain ⟨t, -, rfl⟩ := map_eq_ok_iff.1 h
    exact .each (Check.judgesEach_snapshotAge t) Check.lists_machines (Check.standalone_judgeAge t)
      (by decide)
  | snapshotCount =>
    obtain ⟨t, -, rfl⟩ := map_eq_ok_iff.1 h
    exact .each (Check.judgesEach_snapshotCount t) Check.lists_machines
      (Check.standalone_judgeCount t) (by decide)
  | snapshotSize =>
    obtain ⟨t, -, rfl⟩ := map_eq_ok_iff.1 h
    exact .each (Check.judgesEach_snapshotSize t) Check.lists_machines
      (Check.standalone_judgeSize t) (by decide)
  | tools =>
    cases h
    exact .each Check.judgesEach_tools Check.lists_machines Check.standalone_judgeTools (by decide)
  | uptime =>
    obtain ⟨t, -, rfl⟩ := map_eq_ok_iff.1 h
    exact .each (Check.judgesEach_uptime t) Check.lists_running (Check.standalone_judgeUptime t)
      (by decide)

end InventoryProbe
