import InventoryProbe.Proofs.Check.Built
import InventoryProbe.Proofs.Pairing
import InventoryProbe.Proofs.VersionPolicy

/-!
# The kinds of object that a check looks at

All criteria make one selection, which every check is given whole. Each of them looks at a few kinds of
object in it, and so at what a few of the criteria keep: the others might say anything.

* **`Criteria.AgreeOn`**, **`Selection.AgreeOn`**: agreement on the objects of one kind, which criteria
  have if they say the same of it, and the selections that they make of one inventory then have as well
  (**`agreeOn_select`**).
* **`CheckName.kinds`**: the kinds that a check looks at.
* **`looksAt_of_build`**: it looks at no other, so that selections which agree on these kinds are the same
  to it.
-/

namespace InventoryProbe

/-! ## Agreement on a kind -/

/-- That two criteria say the same of the objects of a kind. Hosts are kept whatever they say. -/
def Criteria.AgreeOn (a b : Criteria) : ObjectKind → Prop
  | .host => True
  | .datastore => a.ignoredDatastores = b.ignoredDatastores
  | .virtualMachine =>
    a.pools = b.pools ∧ a.ignoredMachines = b.ignoredMachines ∧ a.poweredOff = b.poweredOff
  | .resourcePool => a.pools = b.pools
  | .alarm =>
    a.entityTypes = b.entityTypes ∧ a.alarmNames = b.alarmNames ∧ a.statuses = b.statuses ∧
      a.acknowledged = b.acknowledged

namespace Selection

/-- That two selections hold the same objects of a kind, in the same order. -/
def AgreeOn (a b : Selection) : ObjectKind → Prop
  | .host => a.hosts = b.hosts
  | .datastore => a.datastores = b.datastores ∧ ∀ id, a.hasDatastore id = b.hasDatastore id
  | .virtualMachine => a.virtualMachines = b.virtualMachines
  | .resourcePool => a.resourcePools = b.resourcePools
  | .alarm => a.alarms = b.alarms

/-- The tables of a selection are those of its inventory, whatever is kept. -/
theorem sameTables_select (a b : Criteria) (inventory : Inventory) :
    (a.select inventory).SameTables (b.select inventory) :=
  ⟨rfl, rfl, rfl, rfl, rfl, rfl⟩

/-- Criteria that say the same of a kind keep the same objects of it. -/
theorem agreeOn_select {a b : Criteria} {kind : ObjectKind} (h : a.AgreeOn b kind)
    (inventory : Inventory) : (a.select inventory).AgreeOn (b.select inventory) kind := by
  cases kind with
  | host => exact rfl
  | datastore =>
    have hignored : a.ignoredDatastores = b.ignoredDatastores := h
    have hkept : a.keepsDatastore = b.keepsDatastore := by
      funext d
      unfold Criteria.keepsDatastore
      rw [hignored]
    refine ⟨congrArg inventory.datastores.filter hkept, fun id => ?_⟩
    rw [Bool.eq_iff_iff, hasDatastore_select, hasDatastore_select, hkept]
  | virtualMachine =>
    -- Machines are kept for their pool, their name and their power state.
    obtain ⟨hpools, hignored, hpower⟩ := h
    have hkept : a.keepsMachine = b.keepsMachine := by
      funext pools m
      unfold Criteria.keepsMachine Criteria.keepsPool
      rw [hpools, hignored, hpower]
    exact congrArg (fun keep => inventory.virtualMachines.filter
      (keep (tableBy (·.id) inventory.resourcePools))) hkept
  | resourcePool =>
    have hpools : a.pools = b.pools := h
    have hkept : a.keepsPool = b.keepsPool := by
      funext pool
      unfold Criteria.keepsPool
      rw [hpools]
    exact congrArg (fun keep => inventory.resourcePools.filter fun p => keep (some p.name)) hkept
  | alarm =>
    -- Alarms are kept for what they are on, their name, their status and being acknowledged.
    obtain ⟨htypes, hnames, hstatuses, hacknowledged⟩ := h
    have hkept : a.keepsAlarm = b.keepsAlarm := by
      funext alarm
      unfold Criteria.keepsAlarm
      rw [htypes, hnames, hstatuses, hacknowledged]
    exact congrArg inventory.alarms.filter hkept

end Selection

/-! ## What checks look at -/

/-- The kinds of object that a check looks at. A pairing is judged by hosts, datastores and machines; each
other check looks at the objects of one kind. -/
def CheckName.kinds : CheckName → List ObjectKind
  | .alarms => [.alarm]
  | .datastoreUsage => [.datastore]
  | .hostCpu | .hostMemory => [.host]
  | .pairings => [.host, .datastore, .virtualMachine]
  | .diskConsolidation | .hardwareVersion | .snapshotAge | .snapshotCount | .snapshotSize | .tools
  | .uptime => [.virtualMachine]

namespace Check

/-- That a check does not tell selections apart that agree on some kinds of object. -/
def LooksAt (check : Check) (kinds : List ObjectKind) : Prop :=
  ∀ a b : Selection, a.SameTables b → (∀ kind ∈ kinds, a.AgreeOn b kind) →
    check.scope a = check.scope b ∧ check.evaluate a = check.evaluate b

/-- A check that judges each object of a list looks at the kind of object that is listed. -/
theorem JudgesEach.looksAt {check : Check} {n : CheckName} {α : Type} {objects : Selection → List α}
    {ref : α → ObjectRef} {judge : Selection → α → Verdict} {kind : ObjectKind}
    (judges : check.JudgesEach n objects ref judge)
    (hobjects : ∀ a b : Selection, a.AgreeOn b kind → objects a = objects b)
    (standalone : Standalone judge) : check.LooksAt [kind] := by
  intro a b htables hagree
  have hsame : objects a = objects b := hobjects a b (hagree kind (List.mem_singleton_self kind))
  -- Besides the objects a verdict rests on the time of the inventory, which is no kind of object.
  have hjudge : judge a = judge b := standalone.frame htables.collectedAt_eq
  constructor
  · rw [judges.scope_eq, judges.scope_eq, hsame]
  · rw [judges.evaluate_eq, judges.evaluate_eq, hsame, hjudge]

/-- Versions are compared among machines only. -/
theorem looksAt_hardwareVersion (policy : VersionPolicy) :
    (hardwareVersion policy).LooksAt [.virtualMachine] := by
  intro a b htables hagree
  have hmachines : a.virtualMachines = b.virtualMachines := hagree .virtualMachine (by simp)
  have hjudge : policy.judge a = policy.judge b := by
    funext newest m
    exact VersionPolicy.judge_of_sameTables htables newest m
  constructor
  · exact congrArg (List.map (·.ref)) hmachines
  · show policy.evaluate a = policy.evaluate b
    unfold VersionPolicy.evaluate
    rw [hmachines, hjudge]

/-- Pairing asks for hosts and datastores, and for the machines on them. -/
theorem looksAt_pairings (plan : PairingPlan) :
    (pairings plan).LooksAt [.host, .datastore, .virtualMachine] := by
  intro a b htables hagree
  have hhosts : a.hosts = b.hosts := hagree .host (by simp)
  obtain ⟨hdatastores, hkept⟩ : a.AgreeOn b .datastore := hagree .datastore (by simp)
  have hmachines : a.virtualMachines = b.virtualMachines := hagree .virtualMachine (by simp)
  have hjudges : ∀ rule, plan.judges rule a = plan.judges rule b := by
    intro rule
    funext id
    unfold PairingPlan.judges
    rw [htables.attribute?_eq]
  have hkey : ∀ rule, plan.judgeKey? rule a = plan.judgeKey? rule b := fun rule =>
    funext (PairingPlan.judgeKey?_of_sameTables htables rule)
  have hmachine : plan.judgeMachine a = plan.judgeMachine b := by
    funext hostKeys datastoreKeys m
    exact PairingPlan.judgeMachine_of_sameTables htables hkept hostKeys datastoreKeys m
  -- The same objects have the same keys in the indexes.
  have hhostKeys : plan.hostKeys a = plan.hostKeys b :=
    PairingPlan.hostKeys_eq htables (.of_eq hhosts)
  have hdatastoreKeys : plan.datastoreKeys a = plan.datastoreKeys b :=
    PairingPlan.datastoreKeys_eq htables (.of_eq hdatastores)
  constructor
  · show plan.scope a = plan.scope b
    unfold PairingPlan.scope
    simp only [hhosts, hdatastores, hmachines, hjudges]
  · show Except.ok (plan.evaluate a) = Except.ok (plan.evaluate b)
    rw [plan.evaluate_eq, plan.evaluate_eq]
    simp only [hhosts, hdatastores, hmachines, hkey, hmachine, hhostKeys, hdatastoreKeys]

/-- A check that is built looks at its kinds of object only. -/
theorem looksAt_of_build {n : CheckName} {s : Settings} {check : Check} (h : n.build s = .ok check) :
    check.LooksAt n.kinds := by
  have hhosts : ∀ a b : Selection, a.AgreeOn b .host → a.hosts = b.hosts := fun _ _ h => h
  have hdatastores : ∀ a b : Selection, a.AgreeOn b .datastore → a.datastores = b.datastores :=
    fun _ _ h => h.1
  have hmachines : ∀ a b : Selection, a.AgreeOn b .virtualMachine →
      a.virtualMachines = b.virtualMachines := fun _ _ h => h
  have hrunning : ∀ a b : Selection, a.AgreeOn b .virtualMachine →
      a.virtualMachines.filter (·.powerState = .poweredOn)
        = b.virtualMachines.filter (·.powerState = .poweredOn) :=
    fun a b h => congrArg _ (hmachines a b h)
  have halarms : ∀ a b : Selection, a.AgreeOn b .alarm → a.alarms = b.alarms := fun _ _ h => h
  -- One case for each check. All but two judge objects of one kind, each by itself.
  unfold CheckName.build at h
  cases n with
  | alarms =>
    cases h
    exact judgesEach_alarms.looksAt halarms standalone_judgeAlarm
  | datastoreUsage =>
    obtain ⟨t, -, rfl⟩ := map_eq_ok_iff.1 h
    exact (judgesEach_datastoreUsage t).looksAt hdatastores (standalone_judgeDatastore t)
  | diskConsolidation =>
    cases h
    exact judgesEach_diskConsolidation.looksAt hmachines standalone_judgeDisks
  | hardwareVersion =>
    obtain ⟨policy, -, rfl⟩ := map_eq_ok_iff.1 h
    exact looksAt_hardwareVersion policy
  | hostCpu =>
    obtain ⟨t, -, rfl⟩ := map_eq_ok_iff.1 h
    exact (judgesEach_hostCpu t).looksAt hhosts (standalone_judgeUsage t "cpu" _ _)
  | pairings =>
    obtain ⟨plan, -, rfl⟩ := map_eq_ok_iff.1 h
    exact looksAt_pairings plan
  | hostMemory =>
    obtain ⟨t, -, rfl⟩ := map_eq_ok_iff.1 h
    exact (judgesEach_hostMemory t).looksAt hhosts (standalone_judgeUsage t "memory" _ _)
  | snapshotAge =>
    obtain ⟨t, -, rfl⟩ := map_eq_ok_iff.1 h
    exact (judgesEach_snapshotAge t).looksAt hmachines (standalone_judgeAge t)
  | snapshotCount =>
    obtain ⟨t, -, rfl⟩ := map_eq_ok_iff.1 h
    exact (judgesEach_snapshotCount t).looksAt hmachines (standalone_judgeCount t)
  | snapshotSize =>
    obtain ⟨t, -, rfl⟩ := map_eq_ok_iff.1 h
    exact (judgesEach_snapshotSize t).looksAt hmachines (standalone_judgeSize t)
  | tools =>
    cases h
    exact judgesEach_tools.looksAt hmachines standalone_judgeTools
  | uptime =>
    obtain ⟨t, -, rfl⟩ := map_eq_ok_iff.1 h
    exact (judgesEach_uptime t).looksAt hrunning (standalone_judgeUptime t)

end Check

end InventoryProbe
