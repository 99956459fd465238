import InventoryProbe.Proofs.Run.Execution

/-!
# Runs without what is dropped

What criteria drop of an inventory has no influence on a run: it might as well not have been listed.

* **`execute_eq_of_seen`**: two inventories of which a check sees the same lead to the same end.
* **`execute_prune`**: so do an inventory and what its criteria leave of it, from which they drop
  nothing more.
-/

namespace InventoryProbe

namespace PreparedRun

variable {s : Settings} {n : CheckName} {check : Check} {c : Criteria}

/-- A run depends on nothing but what is seen of the inventory. -/
theorem execute_eq_of_seen {a b : Inventory} (h : check.Built s n)
    (hseen : (c.select a).seen = (c.select b).seen) :
    execute ⟨c, check⟩ a = execute ⟨c, check⟩ b := by
  have hscope : check.scope (c.select a) = check.scope (c.select b) := by
    rw [← h.scope_seen, hseen, h.scope_seen]
  have hevaluate : check.evaluate (c.select a) = check.evaluate (c.select b) := by
    rw [← h.evaluate_seen, hseen, h.evaluate_seen]
  exact execute_congr hscope hevaluate

/-- **What is dropped has no influence.** Taken out of the inventory beforehand, the machines and
alarms that criteria drop leave behind an inventory of which the criteria keep the same objects in the
same order, and on which a run of any check ends as before, be it in an outcome or in a fault. The
same is true when the resource pools that are not kept go as well. The inventory may be one that would
be refused. -/
theorem execute_prune (hbuild : n.build s = .ok check) (c : Criteria) (inventory : Inventory) :
    (c.select (c.prune inventory)).SameKept (c.select inventory) ∧
    execute ⟨c, check⟩ (c.prune inventory) = execute ⟨c, check⟩ inventory ∧
    (c.select (c.prunePools inventory)).SameKept (c.select inventory) ∧
    execute ⟨c, check⟩ (c.prunePools inventory) = execute ⟨c, check⟩ inventory := by
  have hbuilt := CheckName.built_of_build_eq_ok hbuild
  have hprune := Selection.sameKept_select_prune c inventory
  have hprunePools := Selection.sameKept_select_prunePools c inventory
  have hseen := Selection.seen_select_of_sameKept c inventory hprune
  have hseenPools := Selection.seen_select_of_sameKept c inventory hprunePools
  exact ⟨hprune, execute_eq_of_seen hbuilt hseen, hprunePools, execute_eq_of_seen hbuilt hseenPools⟩

/-! ## A newer machine that is dropped

Of two machines the newer one is in a pool that is left out, so that the other one is not behind. -/

/-- Two machines of different versions, in different pools. -/
def pooledSite : Inventory :=
  { pairedSite with
    resourcePools := [⟨"pool-1", "test", none, 0⟩, ⟨"pool-2", "live", none, 0⟩]
    virtualMachines :=
      [{ plainMachine "vm-1" "new" "host-1" [] with resourcePool := some "pool-1" },
       { plainMachine "vm-2" "old" "host-1" [] with
         resourcePool := some "pool-2", hardwareVersion := ⟨13⟩ }] }

/-- The machines of one pool are left out. -/
def withoutTests : Criteria := { Criteria.initial with pools := ⟨∅, {"test"}⟩ }

theorem pooledSite_pruned :
    CheckName.hardwareVersion.build .unset = .ok (.hardwareVersion .homogeneous) ∧
    (withoutTests.prune pooledSite).virtualMachines.map (·.name) = ["old"] ∧
    (withoutTests.prunePools pooledSite).resourcePools.map (·.name) = ["live"] ∧
    ∃ o, execute ⟨.initial, .hardwareVersion .homogeneous⟩ pooledSite = .ok o ∧
      o.overall = .warning ∧
      ∃ o', execute ⟨withoutTests, .hardwareVersion .homogeneous⟩ pooledSite = .ok o' ∧
        o'.overall = .ok ∧
        execute ⟨withoutTests, .hardwareVersion .homogeneous⟩ (withoutTests.prune pooledSite)
          = .ok o' := by
  have hbuild : CheckName.hardwareVersion.build .unset = .ok (.hardwareVersion .homogeneous) := rfl
  have hmachines : (withoutTests.prune pooledSite).virtualMachines.map (·.name) = ["old"] := by
    decide +kernel
  have hpools : (withoutTests.prunePools pooledSite).resourcePools.map (·.name) = ["live"] := by
    decide +kernel
  have hall : (execute ⟨.initial, .hardwareVersion .homogeneous⟩ pooledSite).map (·.overall)
      = .ok .warning := by
    decide +kernel
  have hkept : (execute ⟨withoutTests, .hardwareVersion .homogeneous⟩ pooledSite).map (·.overall)
      = .ok .ok := by
    decide +kernel
  obtain ⟨o, hexecute, hoverall⟩ := map_eq_ok_iff.1 hall
  obtain ⟨o', hexecute', hoverall'⟩ := map_eq_ok_iff.1 hkept
  -- What was left out by the criteria can be left out of the inventory.
  obtain ⟨-, hprune, -⟩ := execute_prune hbuild withoutTests pooledSite
  exact ⟨hbuild, hmachines, hpools, o, hexecute, hoverall, o', hexecute', hoverall',
    hprune.trans hexecute'⟩

end PreparedRun

end InventoryProbe
