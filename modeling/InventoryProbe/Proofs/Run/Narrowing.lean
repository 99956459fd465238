import InventoryProbe.Proofs.Criteria
import InventoryProbe.Proofs.Run.Execution

/-!
# Runs with narrower criteria

Two runs of one check over one inventory, of which the second keeps no object that the first does
not keep.

* **`exists_execute_of_keepsLess`**: if the first comes to an outcome, so does the second, and its
  judgements are no worse.
* **`execute_narrowing`**: this is what narrowing the criteria does, in any number of steps, up to criteria
  that would be refused.
-/

namespace InventoryProbe

namespace PreparedRun

variable {s : Settings} {n : CheckName} {check : Check} {wide narrow : Criteria}
  {inventory : Inventory} {o : Outcome}

/-- What a run finds with more objects, it finds with fewer, and no worse. -/
theorem exists_execute_of_keepsLess (h : check.Built s n) (hless : narrow.KeepsLess wide)
    (hwide : execute ⟨wide, check⟩ inventory = .ok o) :
    ∃ o', execute ⟨narrow, check⟩ inventory = .ok o' ∧
      Judgement.NoWorse o'.judgements o.judgements ∧ o'.overall ≤ o.overall := by
  have hwithin := Selection.within_select hless inventory
  obtain ⟨hnodup, more, hmore, rfl⟩ := (execute_eq_ok_iff h).1 hwide
  obtain ⟨fewer, hfewer, hnoWorse⟩ := h.exists_evaluate_noWorse_of_within hwithin hmore
  -- The scope is a part of one without repetitions, and so has none.
  have hnodup' : (check.scope (narrow.select inventory)).Nodup :=
    hnodup.sublist (h.scope_sublist_of_within hwithin)
  exact ⟨_, (execute_eq_ok_iff h).2 ⟨hnodup', fewer, hfewer, rfl⟩, hnoWorse, hnoWorse.worstOf_le⟩

/-- No object has two judgements in an outcome. -/
theorem nodup_objects_of_execute (h : check.Built s n)
    (hexecute : execute ⟨wide, check⟩ inventory = .ok o) : (o.judgements.map (·.object)).Nodup := by
  obtain ⟨hnodup, judgements, heval, rfl⟩ := (execute_eq_ok_iff h).1 hexecute
  rw [h.objects_of_evaluate heval]
  exact hnodup

/-- **Narrowing the criteria never makes a run worse.** If a run of a check comes to an outcome, it
does so with narrower criteria as well, unless these contradict themselves: it judges no further object,
none of them worse than before, and is no worse as a whole. The inventory may be one that would be
refused. -/
theorem execute_narrowing (hbuild : n.build s = .ok check)
    (hnarrow : Relation.ReflTransGen Criteria.Narrows wide narrow)
    (hvalid : narrow.validate = .ok ())
    (hwide : execute ⟨wide, check⟩ inventory = .ok o) :
    ∃ o', execute ⟨narrow, check⟩ inventory = .ok o' ∧
      (∀ j ∈ o'.judgements, j.object ∈ o.judgements.map (·.object)) ∧
      (∀ j ∈ o'.judgements, ∀ i ∈ o.judgements, i.object = j.object → j.severity ≤ i.severity) ∧
      o'.overall ≤ o.overall := by
  have hbuilt := CheckName.built_of_build_eq_ok hbuild
  have hnodup := nodup_objects_of_execute hbuilt hwide
  obtain ⟨o', hexecute, hnoWorse, hoverall⟩ :=
    exists_execute_of_keepsLess hbuilt (Criteria.keepsLess_of_narrowing hnarrow hvalid) hwide
  -- An object has one judgement before, and that is the one to compare with.
  refine ⟨o', hexecute, fun j hj => hnoWorse.mem_objects hj, fun j hj i hi hobject => ?_, hoverall⟩
  exact hnoWorse.severity_le hnodup hj hi hobject

/-! ## The paired site without its datastore

The machine lies on a datastore of another zone, which is no longer looked at. -/

/-- The datastore is ignored by name. -/
def withoutDatastore : Criteria := { Criteria.initial with ignoredDatastores := ∅ ∪ {"ssd"} }

/-- With the datastore the machine is critical, and without it the machine is well. -/
theorem zoneRun_narrowed :
    CheckName.pairings.build zoneSettings = .ok zoneRun.check ∧
    Relation.ReflTransGen Criteria.Narrows .initial withoutDatastore ∧
    withoutDatastore.validate = .ok () ∧
    ∃ o, zoneRun.execute pairedSite = .ok o ∧ o.overall = .critical ∧
      ∃ o', execute ⟨withoutDatastore, zoneRun.check⟩ pairedSite = .ok o' ∧ o'.overall = .ok ∧
        (∀ j ∈ o'.judgements, ∀ i ∈ o.judgements, i.object = j.object →
          j.severity ≤ i.severity) := by
  have hbuild : CheckName.pairings.build zoneSettings = .ok zoneRun.check := rfl
  have hnarrow : Relation.ReflTransGen Criteria.Narrows .initial withoutDatastore :=
    .single (.ignoreDatastores .initial {"ssd"})
  have hvalid : withoutDatastore.validate = .ok () := by decide +kernel
  have hcritical : (zoneRun.execute pairedSite).map (·.overall) = .ok .critical := by
    decide +kernel
  have hok : (execute ⟨withoutDatastore, zoneRun.check⟩ pairedSite).map (·.overall) = .ok .ok := by
    decide +kernel
  obtain ⟨o, hexecute, hoverall⟩ := map_eq_ok_iff.1 hcritical
  obtain ⟨o', hexecute', -, hseverity, -⟩ := execute_narrowing hbuild hnarrow hvalid hexecute
  rw [hexecute'] at hok
  exact ⟨hbuild, hnarrow, hvalid, o, hexecute, hoverall, o', hexecute', Except.ok.inj hok, hseverity⟩

end PreparedRun

end InventoryProbe
