import InventoryProbe.Proofs.Check.Kinds
import InventoryProbe.Proofs.Check.Options
import InventoryProbe.Proofs.Run.Execution

/-!
# Settings that do not concern a check

One file of settings serves all checks. A run reads of it what concerns its own check, and may be given
any other settings that agree with them so far.

* **`CheckName.AgreeOnConcerns`**: which settings concern a check.
* **`execute_of_agreeOnConcerns`**: the others have no influence on where a run of it ends.
-/

namespace InventoryProbe

/-- That two settings agree on what concerns a check: on the options that it has to itself, and on the
criteria for the kinds of object that it looks at. -/
structure CheckName.AgreeOnConcerns (n : CheckName) (a b : Settings) : Prop where
  options : n.SameOptions a b
  criteria : ∀ kind ∈ n.kinds, a.criteria.AgreeOn b.criteria kind

namespace PreparedRun

variable {n : CheckName} {a b : Settings} {run other : PreparedRun}

/-- **What does not concern a check has no influence on it.** Two runs of one check, prepared from settings
that agree on its own options and on the criteria for the kinds of object that it looks at, end alike on every
inventory, be it in an outcome or in a fault. The inventory may be one that would be refused. -/
theorem execute_of_agreeOnConcerns (ha : prepare .standard n.text a = .ok run)
    (hb : prepare .standard n.text b = .ok other) (hagree : n.AgreeOnConcerns a b)
    (inventory : Inventory) : run.execute inventory = other.execute inventory := by
  obtain ⟨hbuild, hcriteria⟩ := build_of_prepare ha
  obtain ⟨hbuild', hcriteria'⟩ := build_of_prepare hb
  -- The same options of the check build the same check.
  have hcheck : run.check = other.check := by
    rw [CheckName.build_eq_of_sameOptions hagree.options, hbuild'] at hbuild
    exact (Except.ok.inj hbuild).symm
  have htables := Selection.sameTables_select run.criteria other.criteria inventory
  have hkinds : ∀ kind ∈ n.kinds,
      (run.criteria.select inventory).AgreeOn (other.criteria.select inventory) kind := by
    intro kind hkind
    rw [hcriteria, hcriteria']
    exact Selection.agreeOn_select (hagree.criteria kind hkind) inventory
  -- The criteria may differ for kinds that the check does not look at.
  obtain ⟨hscope, hevaluate⟩ := Check.looksAt_of_build hbuild _ _ htables hkinds
  cases run
  cases other
  cases hcheck
  exact execute_congr hscope hevaluate

/-! ## A pair of zones among other settings

The paired site again, with settings for alarms, for versions and for the usage of hosts beside those of
its pairing. Half a pair of boundaries would stop another check. -/

/-- The settings for zones, with everything set about alarms that can be set. -/
def crowdedSettings : Settings :=
  let criteria :=
    { Criteria.initial with
      entityTypes := ⟨∅, {.host}⟩, statuses := ⟨{.red}, ∅⟩, alarmNames := ⟨{"disk"}, ∅⟩
      acknowledged := true }
  { zoneSettings with
    timeout := 5, criteria, thresholds := {("host-cpu", ⟨some 90, none⟩)}
    version := { VersionSettings.unset with defaultIsMinimum := true } }

/-- Pairing looks at no alarms, and so it ends alike. -/
theorem crowdedSettings_same_end :
    crowdedSettings ≠ zoneSettings ∧
    prepare .standard CheckName.pairings.text zoneSettings = .ok zoneRun ∧
    prepare .standard CheckName.pairings.text crowdedSettings
      = .ok ⟨crowdedSettings.criteria, zoneRun.check⟩ ∧
    CheckName.pairings.AgreeOnConcerns zoneSettings crowdedSettings ∧
    ∃ o, zoneRun.execute pairedSite = .ok o ∧ o.overall = .critical ∧
      execute ⟨crowdedSettings.criteria, zoneRun.check⟩ pairedSite = .ok o := by
  have hne : crowdedSettings ≠ zoneSettings := by decide +kernel
  have hzone : prepare .standard CheckName.pairings.text zoneSettings = .ok zoneRun := rfl
  have hvalid : crowdedSettings.validate = .ok () := by decide +kernel
  have hbuild : Catalogue.standard.build CheckName.pairings.text crowdedSettings
      = .ok zoneRun.check := by
    rw [Catalogue.build_text]
    rfl
  have hcrowded : prepare .standard CheckName.pairings.text crowdedSettings
      = .ok ⟨crowdedSettings.criteria, zoneRun.check⟩ := prepare_eq_ok_iff.2 ⟨hvalid, hbuild, rfl⟩
  -- Of the three kinds that pairing looks at none is an alarm.
  have hagree : CheckName.pairings.AgreeOnConcerns zoneSettings crowdedSettings := by
    refine ⟨rfl, fun kind hkind => ?_⟩
    simp only [CheckName.kinds, List.mem_cons, List.not_mem_nil, or_false] at hkind
    rcases hkind with rfl | rfl | rfl
    · exact trivial
    · exact rfl
    · exact ⟨rfl, rfl, rfl⟩
  have hcritical : (zoneRun.execute pairedSite).map (·.overall) = .ok .critical := by
    decide +kernel
  obtain ⟨o, hexecute, hoverall⟩ := map_eq_ok_iff.1 hcritical
  have hsame := execute_of_agreeOnConcerns hzone hcrowded hagree pairedSite
  exact ⟨hne, hzone, hcrowded, hagree, o, hexecute, hoverall, hsame.symm.trans hexecute⟩

end PreparedRun

end InventoryProbe
