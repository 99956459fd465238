import InventoryProbe.Proofs.Inventory.Identity
import InventoryProbe.Proofs.Report.Accounts
import InventoryProbe.Proofs.Run.Report

/-!
# Identifiers of findings

A finding is identified by a text of three parts with colons between them, in which nothing is
escaped. The last part is an object's identifier and may hold colons of its own; the two in front of
it hold none, so that the text comes apart at its first two colons.

* **`seed_inj`**: the text determines the check, the kind and the identifier.
* **`nodup_seeds_findingsOf`**: where no identity is judged twice, no two findings have one text.
* **`seed_identifies`**: so it is in every report on an inventory that is not refused.
-/

namespace InventoryProbe

/-- Two texts that are equal are cut in the same place by the first separator. -/
theorem eq_of_append_cons_eq {α : Type} {c : α} {a a' b b' : List α} (ha : c ∉ a) (ha' : c ∉ a')
    (h : a ++ c :: b = a' ++ c :: b') : a = a' ∧ b = b' := by
  induction a generalizing a' with
  -- One text has the mark where the other has it, or else within a part that has none.
  | nil =>
    cases a' with
    | nil => exact ⟨rfl, (List.cons.inj h).2⟩
    | cons d rest =>
      have hd : c = d := (List.cons.inj h).1
      exact absurd (hd ▸ List.mem_cons_self) ha'
  | cons d rest ih =>
    cases a' with
    | nil =>
      have hd : d = c := (List.cons.inj h).1
      exact absurd (hd ▸ List.mem_cons_self) ha
    | cons d' rest' =>
      obtain ⟨rfl, hrest⟩ := List.cons.inj h
      obtain ⟨rfl, hb⟩ :=
        ih (List.not_mem_of_not_mem_cons ha) (List.not_mem_of_not_mem_cons ha') hrest
      exact ⟨rfl, hb⟩

/-! ## Kinds and names of checks -/

theorem ObjectKind.colon_not_mem_identifierName (k : ObjectKind) :
    ':' ∉ k.identifierName.toList := by
  cases k <;> decide

theorem ObjectKind.identifierName_injective {k k' : ObjectKind}
    (h : k.identifierName = k'.identifierName) : k = k' := by
  cases k <;> cases k' <;> simp_all [identifierName]

theorem CheckName.colon_not_mem_text (n : CheckName) : ':' ∉ n.text.toList := by
  cases n <;> decide

namespace FindingId

/-! ## The text that is hashed -/

/-- A seed has three parts, with a colon behind each of the first two. -/
theorem toList_seed (check : String) (object : ObjectRef) :
    (seed check object).toList = check.toList ++ ':' ::
      (object.kind.identifierName.toList ++ ':' :: object.id.toList) := by
  have hcolon : ":".toList = [':'] := by decide
  unfold seed
  simp only [String.toList_append, hcolon, List.append_assoc, List.cons_append,
    List.nil_append]

/-- What stands behind the name of the check comes apart at its first colon, for no kind is written
with one. -/
theorem identity_inj {object object' : ObjectRef}
    (h : object.kind.identifierName.toList ++ ':' :: object.id.toList
      = object'.kind.identifierName.toList ++ ':' :: object'.id.toList) :
    object.identity = object'.identity := by
  -- No kind has a colon in its name, so the first colon ends it.
  obtain ⟨hkind, hid⟩ := eq_of_append_cons_eq object.kind.colon_not_mem_identifierName
    object'.kind.colon_not_mem_identifierName h
  have hkind : object.kind = object'.kind :=
    ObjectKind.identifierName_injective (String.toList_inj.1 hkind)
  have hid : object.id = object'.id := String.toList_inj.1 hid
  unfold ObjectRef.identity
  rw [hkind, hid]

/-- A seed depends on the check and on the identity of the object, and on nothing else. -/
theorem seed_congr {check : String} {object object' : ObjectRef}
    (h : object.identity = object'.identity) : seed check object = seed check object' := by
  obtain ⟨hkind, hid⟩ := Prod.mk.inj h
  unfold seed
  rw [hkind, hid]

/-- Under one check the text determines the identity, also where the check's name has a colon. -/
theorem seed_eq_iff {check : String} {object object' : ObjectRef} :
    seed check object = seed check object' ↔ object.identity = object'.identity := by
  constructor
  · intro h
    have hlist := congrArg String.toList h
    rw [toList_seed, toList_seed, List.append_cancel_left_eq] at hlist
    exact identity_inj (List.cons.inj hlist).2
  · exact seed_congr

/-- Where the names of checks have no colon, the text determines the check as well. -/
theorem seed_inj {check check' : String} {object object' : ObjectRef} (hcheck : ':' ∉ check.toList)
    (hcheck' : ':' ∉ check'.toList) :
    seed check object = seed check' object' ↔
      check = check' ∧ object.identity = object'.identity := by
  constructor
  · intro h
    have hlist := congrArg String.toList h
    rw [toList_seed, toList_seed] at hlist
    -- The first colon ends the name of the check, and the rest is for the object.
    obtain ⟨hname, hrest⟩ := eq_of_append_cons_eq hcheck hcheck' hlist
    exact ⟨String.toList_inj.1 hname, identity_inj hrest⟩
  · rintro ⟨rfl, h⟩
    exact seed_congr h

end FindingId

/-! ## Findings of a report -/

namespace Report

/-- The identifier of a finding hangs on the check and on the identity of the object alone. -/
theorem id_of_mem_findingsOf {o : Outcome} {f : Finding} (hf : f ∈ findingsOf o) :
    f.id = FindingId.of o.check f.judgement.object := by
  have hmem := (findingsOf_perm o).mem_iff.1 hf
  obtain ⟨j, -, rfl⟩ := List.mem_map.1 hmem
  rfl

/-- Findings on objects of different identity have different seeds. -/
theorem nodup_seeds_findingsOf {o : Outcome}
    (h : (o.judgements.map (·.object.identity)).Nodup) :
    ((findingsOf o).map fun f => FindingId.seed o.check f.judgement.object).Nodup := by
  -- The findings are some of the judgements, and these differ in their identities.
  have hfindings : (o.findings.map (·.object.identity)).Nodup :=
    h.sublist (List.filter_sublist.map _)
  have hseeds : (o.findings.map fun j => FindingId.seed o.check j.object).Nodup := by
    unfold List.Nodup at hfindings ⊢
    rw [List.pairwise_map] at hfindings ⊢
    exact hfindings.imp fun hne heq => hne (FindingId.seed_eq_iff.1 heq)
  have hperm := (findingsOf_perm o).map fun f => FindingId.seed o.check f.judgement.object
  rw [List.map_map] at hperm
  exact hperm.nodup_iff.2 hseeds

end Report

namespace PreparedRun

variable {s : Settings} {n : CheckName} {run : PreparedRun} {inventory : Inventory} {o : Outcome}

/-- On an inventory that is not refused, a run judges no identity twice. -/
theorem nodup_identities_of_execute (h : run.check.Built s n) (hvalid : inventory.validate = .ok ())
    (hexecute : run.execute inventory = .ok o) : (o.judgements.map (·.object.identity)).Nodup := by
  obtain ⟨-, judgements, heval, rfl⟩ := (execute_eq_ok_iff h).1 hexecute
  have hscope := h.scope_sublist_objects run.criteria inventory
  rw [← h.objects_of_evaluate heval] at hscope
  have hidentities := hscope.map ObjectRef.identity
  rw [List.map_map] at hidentities
  exact (Inventory.validate_eq_ok_iff.1 hvalid).sublist hidentities

end PreparedRun

namespace FindingId

/-- **Identifiers of findings do not clash, and survive renaming.** The text that is hashed
determines the check, where its name has no colon, as none of the twelve has, and the kind and
identifier of the object, which may hold colons; and nothing else has a part in it, so that the same
check gives findings on an object one identifier in whatever report, however the object is called
and judged. No two findings of a report on an inventory that is not refused are made from one text.
-/
theorem seed_identifies :
    (∀ name ∈ Catalogue.standard.names, ':' ∉ name.toList) ∧
    (∀ check check' object object', ':' ∉ check.toList → ':' ∉ check'.toList →
      (seed check object = seed check' object' ↔
        check = check' ∧ object.kind = object'.kind ∧ object.id = object'.id)) ∧
    (∀ o o' : Outcome, o.check = o'.check → ∀ f ∈ Report.findingsOf o,
      ∀ f' ∈ Report.findingsOf o', f.judgement.object.kind = f'.judgement.object.kind →
        f.judgement.object.id = f'.judgement.object.id → f.id = f'.id) ∧
    ∀ name s inventory report, Catalogue.standard.evaluate name s inventory = .ok report →
      report.check = name ∧
      (∀ f ∈ report.findings, f.id = named (seed name f.judgement.object).toUTF8.toList) ∧
      (report.findings.map fun f => seed name f.judgement.object).Nodup := by
  refine ⟨fun name hname => ?_, fun check check' object object' hcheck hcheck' => ?_,
    fun o o' ho f hf f' hf' hkind hid => ?_, fun name s inventory report heval => ?_⟩
  · rw [Catalogue.names_standard] at hname
    obtain ⟨n, -, rfl⟩ := List.mem_map.1 hname
    exact n.colon_not_mem_text
  · rw [seed_inj hcheck hcheck', ObjectRef.identity, ObjectRef.identity, Prod.mk.injEq]
  · have hseed : seed o.check f.judgement.object = seed o'.check f'.judgement.object := by
      rw [ho]
      exact seed_congr (Prod.ext hkind hid)
    rw [Report.id_of_mem_findingsOf hf, Report.id_of_mem_findingsOf hf', of, of, hseed]
  · -- The check of an outcome is the one that was asked for, and its objects differ.
    obtain ⟨run, o, hprepare, hvalid, hexecute, rfl⟩ := Catalogue.evaluate_eq_ok_iff.1 heval
    obtain ⟨n, rfl, hbuilt, -⟩ := PreparedRun.built_of_prepare hprepare
    have hcheck : o.check = n.text := by
      obtain ⟨-, judgements, -, rfl⟩ := (PreparedRun.execute_eq_ok_iff hbuilt).1 hexecute
      rfl
    have hnodup := PreparedRun.nodup_identities_of_execute hbuilt hvalid hexecute
    rw [← hcheck]
    exact ⟨rfl, fun f hf => Report.id_of_mem_findingsOf hf, Report.nodup_seeds_findingsOf hnodup⟩

/-! ## An alarm under another name

The keys of the two alarms begin alike, and one holds a colon. By the second report this one has
another name and another status. -/

/-- An alarm on a datastore. -/
def storageAlarm (key name : String) (status : AlarmStatus) : Alarm :=
  ⟨key, name, "", none, ⟨.datastore, "ds-1", "ssd"⟩, status, false, none⟩

/-- A site with two of them, where one has the key of the other in front of a colon. -/
def alarmedSite (name : String) (status : AlarmStatus) : Inventory :=
  { PreparedRun.pairedSite with
    alarms := [storageAlarm "disk" "latency" .yellow, storageAlarm "disk:1" name status] }

/-- The two alarms are told apart, so that the site is not refused. -/
theorem validate_alarmedSite (name : String) (status : AlarmStatus) :
    (alarmedSite name status).validate = .ok () := by
  have hidentities : (alarmedSite name status).objects.map ObjectRef.identity
      = [(.host, "host-1"), (.host, "host-2"), (.datastore, "ds-1"), (.virtualMachine, "vm-1"),
        (.alarm, "disk"), (.alarm, "disk:1")] := rfl
  rw [Inventory.validate_eq_ok_iff, hidentities]
  decide

/-- What is judged and is not well is found again in the report. -/
theorem exists_finding_alarmedSite {name : String} {status : AlarmStatus} {o : Outcome}
    (hexecute : PreparedRun.execute ⟨.initial, Check.alarms⟩ (alarmedSite name status) = .ok o)
    {j : Judgement} (hj : j ∈ o.judgements) (hbad : j.severity ≠ .ok) :
    ∃ report, Catalogue.standard.evaluate "alarms" .unset (alarmedSite name status) = .ok report ∧
      ∃ f ∈ report.findings, f.judgement = j := by
  have hprepare : PreparedRun.prepare .standard "alarms" .unset = .ok ⟨.initial, Check.alarms⟩ :=
    rfl
  have heval := Catalogue.evaluate_eq_ok_iff.2
    ⟨_, o, hprepare, validate_alarmedSite name status, hexecute, rfl⟩
  exact ⟨_, heval, List.mem_map.1 (Report.mem_map_findingsOf_iff.2 ⟨hj, hbad⟩)⟩

/-- Under another name and with a worse status the alarm keeps its identifier. -/
theorem alarmedSite_renamed :
    ∃ report report',
      Catalogue.standard.evaluate "alarms" .unset (alarmedSite "full" .yellow) = .ok report ∧
      Catalogue.standard.evaluate "alarms" .unset (alarmedSite "filling up" .red) = .ok report' ∧
      (report.findings.map fun f => seed "alarms" f.judgement.object).Nodup ∧
      ∃ f ∈ report.findings, ∃ f' ∈ report'.findings,
        f.judgement.object = ⟨.alarm, "disk:1", "full"⟩ ∧ f.judgement.severity = .warning ∧
        f'.judgement.object = ⟨.alarm, "disk:1", "filling up"⟩ ∧ f'.judgement.severity = .critical ∧
        f.id = f'.id := by
  let judged (a : Alarm) : Judgement := ⟨Check.judgeAlarm a, a.ref⟩
  have hbefore : (PreparedRun.execute ⟨.initial, Check.alarms⟩ (alarmedSite "full" .yellow)).map
      (·.judgements) = .ok [judged (storageAlarm "disk" "latency" .yellow),
        judged (storageAlarm "disk:1" "full" .yellow)] := by
    decide +kernel
  have hafter : (PreparedRun.execute ⟨.initial, Check.alarms⟩ (alarmedSite "filling up" .red)).map
      (·.judgements) = .ok [judged (storageAlarm "disk" "latency" .yellow),
        judged (storageAlarm "disk:1" "filling up" .red)] := by
    decide +kernel
  obtain ⟨o, hexecute, hjudged⟩ := map_eq_ok_iff.1 hbefore
  obtain ⟨o', hexecute', hjudged'⟩ := map_eq_ok_iff.1 hafter
  obtain ⟨report, heval, f, hf, hfull⟩ := exists_finding_alarmedSite hexecute
    (hjudged ▸ List.mem_cons_of_mem _ List.mem_cons_self) (by decide)
  obtain ⟨report', heval', f', hf', hfilling⟩ := exists_finding_alarmedSite hexecute'
    (hjudged' ▸ List.mem_cons_of_mem _ List.mem_cons_self) (by decide)
  obtain ⟨-, -, -, hreports⟩ := seed_identifies
  obtain ⟨-, hids, hnodup⟩ := hreports _ _ _ _ heval
  obtain ⟨-, hids', -⟩ := hreports _ _ _ _ heval'
  -- Neither the name of the alarm nor its status goes into the seed.
  have hseed : seed "alarms" f.judgement.object = seed "alarms" f'.judgement.object := by
    rw [hfull, hfilling]
    exact seed_congr rfl
  refine ⟨report, report', heval, heval', hnodup, f, hf, f', hf', ?_⟩
  rw [hids f hf, hids' f' hf', hseed, hfull, hfilling]
  exact ⟨rfl, rfl, rfl, rfl, rfl⟩

end FindingId

end InventoryProbe
