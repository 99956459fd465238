import Mathlib.Algebra.GroupWithZero.Nat
import InventoryProbe.Proofs.Report.Findings
import InventoryProbe.Proofs.Run.Execution

/-!
# Reports account for their outcomes

The state, the summary, the findings and the number of objects that are well are each computed on their
own from one outcome. They agree because the state of an outcome that a tally closed to is the worst
severity in it.

* **`Shows`**: that findings are the problems among some judgements, worst first.
* **`Counts`**: that a list of counts has those of the problems, as far as there are any.
* **`accountsFor_of_close`**: the report of an outcome gives a true account of it.
-/

namespace InventoryProbe

namespace Report

/-! ## Accounts -/

/-- That findings are the problems among some judgements, each of them once, the worst first, and equally
bad ones in the order in which they were judged. -/
structure Shows (findings : List Finding) (judgements : List Judgement) : Prop where
  perm : (findings.map (·.judgement)).Perm (judgements.filter (·.severity ≠ .ok))
  worstFirst : WorstFirst findings
  ties : ∀ s, s ≠ .ok →
    (findings.map (·.judgement)).filter (·.severity = s) = judgements.filter (·.severity = s)

/-- That a list has the number of judgements of each severity but `ok`, unless it is zero, beside the
severity, and the worst of them first. -/
structure Counts (counts : List (Nat × Severity)) (judgements : List Judgement) : Prop where
  mem_iff : ∀ n s, (n, s) ∈ counts ↔
    s ≠ .ok ∧ n ≠ 0 ∧ judgements.countP (·.severity = s) = n
  worstFirst : counts.Pairwise fun a b => ¬ a.2 ≤ b.2

/-- The summary for a number of objects, all of which are well. -/
def wellSummary (check : String) (total : Nat) : String :=
  toString total ++ " of " ++ toString total ++ " objects evaluated by check '" ++ check
    ++ "' are within thresholds"

/-- The summary for a number of objects that lists some counts. -/
def countSummary (check : String) (total : Nat) (counts : List (Nat × Severity)) : String :=
  String.intercalate ", " (counts.map fun c => toString c.1 ++ " " ++ c.2.text) ++ " of "
    ++ toString total ++ " objects evaluated by check '" ++ check ++ "'"

/-- That a report gives a true account of an outcome. -/
structure AccountsFor (r : Report) (o : Outcome) : Prop where
  shows : Shows r.findings o.judgements
  state_eq_ok_iff : r.state = .ok ↔ r.findings = []
  /-- Else the state is the severity of the first finding. -/
  state_eq_head : ∀ f ∈ r.findings.head?, r.state = f.judgement.severity
  /-- No other summary can be taken for one that says that all is well. -/
  summary_iff : (∃ total, r.summary = wellSummary o.check total) ↔ r.findings = []
  summary_of_well : r.findings = [] → r.summary = wellSummary o.check o.judgements.length
  summary_of_findings : r.findings ≠ [] → ∃ counts, Counts counts o.judgements ∧
    r.summary = countSummary o.check o.judgements.length counts ∧
    (counts.map (·.1)).sum = r.findings.length
  /-- The last line of the text tells how many objects are well, if any object was judged. -/
  text_of_judged : o.judgements ≠ [] → ∃ above,
    r.text = above ++ "\n" ++ toString (o.judgements.countP (·.severity = .ok)) ++ " object(s) OK"
  text_of_unjudged : o.judgements = [] → r.text = r.state.text ++ ": " ++ r.summary

variable {o : Outcome}

/-! ## Findings -/

theorem isProblem_eq (s : Severity) : s.isProblem = decide (s ≠ .ok) := by
  cases s <;> rfl

/-- The findings of an outcome are its judgements that are not well. -/
theorem findings_eq (o : Outcome) : o.findings = o.judgements.filter (·.severity ≠ .ok) := by
  unfold Outcome.findings
  simp only [isProblem_eq]

/-- Whatever an outcome says of the whole, its findings are the problems in it. -/
theorem shows_findingsOf (o : Outcome) : Shows (findingsOf o) o.judgements where
  perm := by
    have hperm := (findingsOf_perm o).map (·.judgement)
    rw [List.map_map] at hperm
    simpa [findings_eq, Function.comp_def] using hperm
  worstFirst := findingsOf_sorted o
  ties s hs := by
    have hties := congrArg (List.map (·.judgement)) (findingsOf_filter_severity o s)
    rw [List.filter_map, Function.comp_def, hties, List.filter_map, List.map_map]
    simp only [Function.comp_def, List.map_id', findings_eq, List.filter_filter]
    -- A severity that is worse than well is that of a problem.
    apply List.filter_congr
    intro j _
    by_cases hj : j.severity = s
    · simp [hj, hs]
    · simp [hj]

theorem mem_map_findingsOf_iff {j : Judgement} :
    j ∈ (findingsOf o).map (·.judgement) ↔ j ∈ o.judgements ∧ j.severity ≠ .ok := by
  rw [(shows_findingsOf o).perm.mem_iff, List.mem_filter, decide_eq_true_iff]

theorem length_findingsOf (o : Outcome) : (findingsOf o).length = o.findings.length := by
  rw [(findingsOf_perm o).length_eq, List.length_map]

/-! ## The state -/

/-- An outcome is well exactly if it has no findings. -/
theorem overall_eq_ok_iff (hworst : o.overall.IsWorstOf (o.judgements.map (·.severity))) :
    o.overall = .ok ↔ findingsOf o = [] := by
  have hwell : findingsOf o = [] ↔ ∀ j ∈ o.judgements, j.severity = .ok := by
    rw [← List.map_eq_nil_iff (f := (·.judgement)), List.eq_nil_iff_forall_not_mem]
    simp only [mem_map_findingsOf_iff, not_and, not_not]
  rw [hwell]
  constructor
  · intro hoverall j hj
    have hle := hworst.le_worst _ (List.mem_map_of_mem hj)
    rw [hoverall] at hle
    exact Severity.le_antisymm hle (Severity.ok_le _)
  · intro hall
    -- The severity as a whole is that of some judgement, or there are none.
    rcases hworst.attained with hmem | ⟨-, hoverall⟩
    · obtain ⟨j, hj, hseverity⟩ := List.mem_map.1 hmem
      exact hseverity.symm.trans (hall j hj)
    · exact hoverall

/-- The first finding is as bad as anything that was judged. -/
theorem isWorstOf_head {f : Finding} (hhead : f ∈ (findingsOf o).head?) :
    f.judgement.severity.IsWorstOf (o.judgements.map (·.severity)) := by
  obtain ⟨rest, hfindings⟩ : ∃ rest, findingsOf o = f :: rest := by
    rw [Option.mem_def, List.head?_eq_some_iff] at hhead
    exact hhead
  have hsorted := findingsOf_sorted o
  unfold WorstFirst at hsorted
  rw [hfindings, List.pairwise_cons] at hsorted
  have hfirst : f.judgement ∈ o.judgements := by
    refine (mem_map_findingsOf_iff.1 ?_).1
    rw [hfindings]
    exact List.mem_map_of_mem List.mem_cons_self
  refine ⟨?_, Or.inl (List.mem_map_of_mem hfirst)⟩
  rw [List.forall_mem_map]
  intro j hj
  by_cases hok : j.severity = .ok
  · rw [hok]
    exact Severity.ok_le _
  · -- What is not well is shown, and so stands behind the first finding.
    have hshown := mem_map_findingsOf_iff.2 ⟨hj, hok⟩
    rw [hfindings] at hshown
    obtain ⟨g, hg, rfl⟩ := List.mem_map.1 hshown
    rcases List.mem_cons.1 hg with rfl | hg
    · exact Severity.le_refl _
    · exact hsorted.1 g hg

/-- An outcome with findings is as bad as the one that is shown first. -/
theorem overall_eq_head (hworst : o.overall.IsWorstOf (o.judgements.map (·.severity)))
    {f : Finding} (hhead : f ∈ (findingsOf o).head?) : o.overall = f.judgement.severity :=
  hworst.eq_worstOf.trans (isWorstOf_head hhead).eq_worstOf.symm

/-! ## Counts -/

/-- The counts that a summary lists. -/
def countsOf (o : Outcome) : List (Nat × Severity) :=
  (counted.filter (o.count · != 0)).map fun s => (o.count s, s)

theorem mem_counted_iff {s : Severity} : s ∈ counted ↔ s ≠ .ok := by
  cases s <;> decide

/-- The counts of an outcome are those of its judgements, the worst first. -/
theorem counts_countsOf (o : Outcome) : Counts (countsOf o) o.judgements where
  mem_iff n s := by
    unfold countsOf
    rw [List.mem_map]
    constructor
    · rintro ⟨t, ht, heq⟩
      cases heq
      obtain ⟨hmem, hne⟩ := List.mem_filter.1 ht
      exact ⟨mem_counted_iff.1 hmem, bne_iff_ne.1 hne, rfl⟩
    · rintro ⟨hs, hn, rfl⟩
      exact ⟨s, List.mem_filter.2 ⟨mem_counted_iff.2 hs, bne_iff_ne.2 hn⟩, rfl⟩
  worstFirst := by
    -- The severities are listed from the worst on.
    have hcounted : counted.Pairwise fun a b => ¬ a ≤ b := by decide
    exact (hcounted.filter _).map _ fun _ _ hlt => hlt

/-- Counts that are zero add nothing. -/
theorem sum_map_filter_ne_zero {α : Type} (f : α → Nat) (l : List α) :
    ((l.filter (f · != 0)).map f).sum = (l.map f).sum := by
  induction l with
  | nil => rfl
  | cons a l ih =>
    by_cases ha : f a = 0
    · simp [ha, ih]
    · simp [ha, ih]

/-- Every judgement is counted under its own severity, and only there. -/
theorem countP_severities (judgements : List Judgement) :
    judgements.countP (·.severity = .unknown) + judgements.countP (·.severity = .critical)
        + judgements.countP (·.severity = .warning)
      = judgements.countP (·.severity ≠ .ok) ∧
    judgements.countP (·.severity ≠ .ok) + judgements.countP (·.severity = .ok)
      = judgements.length := by
  induction judgements with
  | nil => exact ⟨rfl, rfl⟩
  | cons j judgements ih =>
    simp only [List.countP_cons, List.length_cons, ne_eq, decide_not] at ih ⊢
    cases j.severity <;> simp <;> omega

/-- There are as many findings as judgements that are not well. -/
theorem length_findings (o : Outcome) :
    o.findings.length = o.judgements.countP (·.severity ≠ .ok) := by
  rw [findings_eq, List.countP_eq_length_filter]

/-- The counts of all severities add up to the findings. -/
theorem sum_count_counted (o : Outcome) : (counted.map o.count).sum = o.findings.length := by
  rw [length_findings, ← (countP_severities o.judgements).1, Nat.add_assoc]
  rfl

theorem sum_countsOf (o : Outcome) : ((countsOf o).map (·.1)).sum = (findingsOf o).length := by
  have hcounts : (countsOf o).map (·.1) = (counted.filter (o.count · != 0)).map o.count := by
    unfold countsOf
    rw [List.map_map]
    rfl
  rw [hcounts, sum_map_filter_ne_zero, sum_count_counted, length_findingsOf]

/-! ## The summary -/

/-- An outcome that is well is summarized by the number of its objects. -/
theorem summarize_of_ok (hoverall : o.overall = .ok) :
    summarize o = wellSummary o.check o.judgements.length := by
  unfold summarize wellSummary
  rw [hoverall]
  rfl

/-- An outcome that is not well is summarized by its counts. -/
theorem summarize_of_ne_ok (hoverall : o.overall ≠ .ok) :
    summarize o = countSummary o.check o.judgements.length (countsOf o) := by
  have hproblem : o.overall.isProblem = true := by
    rw [isProblem_eq]
    exact decide_eq_true hoverall
  have htexts : countTexts o
      = (countsOf o).map fun c => toString c.1 ++ " " ++ c.2.text := by
    unfold countTexts countsOf
    rw [List.map_map]
    rfl
  unfold summarize countSummary
  rw [if_pos hproblem, htexts]

/-- One of the summaries ends in a quotation mark and the other does not. -/
theorem countSummary_ne_wellSummary (check : String) (total total' : Nat)
    (counts : List (Nat × Severity)) :
    countSummary check total counts ≠ wellSummary check total' := by
  intro heq
  have hlast := congrArg (fun s : String => s.toList.getLast?) heq
  unfold countSummary wellSummary at hlast
  simp only [String.toList_append] at hlast
  rw [List.getLast?_append_of_ne_nil _ (by decide), List.getLast?_append_of_ne_nil _ (by decide)]
    at hlast
  exact absurd hlast (by decide)

/-! ## The last line -/

/-- Where something was judged, the last line has the number of objects that are well. -/
theorem text_of_judged (h : o.judgements ≠ []) (collectedAt : Timestamp) :
    ∃ above, (ofOutcome o collectedAt).text
      = above ++ "\n" ++ toString (o.count .ok) ++ " object(s) OK" := by
  -- Whatever is not shown is well.
  have hwell : (ofOutcome o collectedAt).evaluated - (ofOutcome o collectedAt).findings.length
      = o.count .ok := by
    show o.judgements.length - (findingsOf o).length = _
    rw [length_findingsOf, length_findings, ← (countP_severities o.judgements).2,
      Nat.add_sub_cancel_left]
    rfl
  have hevaluated : (ofOutcome o collectedAt).evaluated ≠ 0 := fun hzero =>
    h (List.eq_nil_of_length_eq_zero hzero)
  unfold text lines
  rw [if_neg (by simp [hevaluated]), hwell, String.intercalate_append_of_ne_nil (by simp) (by simp)]
  rw [String.intercalate_singleton]
  exact ⟨_, (String.append_assoc ..).symm⟩

/-- Where nothing was judged, the first line is all. -/
theorem text_of_unjudged (h : o.judgements = []) (collectedAt : Timestamp) :
    (ofOutcome o collectedAt).text = o.overall.text ++ ": " ++ summarize o := by
  have hfindings : findingsOf o = [] := by
    rw [← List.length_eq_zero_iff, length_findingsOf, findings_eq, h]
    rfl
  unfold text lines ofOutcome
  rw [hfindings, h]
  simp

/-- **A report gives a true account.** Whatever a tally has closed to, be it with objects judged `unknown`,
its report shows exactly the problems, each of them once, worst first and equally bad ones as they came; its
state is that of the first of them, or `ok` if there is none; its summary lists the counts of the problems,
which add up to the number shown, or says that all is well; and the number at the end of its text is that of
the objects that are well. -/
theorem accountsFor_of_close {check : String} {history : List Tally.Step}
    (hclose : (Tally.after check history).close = .ok o) (collectedAt : Timestamp) :
    (ofOutcome o collectedAt).AccountsFor o := by
  have hworst := Tally.isWorstOf_overall_of_close hclose
  have hok := overall_eq_ok_iff hworst
  refine {
    shows := shows_findingsOf o
    state_eq_ok_iff := hok
    state_eq_head := fun f hhead => overall_eq_head hworst hhead
    summary_iff := ⟨?_, ?_⟩
    summary_of_well := fun hnil => summarize_of_ok (hok.2 hnil)
    summary_of_findings := fun hfindings => ?_
    text_of_judged := fun hne => text_of_judged hne collectedAt
    text_of_unjudged := fun hnil => text_of_unjudged hnil collectedAt }
  · rintro ⟨total, hsummary⟩
    by_contra hfindings
    -- With findings the summary lists counts, and no list of counts is the summary of none.
    have hlisted := summarize_of_ne_ok fun hoverall => hfindings (hok.1 hoverall)
    exact countSummary_ne_wellSummary _ _ _ _ (hlisted.symm.trans hsummary)
  · intro hnil
    exact ⟨_, summarize_of_ok (hok.2 hnil)⟩
  · have hlisted := summarize_of_ne_ok fun hoverall => hfindings (hok.1 hoverall)
    exact ⟨countsOf o, counts_countsOf o, hlisted, sum_countsOf o⟩

/-! ## A mixed outcome

Machines of every severity, the worst of them neither first nor last. -/

/-- Five machines, of which one is well and two are in a warning state. -/
def mixedHistory : List Tally.Step :=
  let machine (id : String) : ObjectRef := ⟨.virtualMachine, id, id⟩
  let judged (id : String) (severity : Severity) : Tally.Step :=
    .record ⟨⟨.absent, severity, "seen"⟩, machine id⟩
  [.expect (machine "a"), .expect (machine "b"), .expect (machine "c"), .expect (machine "d"),
    .expect (machine "e"), judged "a" .warning, judged "b" .unknown, judged "c" .ok,
    judged "d" .critical, judged "e" .warning]

/-- The worst of them is the one that is left undecided, and nothing is lost in the counts. -/
theorem mixedHistory_accounted :
    ∃ o, (Tally.after "tools" mixedHistory).close = .ok o ∧
      (ofOutcome o PreparedRun.pairedSite.collectedAt).AccountsFor o ∧
      o.overall = .unknown ∧
      summarize o
        = "1 UNKNOWN, 1 CRITICAL, 2 WARNING of 5 objects evaluated by check 'tools'" := by
  have hclosed : (Tally.after "tools" mixedHistory).close.map (fun o => (o.overall, summarize o))
      = .ok (.unknown,
        "1 UNKNOWN, 1 CRITICAL, 2 WARNING of 5 objects evaluated by check 'tools'") := by
    decide +kernel
  obtain ⟨o, hclose, hparts⟩ := map_eq_ok_iff.1 hclosed
  obtain ⟨hoverall, hsummary⟩ := Prod.mk.inj hparts
  exact ⟨o, hclose, accountsFor_of_close hclose _, hoverall, hsummary⟩

end Report

end InventoryProbe
