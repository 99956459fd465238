import InventoryProbe.Proofs.Severity
import InventoryProbe.Report.Basic

/-!
# The order of findings

A report shows the findings of an outcome by severity, worst first, so that the severities alone say
which of two findings stands first, unless they are equally bad.

* **`findingsOf_perm`**, **`findingsOf_sorted`**: the findings are those of the outcome, by severity.
* **`findingsOf_filter_severity`**: those of one severity are in the order of the outcome.
* **`precedes_iff_of_sorted`**: which of two findings that are not equally bad stands first.
* **`reordered_ofOutcome`**: the same judgements in another order make a report that differs in the
  order of equally bad findings only.
-/

namespace InventoryProbe

namespace Report

/-! ## Sorted findings -/

/-- That every finding is at least as bad as those after it. -/
def WorstFirst (findings : List Finding) : Prop :=
  findings.Pairwise fun f g => g.judgement.severity ≤ f.judgement.severity

/-- That one finding stands somewhere before another. -/
def Precedes (findings : List Finding) (f g : Finding) : Prop := [f, g].Sublist findings

/-- The findings are those of the outcome, each once, in some order. -/
theorem findingsOf_perm (o : Outcome) :
    (findingsOf o).Perm (o.findings.map fun j => ⟨FindingId.of o.check j.object, j⟩) :=
  List.mergeSort_perm _ _

/-- The order in which findings are sorted: one that is no milder may stand first. -/
theorem noMilder_trans (f g k : Finding)
    (hfg : decide (g.judgement.severity ≤ f.judgement.severity) = true)
    (hgk : decide (k.judgement.severity ≤ g.judgement.severity) = true) :
    decide (k.judgement.severity ≤ f.judgement.severity) = true :=
  decide_eq_true (Severity.le_trans (of_decide_eq_true hgk) (of_decide_eq_true hfg))

/-- Of any two findings one is no milder than the other. -/
theorem noMilder_total (f g : Finding) :
    (decide (g.judgement.severity ≤ f.judgement.severity)
      || decide (f.judgement.severity ≤ g.judgement.severity)) = true := by
  rcases Severity.le_total g.judgement.severity f.judgement.severity with hle | hle
  · simp [hle]
  · simp [hle]

theorem findingsOf_sorted (o : Outcome) : WorstFirst (findingsOf o) :=
  (List.pairwise_mergeSort noMilder_trans noMilder_total _).imp of_decide_eq_true

/-- Sorting is stable: equally bad findings stay in order. -/
theorem findingsOf_filter_severity (o : Outcome) (s : Severity) :
    (findingsOf o).filter (·.judgement.severity = s)
      = (o.findings.map fun j => ⟨FindingId.of o.check j.object, j⟩).filter
          (·.judgement.severity = s) := by
  obtain ⟨found, hfound⟩ : ∃ found : List Finding,
      found = o.findings.map fun j => ⟨FindingId.of o.check j.object, j⟩ := ⟨_, rfl⟩
  have hperm : (findingsOf o).Perm found := hfound ▸ findingsOf_perm o
  -- Those of one severity are in order already, and so are not parted by the sorting.
  have hsorted : (found.filter (·.judgement.severity = s)).Pairwise fun f g =>
      decide (g.judgement.severity ≤ f.judgement.severity) = true := by
    apply List.pairwise_of_forall_mem_list
    intro f hf g hg
    have hfs : f.judgement.severity = s := of_decide_eq_true (List.mem_filter.1 hf).2
    have hgs : g.judgement.severity = s := of_decide_eq_true (List.mem_filter.1 hg).2
    rw [hfs, hgs]
    exact decide_eq_true (Severity.le_refl s)
  have hsublist : (found.filter (·.judgement.severity = s)).Sublist (findingsOf o) := by
    unfold findingsOf
    rw [← hfound]
    exact List.sublist_mergeSort noMilder_trans noMilder_total hsorted List.filter_sublist
  have hkept := hsublist.filter (·.judgement.severity = s)
  rw [List.filter_filter] at hkept
  simp only [Bool.and_self] at hkept
  rw [← hfound]
  exact (hkept.eq_of_length (hperm.filter _).length_eq.symm).symm

/-- Of two members of a list, one stands before the other. -/
theorem pair_sublist_or_of_mem {α : Type} {l : List α} {a b : α} (ha : a ∈ l) (hb : b ∈ l)
    (hne : a ≠ b) : [a, b].Sublist l ∨ [b, a].Sublist l := by
  obtain ⟨before, after, rfl⟩ := List.append_of_mem ha
  -- The one is before the other or behind it.
  rcases List.mem_append.1 hb with hbefore | hafter
  · right
    have hfirst : [b].Sublist before := List.singleton_sublist.2 hbefore
    have hsecond : [a].Sublist (a :: after) := List.singleton_sublist.2 List.mem_cons_self
    exact hfirst.append hsecond
  · left
    have hb' : b ∈ after := (List.mem_cons.1 hafter).resolve_left (Ne.symm hne)
    have hpair : [a, b].Sublist (a :: after) := (List.singleton_sublist.2 hb').cons_cons a
    exact hpair.trans (List.sublist_append_right before _)

/-- Of two findings that are not equally bad, the worse one stands first. -/
theorem precedes_iff_of_sorted {findings : List Finding} (hsorted : WorstFirst findings)
    {f g : Finding} (hne : f.judgement.severity ≠ g.judgement.severity) :
    Precedes findings f g ↔
      f ∈ findings ∧ g ∈ findings ∧ g.judgement.severity ≤ f.judgement.severity := by
  unfold WorstFirst at hsorted
  rw [List.pairwise_iff_forall_sublist] at hsorted
  constructor
  · intro hpre
    have hmem : ∀ k ∈ [f, g], k ∈ findings := fun k hk => hpre.subset hk
    exact ⟨hmem f (by simp), hmem g (by simp), hsorted hpre⟩
  · rintro ⟨hf, hg, hle⟩
    have hdistinct : f ≠ g := fun heq => hne (congrArg (·.judgement.severity) heq)
    rcases pair_sublist_or_of_mem hf hg hdistinct with hpre | hpost
    · exact hpre
    · -- Then they would be equally bad.
      have hge : f.judgement.severity ≤ g.judgement.severity := hsorted hpost
      exact absurd (Severity.le_antisymm hge hle) hne

/-! ## Judgements in another order -/

/-- That two reports differ in nothing but the order of equally bad findings. -/
structure Reordered (a b : Report) : Prop where
  check_eq : a.check = b.check
  collectedAt_eq : a.collectedAt = b.collectedAt
  state_eq : a.state = b.state
  exitCode_eq : a.exitCode = b.exitCode
  summary_eq : a.summary = b.summary
  evaluated_eq : a.evaluated = b.evaluated
  findings_perm : a.findings.Perm b.findings
  precedes_iff : ∀ f g, f.judgement.severity ≠ g.judgement.severity →
    (Precedes a.findings f g ↔ Precedes b.findings f g)

variable {a b : Outcome}

/-- The summary does not tell in which order objects were judged. -/
theorem summarize_eq_of_perm (hcheck : a.check = b.check) (hoverall : a.overall = b.overall)
    (hperm : a.judgements.Perm b.judgements) : summarize a = summarize b := by
  have hcount : a.count = b.count := by
    funext s
    exact hperm.countP_eq _
  unfold summarize countTexts
  rw [hcheck, hoverall, hcount, hperm.length_eq]

/-- The same judgements in another order make the same findings in some order. -/
theorem findingsOf_perm_of_perm (hcheck : a.check = b.check)
    (hperm : a.judgements.Perm b.judgements) : (findingsOf a).Perm (findingsOf b) := by
  have hfindings : a.findings.Perm b.findings := hperm.filter _
  have hnamed := hfindings.map fun j => (⟨FindingId.of b.check j.object, j⟩ : Finding)
  have ha := findingsOf_perm a
  rw [hcheck] at ha
  exact (ha.trans hnamed).trans (findingsOf_perm b).symm

/-- The same judgements in another order make the same report, but for the order of findings that are
equally bad. -/
theorem reordered_ofOutcome (hcheck : a.check = b.check) (hoverall : a.overall = b.overall)
    (hperm : a.judgements.Perm b.judgements) (collectedAt : Timestamp) :
    (ofOutcome a collectedAt).Reordered (ofOutcome b collectedAt) := by
  have hfindings := findingsOf_perm_of_perm hcheck hperm
  refine {
    check_eq := hcheck
    collectedAt_eq := rfl
    state_eq := hoverall
    exitCode_eq := congrArg Severity.exitCode hoverall
    summary_eq := summarize_eq_of_perm hcheck hoverall hperm
    evaluated_eq := hperm.length_eq
    findings_perm := hfindings
    precedes_iff := fun f g hne => ?_ }
  -- Of two findings that are not equally bad the worse one comes first, wherever both are.
  show Precedes (findingsOf a) f g ↔ Precedes (findingsOf b) f g
  rw [precedes_iff_of_sorted (findingsOf_sorted a) hne,
    precedes_iff_of_sorted (findingsOf_sorted b) hne, hfindings.mem_iff, hfindings.mem_iff]

end Report

end InventoryProbe
