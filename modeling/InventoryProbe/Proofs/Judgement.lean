import Mathlib.Data.List.Nodup
import InventoryProbe.Judgement
import InventoryProbe.Proofs.Severity

/-!
# Judgements compared

Two lists of judgements, made of some objects and of more objects, or of the same objects by a milder
measure.
-/

namespace InventoryProbe

namespace Judgement

/-- That every judgement of `fewer` has one on the same object in `more` that is no milder. -/
def NoWorse (fewer more : List Judgement) : Prop :=
  ∀ j ∈ fewer, ∃ i ∈ more, i.object = j.object ∧ j.severity ≤ i.severity

variable {fewer more : List Judgement}

/-- No object is judged among fewer judgements that is not judged among more. -/
theorem NoWorse.mem_objects (h : NoWorse fewer more) {j : Judgement} (hj : j ∈ fewer) :
    j.object ∈ more.map (·.object) := by
  obtain ⟨i, hi, hobject, -⟩ := h j hj
  exact List.mem_map.2 ⟨i, hi, hobject⟩

/-- Where no object is judged twice, any two judgements on one object compare. -/
theorem NoWorse.severity_le (h : NoWorse fewer more) (hnodup : (more.map (·.object)).Nodup)
    {j i : Judgement} (hj : j ∈ fewer) (hi : i ∈ more) (hobject : i.object = j.object) :
    j.severity ≤ i.severity := by
  obtain ⟨i', hi', hobject', hle⟩ := h j hj
  -- One object has one judgement among the more, so both are the same.
  have hsame : i' = i := List.inj_on_of_nodup_map hnodup hi' hi (hobject'.trans hobject.symm)
  rwa [hsame] at hle

/-- Fewer judgements are no worse as a whole. -/
theorem NoWorse.worstOf_le (h : NoWorse fewer more) :
    Severity.worstOf (fewer.map (·.severity)) ≤ Severity.worstOf (more.map (·.severity)) := by
  rw [Severity.worstOf_le_iff, List.forall_mem_map]
  intro j hj
  obtain ⟨i, hi, -, hle⟩ := h j hj
  have hworst : i.severity ≤ Severity.worstOf (more.map (·.severity)) :=
    Severity.le_worstOf (List.mem_map_of_mem hi)
  exact Severity.le_trans hle hworst

end Judgement

/-! ## The same observations -/

/-- That a verdict is on the observation of another, and is no worse. -/
structure Verdict.Eases (v w : Verdict) : Prop where
  observed_eq : v.observed = w.observed
  severity_le : v.severity ≤ w.severity

protected theorem Verdict.Eases.refl (v : Verdict) : v.Eases v := ⟨rfl, Severity.le_refl _⟩

namespace Judgement

/-- That a judgement is on the object and the observation of another, and is no worse. -/
structure Eases (j i : Judgement) : Prop where
  object_eq : j.object = i.object
  verdict : j.toVerdict.Eases i.toVerdict

variable {milder worse : List Judgement}

/-- Judgements that ease others are on the same objects, in the same order. -/
theorem objects_eq_of_eases (h : List.Forall₂ Eases milder worse) :
    milder.map (·.object) = worse.map (·.object) := by
  induction h with
  | nil => rfl
  | cons hj _ ih => rw [List.map_cons, List.map_cons, hj.object_eq, ih]

theorem NoWorse.of_eases (h : List.Forall₂ Eases milder worse) : NoWorse milder worse := by
  induction h with
  | nil => exact fun _ hj => absurd hj List.not_mem_nil
  | @cons j i _ _ hj _ ih =>
    intro k hk
    rcases List.mem_cons.1 hk with rfl | hk
    · exact ⟨i, List.mem_cons_self, hj.object_eq.symm, hj.verdict.severity_le⟩
    · obtain ⟨i', hi', hobject, hle⟩ := ih k hk
      exact ⟨i', List.mem_cons_of_mem i hi', hobject, hle⟩

end Judgement

end InventoryProbe
