import Mathlib.Data.List.Induction
import InventoryProbe.Proofs.Severity
import InventoryProbe.Tally

/-!
# What a tally knows of its history

A tally is made by calls in any order: objects are expected, judgements are recorded. This module
says what of these calls can be read off the tally they lead to.

* **`InScope`**: every judged object had been expected by the time it was judged. A judgement made
  too early stays a stray, also if its object is expected later.
* **`Reflects`**: the invariant that ties the counts, the judgements and the strays of a tally to its
  history. Neither the counts nor the strays alone say how often an object was judged; together
  they do.
* **`reflects_after`**: it holds after every history, since each call preserves it.
-/

namespace InventoryProbe

namespace Tally

/-! ## Histories -/

/-- A call made on a tally. -/
inductive Step where
  | expect (object : ObjectRef)
  | record (judgement : Judgement)

/-- The judgement that a call records, if it is one that records. -/
def Step.judgement? : Step → Option Judgement
  | .expect _ => none
  | .record j => some j

/-- The tally after one more call. -/
def step (t : Tally) : Step → Tally
  | .expect object => t.expect object
  | .record j => t.record j

/-- The tally of a check after the calls of a history. -/
def after (check : String) (history : List Step) : Tally := history.foldl step (empty check)

/-- The judgements recorded in a history, in order. -/
def recorded (history : List Step) : List Judgement := history.filterMap Step.judgement?

/-- How often an object was judged. -/
def timesJudged (history : List Step) (object : ObjectRef) : Nat :=
  (recorded history).countP (·.object = object)

/-- Every judged object had been expected by the time it was judged. -/
def InScope (history : List Step) : Prop :=
  ∀ before j, before ++ [.record j] <+: history → .expect j.object ∈ before

/-- The object of the first judgement that was made of an object not expected by then. -/
def FirstStray (history : List Step) (object : ObjectRef) : Prop :=
  ∃ before j, before ++ [.record j] <+: history ∧ InScope before ∧ .expect j.object ∉ before ∧
    j.object = object

@[simp] theorem after_nil (check : String) : after check [] = empty check := rfl

theorem after_append (check : String) (before rest : List Step) :
    after check (before ++ rest) = rest.foldl step (after check before) := List.foldl_append

theorem after_snoc (check : String) (history : List Step) (s : Step) :
    after check (history ++ [s]) = (after check history).step s := after_append check history [s]

@[simp] theorem recorded_nil : recorded [] = [] := rfl

/-- To expect an object records nothing. -/
@[simp] theorem recorded_snoc_expect (history : List Step) (object : ObjectRef) :
    recorded (history ++ [.expect object]) = recorded history := by
  simp [recorded, Step.judgement?]

/-- A judgement is recorded behind all others. -/
@[simp] theorem recorded_snoc_record (history : List Step) (j : Judgement) :
    recorded (history ++ [.record j]) = recorded history ++ [j] := by
  simp [recorded, Step.judgement?]

/-- To expect an object judges none. -/
@[simp] theorem timesJudged_snoc_expect (history : List Step) (expected object : ObjectRef) :
    timesJudged (history ++ [.expect expected]) object = timesJudged history object := by
  simp [timesJudged]

/-- A judgement counts for its own object. -/
@[simp] theorem timesJudged_snoc_record (history : List Step) (j : Judgement)
    (object : ObjectRef) :
    timesJudged (history ++ [.record j]) object
      = timesJudged history object + if j.object = object then 1 else 0 := by
  simp [timesJudged, List.countP_append, List.countP_cons]

/-! ## One more call

A judgement in `history ++ [s]` was either made in `history`, with the same calls before it, or it
is `s` itself. -/

/-- A judgement in a history with one more step is that step, or was there before. -/
theorem record_prefix_snoc_iff {before history : List Step} {j : Judgement} {s : Step} :
    before ++ [.record j] <+: history ++ [s] ↔
      before = history ∧ .record j = s ∨ before ++ [.record j] <+: history := by
  rw [List.prefix_concat_iff]
  constructor
  · rintro (heq | hpre)
    · exact Or.inl (by simpa using List.append_inj' heq rfl)
    · exact Or.inr hpre
  · rintro (⟨rfl, rfl⟩ | hpre)
    · exact Or.inl rfl
    · exact Or.inr hpre

theorem inScope_nil : InScope [] := by
  intro before j h
  simpa using h.length_le

/-- To expect one more object puts nothing out of scope. -/
theorem inScope_snoc_expect {history : List Step} {object : ObjectRef} :
    InScope (history ++ [.expect object]) ↔ InScope history := by
  unfold InScope
  simp [record_prefix_snoc_iff]

/-- A judgement is in scope if its object was expected before. -/
theorem inScope_snoc_record {history : List Step} {j : Judgement} :
    InScope (history ++ [.record j]) ↔ InScope history ∧ .expect j.object ∈ history := by
  constructor
  · intro h
    refine ⟨fun before i hpre => h before i ?_, h history j List.prefix_rfl⟩
    exact hpre.trans (List.prefix_append history _)
  · rintro ⟨hscope, hmem⟩ before i hpre
    -- A judgement of the longer history is the last one or was there before.
    rcases record_prefix_snoc_iff.1 hpre with ⟨rfl, heq⟩ | hpre
    · cases heq
      exact hmem
    · exact hscope before i hpre

theorem firstStray_nil {object : ObjectRef} : ¬ FirstStray [] object := by
  rintro ⟨before, j, hpre, -⟩
  simpa using hpre.length_le

/-- To expect one more object makes no stray, and takes none back. -/
theorem firstStray_snoc_expect {history : List Step} {expected object : ObjectRef} :
    FirstStray (history ++ [.expect expected]) object ↔ FirstStray history object := by
  unfold FirstStray
  simp [record_prefix_snoc_iff]

/-- A judgement on an object that was not expected is the first stray, unless there was one before. -/
theorem firstStray_snoc_record {history : List Step} {j : Judgement} {object : ObjectRef} :
    FirstStray (history ++ [.record j]) object ↔
      FirstStray history object
        ∨ InScope history ∧ .expect j.object ∉ history ∧ j.object = object := by
  constructor
  · rintro ⟨before, i, hpre, hscope, hmem, hobject⟩
    -- The stray is the new judgement, or one from before.
    rcases record_prefix_snoc_iff.1 hpre with ⟨rfl, heq⟩ | hpre
    · cases heq
      exact Or.inr ⟨hscope, hmem, hobject⟩
    · exact Or.inl ⟨before, i, hpre, hscope, hmem, hobject⟩
  · rintro (⟨before, i, hpre, hstray⟩ | hstray)
    · exact ⟨before, i, hpre.trans (List.prefix_append history _), hstray⟩
    · exact ⟨history, j, List.prefix_rfl, hstray⟩

/-! ## The invariant -/

/-- That a tally says of a history what it can. -/
structure Reflects (t : Tally) (check : String) (history : List Step) : Prop where
  check_eq : t.check = check
  judgements_eq : t.judgements = (recorded history).reverse
  mem_expected : ∀ object, object ∈ t.expected ↔ .expect object ∈ history
  /-- What is missing in the count of an object that was expected late is among the strays. -/
  counted : ∀ object,
    t.expected.getD object 0 + t.strays.count object = timesJudged history object
  strays_eq_nil : t.strays = [] ↔ InScope history
  first_stray : ∀ object, t.strays.getLast? = some object ↔ FirstStray history object

/-- The empty tally reflects the empty history. -/
theorem reflects_empty (check : String) : (empty check).Reflects check [] where
  check_eq := rfl
  judgements_eq := rfl
  mem_expected := by simp [empty]
  counted := by simp [empty, timesJudged]
  strays_eq_nil := iff_of_true rfl inScope_nil
  first_stray _ := iff_of_false (by simp [empty]) firstStray_nil

/-- A tally goes on reflecting its history when an object is expected. -/
theorem Reflects.expect {t : Tally} {check : String} {history : List Step}
    (h : t.Reflects check history) (object : ObjectRef) :
    (t.expect object).Reflects check (history ++ [.expect object]) where
  check_eq := h.check_eq
  judgements_eq := by rw [recorded_snoc_expect]; exact h.judgements_eq
  mem_expected other := by
    have hold := h.mem_expected other
    simp only [Tally.expect, Std.ExtTreeMap.mem_insertIfNew, Std.compare_eq_iff_eq, List.mem_append,
      List.mem_singleton, Step.expect.injEq, hold]
    exact ⟨fun hor => hor.symm.imp_right Eq.symm, fun hor => hor.symm.imp_left Eq.symm⟩
  counted other := by
    have hcount : (t.expect object).expected.getD other 0 = t.expected.getD other 0 := by
      -- An object that was not expected before had count zero by default, and has it now.
      simp only [Tally.expect, Std.ExtTreeMap.getD_insertIfNew, Std.compare_eq_iff_eq]
      split
      · next hnew =>
        obtain ⟨rfl, hnot⟩ := hnew
        rw [Std.ExtTreeMap.getD_eq_fallback hnot]
      · rfl
    rw [timesJudged_snoc_expect, hcount]
    exact h.counted other
  strays_eq_nil := h.strays_eq_nil.trans inScope_snoc_expect.symm
  first_stray other := (h.first_stray other).trans firstStray_snoc_expect.symm

theorem Reflects.record {t : Tally} {check : String} {history : List Step}
    (h : t.Reflects check history) (j : Judgement) :
    (t.record j).Reflects check (history ++ [.record j]) := by
  have hmem := h.mem_expected j.object
  unfold Tally.record
  cases hget : t.expected[j.object]? with
  | some count =>
    have hexpected : .expect j.object ∈ history :=
      hmem.1 (Std.ExtTreeMap.mem_iff_isSome_getElem?.2 (by simp [hget]))
    refine ⟨h.check_eq, ?_, fun other => ?_, fun other => ?_, ?_, fun other => ?_⟩
    · simp [h.judgements_eq]
    · have hold := h.mem_expected other
      simp only [Std.ExtTreeMap.mem_insert, Std.compare_eq_iff_eq, List.mem_append,
        List.mem_singleton, reduceCtorEq, or_false, hold]
      exact or_iff_right_of_imp fun heq => heq ▸ hexpected
    · have hold := h.counted other
      rw [timesJudged_snoc_record]
      simp only [Std.ExtTreeMap.getD_insert, Std.compare_eq_iff_eq]
      split
      · next heq =>
        subst heq
        rw [Std.ExtTreeMap.getD_eq_getD_getElem?, hget, Option.getD_some] at hold
        omega
      · exact hold
    · rw [inScope_snoc_record]
      exact h.strays_eq_nil.trans (and_iff_left hexpected).symm
    · rw [firstStray_snoc_record]
      exact (h.first_stray other).trans (or_iff_left fun hlast => hlast.2.1 hexpected).symm
  | none =>
    have hunexpected : .expect j.object ∉ history := fun hin => by
      have hsome := Std.ExtTreeMap.mem_iff_isSome_getElem?.1 (hmem.2 hin)
      simp [hget] at hsome
    refine ⟨h.check_eq, ?_, fun other => ?_, fun other => ?_, ?_, fun other => ?_⟩
    · simp [h.judgements_eq]
    · simp [h.mem_expected other]
    · have hold := h.counted other
      rw [timesJudged_snoc_record, List.count_cons]
      simp only [beq_iff_eq]
      omega
    · rw [inScope_snoc_record]
      exact iff_of_false (List.cons_ne_nil _ _) fun hboth => hunexpected hboth.2
    · rw [firstStray_snoc_record, ← h.first_stray other, ← h.strays_eq_nil]
      -- The new stray is the first one only if there was none before it.
      cases hstrays : t.strays with
      | nil => simp [hunexpected]
      | cons first rest => simp [hunexpected]

/-- Every call preserves the invariant. -/
theorem Reflects.step {t : Tally} {check : String} {history : List Step}
    (h : t.Reflects check history) (s : Step) :
    (t.step s).Reflects check (history ++ [s]) := by
  cases s with
  | expect object => exact h.expect object
  | record j => exact h.record j

/-- A tally reflects the history that led to it. Induction on the history from its end, since a tally
grows there. -/
theorem reflects_after (check : String) (history : List Step) :
    (after check history).Reflects check history := by
  induction history using List.reverseRecOn with
  | nil => exact reflects_empty check
  | append_singleton history s ih =>
    rw [after_snoc]
    exact ih.step s

end Tally

end InventoryProbe
