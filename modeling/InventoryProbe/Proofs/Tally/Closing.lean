import Mathlib.Data.List.Nodup
import InventoryProbe.Proofs.Tally.History

/-!
# How a tally closes

What a tally closes to is settled by its history alone: by the first stray if there is one, else by
the least expected object that was not judged exactly once, and only if there is none of either it
is the outcome.

* **`Faulty`**: the faults that a history leads to, told from the calls and not from the tally.
* **`close_of_firstStray`**, **`close_of_firstMiscounted`**, **`close_of_judgedOnce`**: what a
  tally closes to in each of the three cases, which **`closing_cases`** shows to be all there are.
* **`reconcile_eq_ok_iff`**: judgements that are made of exactly the objects of a scope, in its
  order, close to an outcome exactly if the scope names nothing twice.
-/

namespace InventoryProbe

namespace Tally

/-! ## Histories that close -/

/-- Every expected object was judged exactly once. -/
def JudgedOnce (history : List Step) : Prop :=
  ∀ object, .expect object ∈ history → timesJudged history object = 1

/-- The least expected object, in the order of references, that was not judged exactly once. -/
structure FirstMiscounted (history : List Step) (object : ObjectRef) : Prop where
  expected : .expect object ∈ history
  miscounted : timesJudged history object ≠ 1
  least : ∀ other, .expect other ∈ history → timesJudged history other ≠ 1 →
    (compare object other).isLE

/-- The fault that a miscounted object makes. -/
def miscount (check : String) (object : ObjectRef) : Nat → EvaluationFault
  | 0 => .gap check object
  | count => .duplicate check object count

/-- The faults that a history leads to. Strays come first, whatever the counts are. -/
inductive Faulty (check : String) (history : List Step) : EvaluationFault → Prop where
  | stray {object : ObjectRef} (first : FirstStray history object) :
    Faulty check history (.stray check object)
  | miscount {object : ObjectRef} (inScope : InScope history)
      (first : FirstMiscounted history object) :
    Faulty check history (miscount check object (timesJudged history object))

/-! ## The first miscounted object

The counts stand in ascending order of their objects, so the one that is found first is the least. -/

/-- A tally without strays has each expected object with the number of its judgements. -/
theorem Reflects.getElem?_eq_some_iff {t : Tally} {check : String} {history : List Step}
    (h : t.Reflects check history) (hscope : InScope history) {object : ObjectRef} {count : Nat} :
    t.expected[object]? = some count ↔
      .expect object ∈ history ∧ timesJudged history object = count := by
  -- Without strays the counters count all judgements.
  have hcounted := h.counted object
  rw [h.strays_eq_nil.2 hscope, List.count_nil, Nat.add_zero] at hcounted
  rw [← hcounted, ← h.mem_expected object, Std.ExtTreeMap.getD_eq_getD_getElem?,
    Std.ExtTreeMap.mem_iff_isSome_getElem?]
  cases t.expected[object]? with
  | none => simp
  | some n => simp

/-- The miscounted objects are those that the search for the first one can meet. -/
theorem Reflects.mem_toList_iff {t : Tally} {check : String} {history : List Step}
    (h : t.Reflects check history) (hscope : InScope history) {entry : ObjectRef × Nat} :
    entry ∈ t.expected.toList ↔
      .expect entry.1 ∈ history ∧ timesJudged history entry.1 = entry.2 := by
  rw [← h.getElem?_eq_some_iff hscope, ← Std.ExtTreeMap.mem_toList_iff_getElem?_eq_some]

/-- No count is wrong exactly if each expected object was judged once. -/
theorem Reflects.find?_eq_none_iff {t : Tally} {check : String} {history : List Step}
    (h : t.Reflects check history) (hscope : InScope history) :
    t.expected.toList.find? (·.2 != 1) = none ↔ JudgedOnce history := by
  rw [List.find?_eq_none]
  constructor
  · intro hall object hexpected
    simpa using hall (object, timesJudged history object)
      ((h.mem_toList_iff hscope).2 ⟨hexpected, rfl⟩)
  · intro hall entry hmem
    obtain ⟨hexpected, hcount⟩ := (h.mem_toList_iff hscope).1 hmem
    simpa [hcount] using hall entry.1 hexpected

/-- The first wrong count that is found is that of the smallest object which is miscounted, for counts are
gone through in the order of the objects. -/
theorem Reflects.firstMiscounted_of_find? {t : Tally} {check : String} {history : List Step}
    (h : t.Reflects check history) (hscope : InScope history) {entry : ObjectRef × Nat}
    (hfind : t.expected.toList.find? (·.2 != 1) = some entry) :
    FirstMiscounted history entry.1 ∧ timesJudged history entry.1 = entry.2 := by
  obtain ⟨hne, before, rest, hsplit, hbefore⟩ := List.find?_eq_some_iff_append.1 hfind
  obtain ⟨hexpected, hcount⟩ :=
    (h.mem_toList_iff hscope).1 (List.mem_of_find?_eq_some hfind)
  refine ⟨⟨hexpected, by simpa [hcount] using hne, fun other hother hmiscounted => ?_⟩, hcount⟩
  have hmem : (other, timesJudged history other) ∈ before ++ entry :: rest :=
    hsplit ▸ (h.mem_toList_iff hscope).2 ⟨hother, rfl⟩
  rcases List.mem_append.1 hmem with hin | hin
  · -- What stands in front of the entry was judged once.
    exact absurd (by simpa using hbefore _ hin) hmiscounted
  · rcases List.mem_cons.1 hin with rfl | hin
    · simp
    · have hordered := t.expected.ordered_keys_toList
      rw [hsplit, List.pairwise_append] at hordered
      simp [(List.pairwise_cons.1 hordered.2.1).1 _ hin]

/-- There is no more than one first miscounted object. -/
theorem FirstMiscounted.unique {history : List Step} {a b : ObjectRef}
    (ha : FirstMiscounted history a) (hb : FirstMiscounted history b) : a = b :=
  Std.compare_eq_iff_eq.1 <| Std.OrientedCmp.isLE_antisymm
    (ha.least b hb.expected hb.miscounted) (hb.least a ha.expected ha.miscounted)

/-! ## The three cases -/

variable {t : Tally} {check : String} {history : List Step}

/-- A stray is reported in front of any wrong count. -/
theorem Reflects.close_of_firstStray (h : t.Reflects check history) {object : ObjectRef}
    (hstray : FirstStray history object) : t.close = .error (.stray check object) := by
  unfold close
  rw [(h.first_stray object).2 hstray, h.check_eq]

/-- Without strays, what was found among the counts decides. -/
theorem Reflects.close_of_inScope (h : t.Reflects check history) (hscope : InScope history) :
    t.close = match t.expected.toList.find? (·.2 != 1) with
      | some (object, count) => .error (miscount check object count)
      | none => .ok ⟨check, .worstOf ((recorded history).map (·.severity)), recorded history⟩ := by
  -- Strays would be reported first.
  have hlast : t.strays.getLast? = none := by
    rw [h.strays_eq_nil.2 hscope, List.getLast?_nil]
  unfold close
  rw [hlast, h.check_eq, h.judgements_eq, List.reverse_reverse]
  cases t.expected.toList.find? (·.2 != 1) with
  | none => rfl
  | some entry =>
    obtain ⟨object, count⟩ := entry
    cases count with
    | zero => rfl
    | succ n => rfl

/-- Without strays the smallest object that is miscounted is reported, with its count. -/
theorem Reflects.close_of_firstMiscounted (h : t.Reflects check history)
    (hscope : InScope history) {object : ObjectRef} (hfirst : FirstMiscounted history object) :
    t.close = .error (miscount check object (timesJudged history object)) := by
  rw [h.close_of_inScope hscope]
  cases hfind : t.expected.toList.find? (·.2 != 1) with
  | none =>
    exact absurd ((h.find?_eq_none_iff hscope).1 hfind object hfirst.expected) hfirst.miscounted
  | some entry =>
    obtain ⟨hentry, hcount⟩ := h.firstMiscounted_of_find? hscope hfind
    rw [hfirst.unique hentry, hcount]

/-- Where nothing is to be reported, the outcome has all judgements in the order in which they came. -/
theorem Reflects.close_of_judgedOnce (h : t.Reflects check history) (hscope : InScope history)
    (honce : JudgedOnce history) :
    t.close = .ok ⟨check, .worstOf ((recorded history).map (·.severity)), recorded history⟩ := by
  rw [h.close_of_inScope hscope, (h.find?_eq_none_iff hscope).2 honce]

/-- A history has a first stray, or a first miscounted object, or closes to an outcome. -/
theorem closing_cases (history : List Step) :
    (∃ object, FirstStray history object)
      ∨ (InScope history ∧ ∃ object, FirstMiscounted history object)
      ∨ (InScope history ∧ JudgedOnce history) := by
  -- The tally of the history decides. The name of its check plays no part.
  have h := reflects_after "" history
  cases hlast : (after "" history).strays.getLast? with
  | some object => exact Or.inl ⟨object, (h.first_stray object).1 hlast⟩
  | none =>
    have hscope : InScope history := h.strays_eq_nil.1 (List.getLast?_eq_none_iff.1 hlast)
    cases hfind : (after "" history).expected.toList.find? (·.2 != 1) with
    | some entry => exact Or.inr (Or.inl ⟨hscope, _, (h.firstMiscounted_of_find? hscope hfind).1⟩)
    | none => exact Or.inr (Or.inr ⟨hscope, (h.find?_eq_none_iff hscope).1 hfind⟩)

/-- A tally is closed with a fault exactly if its history has that fault. -/
theorem Reflects.close_eq_error_iff (h : t.Reflects check history) {fault : EvaluationFault} :
    t.close = .error fault ↔ Faulty check history fault := by
  constructor
  · intro hclose
    -- Of the three ways to close, two are with a fault, each with its own.
    rcases closing_cases history with ⟨object, hstray⟩ | ⟨hscope, object, hfirst⟩ | ⟨hscope, honce⟩
    · rw [h.close_of_firstStray hstray] at hclose
      cases hclose
      exact .stray hstray
    · rw [h.close_of_firstMiscounted hscope hfirst] at hclose
      cases hclose
      exact .miscount hscope hfirst
    · rw [h.close_of_judgedOnce hscope honce] at hclose
      cases hclose
  · intro hfaulty
    cases hfaulty with
    | stray hstray => exact h.close_of_firstStray hstray
    | miscount hscope hfirst => exact h.close_of_firstMiscounted hscope hfirst

/-- A tally is closed with success exactly if its history has no fault. -/
theorem Reflects.close_eq_ok_iff (h : t.Reflects check history) {o : Outcome} :
    t.close = .ok o ↔ InScope history ∧ JudgedOnce history ∧
      o = ⟨check, .worstOf ((recorded history).map (·.severity)), recorded history⟩ := by
  constructor
  · intro hclose
    -- Only the last of the three ways to close is with success.
    rcases closing_cases history with ⟨object, hstray⟩ | ⟨hscope, object, hfirst⟩ | ⟨hscope, honce⟩
    · rw [h.close_of_firstStray hstray] at hclose
      cases hclose
    · rw [h.close_of_firstMiscounted hscope hfirst] at hclose
      cases hclose
    · rw [h.close_of_judgedOnce hscope honce] at hclose
      cases hclose
      exact ⟨hscope, honce, rfl⟩
  · rintro ⟨hscope, honce, rfl⟩
    exact h.close_of_judgedOnce hscope honce

/-- The severity as a whole is the worst of the judgements. -/
theorem isWorstOf_overall_of_close {o : Outcome} (hclose : (after check history).close = .ok o) :
    o.overall.IsWorstOf (o.judgements.map (·.severity)) := by
  obtain ⟨-, -, rfl⟩ := (reflects_after check history).close_eq_ok_iff.1 hclose
  exact Severity.isWorstOf_worstOf _

/-! ## Expecting an object again -/

/-- What is expected already is not expected anew. -/
theorem expect_of_mem {object : ObjectRef} (h : object ∈ t.expected) : t.expect object = t := by
  have hsame : t.expected.insertIfNew object 0 = t.expected := by
    apply Std.ExtTreeMap.ext_getElem?
    intro other
    rw [Std.ExtTreeMap.getElem?_insertIfNew, if_neg fun hnew => hnew.2 h]
  unfold expect
  rw [hsame]

/-- A repeated expectation can be struck out of a history. -/
theorem after_expect_again (check : String) {before : List Step} {object : ObjectRef}
    (h : .expect object ∈ before) (rest : List Step) :
    after check (before ++ .expect object :: rest) = after check (before ++ rest) := by
  have hmem : object ∈ (after check before).expected :=
    ((reflects_after check before).mem_expected object).2 h
  rw [after_append, after_append, List.foldl_cons, step, expect_of_mem hmem]

/-- **The closing of a tally, told from its history.** There is an outcome exactly if every judged
object had been expected by then and every expected object was judged once; it holds the judgements
as they were recorded and the worst of their severities. Else there is the fault that the history
leads to. Expecting an object again makes no difference, not even to the tally. -/
theorem close_after (check : String) (history : List Step) :
    ((∃ o, (after check history).close = .ok o) ↔ InScope history ∧ JudgedOnce history) ∧
    (∀ o, (after check history).close = .ok o →
      o.check = check ∧ o.judgements = recorded history ∧
        o.overall.IsWorstOf ((recorded history).map (·.severity))) ∧
    (∀ fault, (after check history).close = .error fault ↔ Faulty check history fault) ∧
    (∀ before object rest, history = before ++ .expect object :: rest → .expect object ∈ before →
      after check history = after check (before ++ rest)) := by
  have h := reflects_after check history
  refine ⟨⟨?_, ?_⟩, ?_, fun fault => h.close_eq_error_iff, ?_⟩
  · rintro ⟨o, hclose⟩
    obtain ⟨hscope, honce, -⟩ := h.close_eq_ok_iff.1 hclose
    exact ⟨hscope, honce⟩
  · rintro ⟨hscope, honce⟩
    exact ⟨_, h.close_of_judgedOnce hscope honce⟩
  · intro o hclose
    obtain ⟨-, -, rfl⟩ := h.close_eq_ok_iff.1 hclose
    exact ⟨rfl, rfl, Severity.isWorstOf_worstOf _⟩
  · -- The repeated expectation leaves the tally as it is, whatever comes behind it.
    rintro before object rest rfl hmem
    exact after_expect_again check hmem rest

/-! ## Judgements on a scope -/

/-- The history of a check that expects its scope and then records its judgements. -/
def scopeHistory (scope : List ObjectRef) (judgements : List Judgement) : List Step :=
  scope.map .expect ++ judgements.map .record

/-- To reconcile a scope with judgements is to close the tally of their history. -/
theorem reconcile_eq_close (check : String) (scope : List ObjectRef) (judgements : List Judgement) :
    reconcile check scope judgements = (after check (scopeHistory scope judgements)).close := by
  unfold reconcile after scopeHistory
  rw [List.foldl_append, List.foldl_map, List.foldl_map]
  rfl

/-- The history of a scope and judgements records the judgements in order. -/
@[simp] theorem recorded_scopeHistory (scope : List ObjectRef) (judgements : List Judgement) :
    recorded (scopeHistory scope judgements) = judgements := by
  unfold recorded scopeHistory
  rw [List.filterMap_append, List.filterMap_map, List.filterMap_map]
  have hnone : scope.filterMap (Step.judgement? ∘ .expect) = [] := by
    simp [Step.judgement?]
  have hsome : judgements.filterMap (Step.judgement? ∘ .record) = judgements :=
    List.filterMap_some
  rw [hnone, hsome, List.nil_append]

/-- The history of a scope and judgements expects the objects of the scope. -/
@[simp] theorem expect_mem_scopeHistory {scope : List ObjectRef} {judgements : List Judgement}
    {object : ObjectRef} : .expect object ∈ scopeHistory scope judgements ↔ object ∈ scope := by
  simp [scopeHistory]

/-- In the history of a scope and judgements an object is judged as often as there are judgements on it. -/
theorem timesJudged_scopeHistory (scope : List ObjectRef) (judgements : List Judgement)
    (object : ObjectRef) :
    timesJudged (scopeHistory scope judgements) object
      = (judgements.map (·.object)).count object := by
  rw [timesJudged, recorded_scopeHistory, List.count, List.countP_map]
  rfl

/-- Nothing is out of scope before anything is judged. -/
theorem inScope_map_expect (scope : List ObjectRef) : InScope (scope.map Step.expect) := by
  induction scope using List.reverseRecOn with
  | nil => exact inScope_nil
  | append_singleton scope object ih =>
    rw [List.map_append, List.map_singleton, inScope_snoc_expect]
    exact ih

/-- Objects of the scope are judged in time, since the whole scope is expected first. -/
theorem inScope_scopeHistory {scope : List ObjectRef} {judgements : List Judgement}
    (h : ∀ j ∈ judgements, j.object ∈ scope) : InScope (scopeHistory scope judgements) := by
  -- Induction from the last judgement, for a history grows at its end.
  induction judgements using List.reverseRecOn with
  | nil => simpa [scopeHistory] using inScope_map_expect scope
  | append_singleton judgements j ih =>
    have hsnoc : scopeHistory scope (judgements ++ [j])
        = scopeHistory scope judgements ++ [.record j] := by
      simp [scopeHistory]
    rw [hsnoc, inScope_snoc_record, expect_mem_scopeHistory]
    refine ⟨ih fun i hi => h i ?_, h j ?_⟩
    · exact List.mem_append_left _ hi
    · exact List.mem_append_right _ (List.mem_singleton_self j)

/-- Judgements of exactly the objects of a scope, in its order, close to an outcome exactly if the
scope names nothing twice. -/
theorem reconcile_eq_ok_iff {scope : List ObjectRef} {judgements : List Judgement}
    (hobjects : judgements.map (·.object) = scope) {o : Outcome} :
    reconcile check scope judgements = .ok o ↔
      scope.Nodup ∧ o = ⟨check, .worstOf (judgements.map (·.severity)), judgements⟩ := by
  have hscope : InScope (scopeHistory scope judgements) :=
    inScope_scopeHistory fun j hj => hobjects ▸ List.mem_map_of_mem hj
  -- Each object is judged as often as the scope has it.
  have honce : JudgedOnce (scopeHistory scope judgements) ↔ scope.Nodup := by
    unfold JudgedOnce
    simp only [expect_mem_scopeHistory, timesJudged_scopeHistory, hobjects]
    exact List.nodup_iff_count_eq_one.symm
  rw [reconcile_eq_close, (reflects_after check _).close_eq_ok_iff, honce,
    recorded_scopeHistory]
  exact and_iff_right hscope

/-- The least object, in the order of references, that a scope names more than once. -/
structure LeastRepeated (scope : List ObjectRef) (object : ObjectRef) : Prop where
  repeated : 1 < scope.count object
  least : ∀ other, 1 < scope.count other → (compare object other).isLE

/-- What is in the scope is judged at least once, so that it is miscounted only if it is repeated. -/
theorem firstMiscounted_scopeHistory {scope : List ObjectRef} {judgements : List Judgement}
    (hobjects : judgements.map (·.object) = scope) {object : ObjectRef} :
    FirstMiscounted (scopeHistory scope judgements) object ↔ LeastRepeated scope object := by
  -- An object of the scope is judged at least once, so that a wrong count is a count of more.
  have hmiscounted : ∀ other, (.expect other ∈ scopeHistory scope judgements ∧
      timesJudged (scopeHistory scope judgements) other ≠ 1) ↔ 1 < scope.count other := by
    intro other
    rw [expect_mem_scopeHistory, timesJudged_scopeHistory, hobjects, ← List.count_pos_iff]
    omega
  constructor
  · rintro ⟨hexpected, hcount, hleast⟩
    refine ⟨(hmiscounted object).1 ⟨hexpected, hcount⟩, fun other hother => ?_⟩
    obtain ⟨hexpected', hcount'⟩ := (hmiscounted other).2 hother
    exact hleast other hexpected' hcount'
  · rintro ⟨hrepeated, hleast⟩
    obtain ⟨hexpected, hcount⟩ := (hmiscounted object).2 hrepeated
    exact ⟨hexpected, hcount, fun other hexpected' hcount' =>
      hleast other ((hmiscounted other).1 ⟨hexpected', hcount'⟩)⟩

/-- A count of more than one is that of a repeated judgement. -/
theorem miscount_of_one_lt (check : String) (object : ObjectRef) {count : Nat} (h : 1 < count) :
    miscount check object count = .duplicate check object count := by
  unfold miscount
  split
  · omega
  · rfl

/-- Else they close to the fault that the least object named twice makes. Nothing of the judgements is told
but their number, which is the scope's own. -/
theorem reconcile_eq_error_iff {scope : List ObjectRef} {judgements : List Judgement}
    (hobjects : judgements.map (·.object) = scope) {fault : EvaluationFault} :
    reconcile check scope judgements = .error fault ↔
      ∃ object, LeastRepeated scope object ∧
        .duplicate check object (scope.count object) = fault := by
  have hscope : InScope (scopeHistory scope judgements) :=
    inScope_scopeHistory fun j hj => hobjects ▸ List.mem_map_of_mem hj
  have hduplicate : ∀ object, LeastRepeated scope object →
      miscount check object (timesJudged (scopeHistory scope judgements) object)
        = .duplicate check object (scope.count object) := by
    intro object hleast
    rw [timesJudged_scopeHistory, hobjects]
    exact miscount_of_one_lt check object hleast.repeated
  rw [reconcile_eq_close, (reflects_after check _).close_eq_error_iff]
  constructor
  · intro hfaulty
    cases hfaulty with
    -- All judgements are on objects of the scope.
    | stray hstray =>
      obtain ⟨before, j, hpre, -, hnot, -⟩ := hstray
      exact absurd (hscope before j hpre) hnot
    | @miscount object _ hfirst =>
      have hleast := (firstMiscounted_scopeHistory hobjects).1 hfirst
      exact ⟨object, hleast, (hduplicate object hleast).symm⟩
  · rintro ⟨object, hleast, rfl⟩
    rw [← hduplicate object hleast]
    exact .miscount hscope ((firstMiscounted_scopeHistory hobjects).2 hleast)

end Tally

end InventoryProbe
