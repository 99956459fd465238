import InventoryProbe.Severity

/-!
# The worst of severities

Severities are in a line by their rank, with `ok` at the mild end, and `worstOf` finds the far end
of any list of them.

* **`worstOf_le_iff`**: a severity bounds `worstOf` exactly if it bounds every one in the list.
* **`isWorstOf_worstOf`**: `worstOf` bounds the list and is in it, unless the list is empty.
-/

namespace InventoryProbe

namespace Severity

/-! ## The order -/

theorem le_iff_rank_le {a b : Severity} : a ≤ b ↔ a.rank ≤ b.rank := Iff.rfl

protected theorem le_refl (a : Severity) : a ≤ a := Nat.le_refl a.rank

protected theorem le_trans {a b c : Severity} (hab : a ≤ b) (hbc : b ≤ c) : a ≤ c :=
  Nat.le_trans hab hbc

/-- No two severities have one rank. -/
theorem rank_injective {a b : Severity} (h : a.rank = b.rank) : a = b := by
  cases a <;> cases b <;> simp_all [rank]

protected theorem le_antisymm {a b : Severity} (hab : a ≤ b) (hba : b ≤ a) : a = b :=
  rank_injective (Nat.le_antisymm hab hba)

protected theorem le_total (a b : Severity) : a ≤ b ∨ b ≤ a := Nat.le_total a.rank b.rank

/-- Nothing is milder than `ok`. -/
@[simp] theorem ok_le (a : Severity) : .ok ≤ a := Nat.zero_le a.rank

/-! ## The worse of two -/

/-- What is no better than both is no better than the worse of them. -/
theorem worst_le_iff {a b w : Severity} : worst a b ≤ w ↔ a ≤ w ∧ b ≤ w := by
  unfold worst
  simp only [le_iff_rank_le]
  split <;> omega

/-- The worse of two is one of them. -/
theorem worst_eq_or (a b : Severity) : worst a b = a ∨ worst a b = b := by
  unfold worst
  split
  · exact Or.inr rfl
  · exact Or.inl rfl

/-! ## The worst of a list

The fold is looked at from any start, since its start moves with every severity it takes in. -/

/-- What is no better than all of a list is no better than the worst. -/
theorem foldl_worst_le_iff (severities : List Severity) (a w : Severity) :
    severities.foldl worst a ≤ w ↔ a ≤ w ∧ ∀ s ∈ severities, s ≤ w := by
  induction severities generalizing a with
  | nil => simp
  | cons s rest ih =>
    rw [List.foldl_cons, ih, worst_le_iff, List.forall_mem_cons, and_assoc]

/-- The worst is the one to begin from, or one of the list. -/
theorem foldl_worst_mem (severities : List Severity) (a : Severity) :
    severities.foldl worst a = a ∨ severities.foldl worst a ∈ severities := by
  induction severities generalizing a with
  | nil => exact Or.inl rfl
  | cons s rest ih =>
    rw [List.foldl_cons]
    -- The rest is folded from the worse of two, and this is one of the two.
    rcases ih (worst a s) with hstart | hmem
    · rcases worst_eq_or a s with ha | hs
      · exact Or.inl (hstart.trans ha)
      · exact Or.inr (by rw [hstart, hs]; exact List.mem_cons_self)
    · exact Or.inr (List.mem_cons_of_mem s hmem)

/-- A severity bounds the worst one exactly if it bounds every one. -/
theorem worstOf_le_iff {severities : List Severity} {w : Severity} :
    worstOf severities ≤ w ↔ ∀ s ∈ severities, s ≤ w := by
  unfold worstOf
  rw [foldl_worst_le_iff]
  exact and_iff_right (ok_le w)

theorem le_worstOf {severities : List Severity} {s : Severity} (h : s ∈ severities) :
    s ≤ worstOf severities :=
  worstOf_le_iff.1 (Severity.le_refl _) s h

/-- That a severity is the worst of a list: none in it is worse, and it is in the list itself, or
the list is empty and the severity `ok`. -/
structure IsWorstOf (w : Severity) (severities : List Severity) : Prop where
  le_worst : ∀ s ∈ severities, s ≤ w
  attained : w ∈ severities ∨ severities = [] ∧ w = .ok

/-- The worst that is computed is the worst that is meant. -/
theorem isWorstOf_worstOf (severities : List Severity) :
    (worstOf severities).IsWorstOf severities where
  le_worst _ hs := le_worstOf hs
  attained := by
    rcases foldl_worst_mem severities .ok with hstart | hmem
    · cases severities with
      | nil => exact Or.inr ⟨rfl, rfl⟩
      | cons s rest =>
        -- The fold has not left its start, so the first severity is no worse than `ok`.
        have hs : s = .ok := by
          have hle : s ≤ (s :: rest).foldl worst .ok := le_worstOf List.mem_cons_self
          rw [hstart] at hle
          exact Severity.le_antisymm hle (ok_le s)
        have hworst : worstOf (s :: rest) = s := hstart.trans hs.symm
        exact Or.inl (by rw [hworst]; exact List.mem_cons_self)
    · exact Or.inl hmem

/-- A list has only one worst severity. -/
theorem IsWorstOf.eq_worstOf {w : Severity} {severities : List Severity}
    (h : w.IsWorstOf severities) : w = worstOf severities := by
  apply Severity.le_antisymm
  · rcases h.attained with hmem | ⟨-, rfl⟩
    · exact le_worstOf hmem
    · exact ok_le _
  · exact worstOf_le_iff.2 h.le_worst

/-- The worst severity does not depend on the order of the list. -/
theorem worstOf_eq_of_perm {severities rearranged : List Severity}
    (h : severities.Perm rearranged) : worstOf severities = worstOf rearranged := by
  apply Severity.le_antisymm
  · exact worstOf_le_iff.2 fun s hs => le_worstOf (h.mem_iff.1 hs)
  · exact worstOf_le_iff.2 fun s hs => le_worstOf (h.mem_iff.2 hs)

/-- A list without `unknown` has a worst severity that is not `unknown` either. -/
theorem worstOf_ne_unknown {severities : List Severity} (h : ∀ s ∈ severities, s ≠ .unknown) :
    worstOf severities ≠ .unknown := by
  intro hunknown
  rcases (isWorstOf_worstOf severities).attained with hmem | ⟨-, hok⟩
  · exact h _ hmem hunknown
  · rw [hok] at hunknown
    cases hunknown

end Severity

end InventoryProbe
