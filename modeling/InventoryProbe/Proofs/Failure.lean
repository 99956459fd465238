import Mathlib.Data.List.Perm.Basic

/-!
# Computations that may fail

What is known of the steps of a computation once its result is known: all of them succeeded, or one
of them failed in the way the whole did.
-/

namespace InventoryProbe

variable {α β γ δ ε : Type}

/-- Two steps succeed if the first does, and the second does on what it gave. -/
theorem bind_eq_ok_iff {x : Except ε α} {f : α → Except ε β} {b : β} :
    x >>= f = .ok b ↔ ∃ a, x = .ok a ∧ f a = .ok b := by
  cases x with
  | ok a => simp [bind, Except.bind]
  | error e => simp [bind, Except.bind]

/-- Two steps fail with what the first fails with, or else with what the second does. -/
theorem bind_eq_error_iff {x : Except ε α} {f : α → Except ε β} {e : ε} :
    x >>= f = .error e ↔ x = .error e ∨ ∃ a, x = .ok a ∧ f a = .error e := by
  cases x with
  | ok a => simp [bind, Except.bind]
  | error e' => simp [bind, Except.bind]

/-- A success is that of the step, taken further. -/
theorem map_eq_ok_iff {x : Except ε α} {f : α → β} {b : β} :
    x.map f = .ok b ↔ ∃ a, x = .ok a ∧ f a = b := by
  cases x with
  | ok a => simp [Except.map]
  | error e => simp [Except.map]

/-- A failure passes through. -/
theorem map_eq_error_iff {x : Except ε α} {f : α → β} {e : ε} :
    x.map f = .error e ↔ x = .error e := by
  cases x with
  | ok a => simp [Except.map]
  | error e' => simp [Except.map]

/-- A success passes through. -/
theorem mapError_eq_ok_iff {x : Except ε α} {f : ε → δ} {a : α} :
    x.mapError f = .ok a ↔ x = .ok a := by
  cases x with
  | ok a' => simp [Except.mapError]
  | error e => simp [Except.mapError]

/-- A failure is that of the step, in other words. -/
theorem mapError_eq_error_iff {x : Except ε α} {f : ε → δ} {d : δ} :
    x.mapError f = .error d ↔ ∃ e, x = .error e ∧ f e = d := by
  cases x with
  | ok a => simp [Except.mapError]
  | error e => simp [Except.mapError]

/-! ## Lists of steps -/

/-- A list is gone through with success if each of its entries is. Induction on the list. -/
theorem mapM_eq_ok_iff {f : α → Except ε β} {as : List α} {bs : List β} :
    as.mapM f = .ok bs ↔ List.Forall₂ (fun a b => f a = .ok b) as bs := by
  induction as generalizing bs with
  | nil => simp [pure, Except.pure, eq_comm]
  | cons a rest ih =>
    rw [List.mapM_cons, bind_eq_ok_iff]
    constructor
    · rintro ⟨b, hb, hrest⟩
      obtain ⟨bs', hbs, hcons⟩ := bind_eq_ok_iff.1 hrest
      cases hcons
      exact .cons hb (ih.1 hbs)
    · rintro (_ | ⟨hb, hrest⟩)
      exact ⟨_, hb, bind_eq_ok_iff.2 ⟨_, ih.2 hrest, rfl⟩⟩

/-- A step in whose place another has the same result leaves the result of the whole as it is. -/
theorem mapM_replace {f : α → Except ε β} {front back : List α} {a a' : α}
    (hstep : ∀ b, f a = .ok b → f a' = .ok b) {bs : List β}
    (h : (front ++ a :: back).mapM f = .ok bs) : (front ++ a' :: back).mapM f = .ok bs := by
  induction front generalizing bs with
  -- The entry that is replaced comes first, and what is behind it stays.
  | nil =>
    rw [List.nil_append, List.mapM_cons, bind_eq_ok_iff] at h ⊢
    obtain ⟨b, hb, hrest⟩ := h
    exact ⟨b, hstep b hb, hrest⟩
  | cons first front ih =>
    rw [List.cons_append, List.mapM_cons, bind_eq_ok_iff] at h ⊢
    obtain ⟨b, hb, hrest⟩ := h
    obtain ⟨bs', hbs', hcons⟩ := bind_eq_ok_iff.1 hrest
    exact ⟨b, hb, bind_eq_ok_iff.2 ⟨bs', ih hbs', hcons⟩⟩

/-- What every step keeps of its input, the whole keeps of the list of inputs. -/
theorem map_eq_map_of_mapM {f : α → Except ε β} {g : β → γ} {k : α → γ} {as : List α} {bs : List β}
    (hkeep : ∀ a b, f a = .ok b → g b = k a) (h : as.mapM f = .ok bs) : bs.map g = as.map k := by
  have hall := mapM_eq_ok_iff.1 h
  clear h
  induction hall with
  | nil => rfl
  | cons ha hrest ih => rw [List.map_cons, List.map_cons, hkeep _ _ ha, ih]

/-- Every step has its result among those of the whole. -/
theorem exists_mem_right_of_mapM {f : α → Except ε β} {as : List α} {bs : List β}
    (h : as.mapM f = .ok bs) {a : α} (ha : a ∈ as) : ∃ b ∈ bs, f a = .ok b := by
  have hall := mapM_eq_ok_iff.1 h
  induction hall with
  | nil => cases ha
  | cons hb hrest ih =>
    rcases List.mem_cons.1 ha with rfl | ha
    · exact ⟨_, List.mem_cons_self, hb⟩
    · obtain ⟨b, hmem, hb⟩ := ih (mapM_eq_ok_iff.2 hrest) ha
      exact ⟨b, List.mem_cons_of_mem _ hmem, hb⟩

/-- Every result of the whole is that of a step. -/
theorem exists_mem_left_of_mapM {f : α → Except ε β} {as : List α} {bs : List β}
    (h : as.mapM f = .ok bs) {b : β} (hb : b ∈ bs) : ∃ a ∈ as, f a = .ok b := by
  have hall := mapM_eq_ok_iff.1 h
  induction hall with
  | nil => cases hb
  | cons ha hrest ih =>
    rcases List.mem_cons.1 hb with rfl | hb
    · exact ⟨_, List.mem_cons_self, ha⟩
    · obtain ⟨a, hmem, ha⟩ := ih (mapM_eq_ok_iff.2 hrest) hb
      exact ⟨a, List.mem_cons_of_mem _ hmem, ha⟩

/-- Taken in another order, the steps have the same results in another order. -/
theorem exists_mapM_of_perm {f : α → Except ε β} {as rearranged : List α} {bs : List β}
    (hperm : as.Perm rearranged) (h : as.mapM f = .ok bs) :
    ∃ results, rearranged.mapM f = .ok results ∧ bs.Perm results := by
  obtain ⟨results, hall, hresults⟩ :=
    List.perm_comp_forall₂ hperm.symm (mapM_eq_ok_iff.1 h)
  exact ⟨results, mapM_eq_ok_iff.2 hall, hresults.symm⟩

/-- The whole fails as the first of its steps that does. -/
theorem exists_first_of_mapM_eq_error {f : α → Except ε β} {as : List α} {e : ε}
    (h : as.mapM f = .error e) :
    ∃ front a back, as = front ++ a :: back ∧ (∀ x ∈ front, ∃ b, f x = .ok b) ∧ f a = .error e := by
  induction as with
  | nil => cases h
  | cons a rest ih =>
    rw [List.mapM_cons, bind_eq_error_iff] at h
    -- The failure is that of the head, or comes from behind it.
    rcases h with ha | ⟨b, hb, hrest⟩
    · exact ⟨[], a, rest, rfl, by simp, ha⟩
    · rcases bind_eq_error_iff.1 hrest with hrest | ⟨bs, -, hpure⟩
      · obtain ⟨front, a', back, rfl, hfront, ha'⟩ := ih hrest
        exact ⟨a :: front, a', back, rfl, List.forall_mem_cons.2 ⟨⟨b, hb⟩, hfront⟩, ha'⟩
      · cases hpure

/-- The whole fails only as one of its steps does. -/
theorem exists_mem_of_mapM_eq_error {f : α → Except ε β} {as : List α} {e : ε}
    (h : as.mapM f = .error e) : ∃ a ∈ as, f a = .error e := by
  obtain ⟨front, a, back, rfl, -, ha⟩ := exists_first_of_mapM_eq_error h
  exact ⟨a, by simp, ha⟩

/-- The whole fails exactly if one of its steps does. -/
theorem exists_mapM_eq_error_iff {f : α → Except ε β} {as : List α} :
    (∃ e, as.mapM f = .error e) ↔ ∃ a ∈ as, ∃ e, f a = .error e := by
  constructor
  · rintro ⟨e, h⟩
    obtain ⟨a, hmem, ha⟩ := exists_mem_of_mapM_eq_error h
    exact ⟨a, hmem, e, ha⟩
  · rintro ⟨a, hmem, e, ha⟩
    cases h : as.mapM f with
    | error e' => exact ⟨e', rfl⟩
    -- A success would be one on the failing entry as well.
    | ok bs =>
      obtain ⟨b, -, hb⟩ := exists_mem_right_of_mapM h hmem
      rw [ha] at hb
      cases hb

end InventoryProbe
