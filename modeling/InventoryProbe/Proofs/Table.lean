import Mathlib.Data.List.Nodup
import InventoryProbe.Selection

/-!
# Looking things up in tables

Tables are filled by inserting one value after the other, so that of several values with one key
the last one stays. What is found in a table is what a scan of the inserted values finds. Only where
a key is used twice does it matter in which order the values were inserted.
-/

namespace InventoryProbe

open Std (ExtTreeMap TransCmp LawfulEqCmp)

/-- The last inserted value with a key is found, and what was there before if there is none. -/
theorem getElem?_foldl_insert {α β κ : Type} {cmp : κ → κ → Ordering} [TransCmp cmp]
    [LawfulEqCmp cmp] [DecidableEq κ] (key : α → κ) (value : α → β) (values : List α)
    (table : ExtTreeMap κ β cmp) (k : κ) :
    (values.foldl (fun t a => t.insert (key a) (value a)) table)[k]?
      = ((values.filter (key · = k)).getLast?.map value).or table[k]? := by
  induction values generalizing table with
  | nil => simp
  | cons a rest ih =>
    rw [List.foldl_cons, ih, ExtTreeMap.getElem?_insert]
    -- The first value is in the table at the end if no later one has its key.
    by_cases hkey : key a = k
    · rw [if_pos (LawfulEqCmp.compare_eq_iff_eq.2 hkey),
        List.filter_cons_of_pos (by simpa using hkey), List.getLast?_cons]
      cases (rest.filter (key · = k)).getLast? with
      | none => rfl
      | some b => rfl
    · rw [if_neg fun heq => hkey (LawfulEqCmp.compare_eq_iff_eq.1 heq),
        List.filter_cons_of_neg (by simpa using hkey)]

/-- A table finds the last value with a key. -/
theorem getElem?_tableBy {α : Type} (key : α → String) (values : List α) (k : String) :
    (tableBy key values)[k]? = (values.filter (key · = k)).getLast? := by
  unfold tableBy
  rw [getElem?_foldl_insert key (fun a => a)]
  simp

/-- A table finds something exactly if some value has the key. -/
theorem isSome_getElem?_tableBy {α : Type} {key : α → String} {values : List α} {k : String} :
    (tableBy key values)[k]?.isSome ↔ ∃ a ∈ values, key a = k := by
  rw [getElem?_tableBy]
  simp

/-! ## Values with different keys -/

/-- Where no two values share a key, each value is the only one with its own. -/
theorem filter_key_eq_singleton {α κ : Type} [DecidableEq κ] {key : α → κ} {values : List α}
    (hnodup : (values.map key).Nodup) {a : α} (ha : a ∈ values) :
    values.filter (key · = key a) = [a] := by
  obtain ⟨front, back, rfl⟩ := List.append_of_mem ha
  rw [List.map_append, List.map_cons, List.nodup_middle, List.nodup_cons, List.mem_append] at hnodup
  obtain ⟨hother, -⟩ := hnodup
  -- No value in front of it has its key, and none behind it.
  have hfront : front.filter (key · = key a) = [] := by
    rw [List.filter_eq_nil_iff]
    intro b hb heq
    exact hother (.inl (List.mem_map.2 ⟨b, hb, of_decide_eq_true heq⟩))
  have hback : back.filter (key · = key a) = [] := by
    rw [List.filter_eq_nil_iff]
    intro b hb heq
    exact hother (.inr (List.mem_map.2 ⟨b, hb, of_decide_eq_true heq⟩))
  rw [List.filter_append, List.filter_cons_of_pos (by simp), hfront, hback, List.nil_append]

/-- Values with different keys make the same table in any order. -/
theorem tableBy_eq_of_perm {α : Type} {key : α → String} {values rearranged : List α}
    (hperm : values.Perm rearranged) (hnodup : (values.map key).Nodup) :
    tableBy key values = tableBy key rearranged := by
  apply ExtTreeMap.ext_getElem?
  intro k
  rw [getElem?_tableBy, getElem?_tableBy]
  by_cases hfound : ∃ a ∈ values, key a = k
  · -- There is one value with the key, in either order.
    obtain ⟨a, ha, rfl⟩ := hfound
    have hnodup' : (rearranged.map key).Nodup := (hperm.map key).nodup_iff.1 hnodup
    rw [filter_key_eq_singleton hnodup ha, filter_key_eq_singleton hnodup' (hperm.mem_iff.1 ha)]
  · have hnone : values.filter (key · = k) = [] := by simpa using hfound
    have hperm' : (values.filter (key · = k)).Perm (rearranged.filter (key · = k)) := hperm.filter _
    rw [hnone] at hperm' ⊢
    rw [hperm'.nil_eq]

/-! ## Fewer values

A value that is left behind the last one comes to light when that one goes, so only what was found
before and stays is sure to be found again. -/

/-- The last of a list is the last of those that are kept, if it is kept. -/
theorem getLast?_filter_of_getLast? {α : Type} {keep : α → Bool} {values : List α} {a : α}
    (hlast : values.getLast? = some a) (hkeep : keep a) :
    (values.filter keep).getLast? = some a := by
  obtain ⟨front, rfl⟩ := List.getLast?_eq_some_iff.1 hlast
  rw [List.filter_append, List.filter_singleton, hkeep]
  simp

/-- The table of what is left has a kept value wherever the table of all had it. -/
theorem getElem?_tableBy_filter {α : Type} {key : α → String} {keep : α → Bool} {values : List α}
    {k : String} {a : α} (h : (tableBy key values)[k]? = some a) (hkeep : keep a) :
    (tableBy key (values.filter keep))[k]? = some a := by
  rw [getElem?_tableBy] at h ⊢
  rw [List.filter_comm]
  exact getLast?_filter_of_getLast? h hkeep

/-- What is not found in a table of all values is not found in one of fewer. -/
theorem getElem?_tableBy_filter_eq_none {α : Type} {key : α → String} {keep : α → Bool}
    {values : List α} {k : String} (h : (tableBy key values)[k]? = none) :
    (tableBy key (values.filter keep))[k]? = none := by
  rw [← Option.not_isSome_iff_eq_none, isSome_getElem?_tableBy] at h ⊢
  rintro ⟨a, ha, hkey⟩
  exact h ⟨a, (List.mem_filter.1 ha).1, hkey⟩

end InventoryProbe
