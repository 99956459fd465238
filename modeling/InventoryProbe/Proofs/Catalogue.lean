import InventoryProbe.Proofs.Catalogue.Registration
import InventoryProbe.Proofs.Failure

/-!
# The standard catalogue

The standard catalogue builds the check of each of the twelve names, and of no other name. It comes of twelve
calls, none of which is refused, for no two of the names are written alike.
-/

namespace InventoryProbe

namespace CheckName

/-- There is no thirteenth name. -/
theorem mem_all (n : CheckName) : n ∈ all := by
  cases n <;> decide

theorem filter_text_eq (n : CheckName) : all.filter (·.text = n.text) = [n] := by
  cases n <;> decide

/-- No two of the twelve names are written alike. -/
theorem text_injective {m n : CheckName} (h : m.text = n.text) : m = n := by
  -- A search by the text of one finds them both, and it finds one name only.
  have hmem : m ∈ all.filter (·.text = n.text) :=
    List.mem_filter.2 ⟨m.mem_all, decide_eq_true h⟩
  rw [filter_text_eq] at hmem
  exact List.mem_singleton.1 hmem

end CheckName

namespace Catalogue

/-- Each of the twelve names is registered. -/
theorem mem_registered (n : CheckName) : n ∈ registered := by
  cases n <;> decide

/-- The call that registers one of the twelve checks. -/
def registration (n : CheckName) : Registration := ⟨n.text, entryOf n⟩

/-- None of the twelve calls is refused. -/
theorem create_eq_ok : create = .ok (after (registered.map registration)) := by
  -- A call is refused only for a name that is taken.
  have hnames : ((registered.map registration).map (·.name)).Nodup := by decide
  have hall := foldlM_register_eq_ok hnames
  rwa [List.foldlM_map] at hall

/-- The standard catalogue is what they lead to. -/
theorem standard_eq_after : standard = after (registered.map registration) := by
  unfold standard
  rw [create_eq_ok]

/-- What is found under a name is the entry of the check that is called so. -/
theorem getElem?_standard (name : String) :
    standard.entries[name]? = (registered.find? (CheckName.text · = name)).map entryOf := by
  rw [standard_eq_after, getElem?_after]
  unfold first?
  rw [List.find?_map, Option.map_map]
  rfl

/-- The check that has a name is found by it. -/
theorem find?_text (n : CheckName) : registered.find? (CheckName.text · = n.text) = some n := by
  cases hfound : registered.find? (CheckName.text · = n.text) with
  | none =>
    have hother := List.find?_eq_none.1 hfound n (mem_registered n)
    simp at hother
  | some m =>
    have hname : m.text = n.text := by simpa using List.find?_some hfound
    rw [CheckName.text_injective hname]

/-- Each of the twelve names stands for its check. -/
theorem build_text (n : CheckName) (s : Settings) :
    standard.build n.text s = (n.build s).mapError .setting := by
  unfold build
  rw [getElem?_standard, find?_text]
  rfl

/-- In ascending order the names are those of the list of all checks. -/
theorem names_standard : standard.names = CheckName.all.map CheckName.text := by
  decide +kernel

/-- Another name is refused, with the twelve names beside it. -/
theorem build_of_unnamed {name : String} (h : ∀ n : CheckName, n.text ≠ name) (s : Settings) :
    standard.build name s
      = .error (.catalogue (.unknown name (CheckName.all.map CheckName.text))) := by
  have hnone : registered.find? (CheckName.text · = name) = none :=
    List.find?_eq_none.2 fun n _ => by simpa using h n
  unfold build
  rw [getElem?_standard, hnone, ← names_standard]
  rfl

/-- Only the twelve names stand for checks. -/
theorem exists_of_build_eq_ok {name : String} {s : Settings} {check : Check}
    (h : standard.build name s = .ok check) :
    ∃ n : CheckName, n.text = name ∧ n.build s = .ok check := by
  have hbuild := h
  unfold build at h
  rw [getElem?_standard] at h
  cases hfound : registered.find? (CheckName.text · = name) with
  | none => simp [hfound] at h
  | some n =>
    -- The check was filed under its own name, and this is the name that was asked for.
    have hname : n.text = name := by simpa using List.find?_some hfound
    rw [← hname, build_text] at hbuild
    exact ⟨n, hname, mapError_eq_ok_iff.1 hbuild⟩

end Catalogue

end InventoryProbe
