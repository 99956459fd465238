import Mathlib.Data.List.Induction
import InventoryProbe.Proofs.Table
import InventoryProbe.Run.Catalogue

/-!
# Registering checks

A catalogue is filled by calls that each register a check under a name, in any order, with names that may come
again. What it says of a name is what the first of these calls gave.

* **`getElem?_attempt`**: one call adds an entry where there was none, and changes nothing else.
* **`getElem?_after`**: so after a history each name has the entry of its first registration.
* **`foldlM_register_eq_ok`**: calls for names that differ are all accepted.
* **`after_registrations`**: which calls are refused, and what all readers of the catalogue see.
-/

namespace InventoryProbe

open Std (ExtTreeMap)

namespace Catalogue

/-! ## Histories -/

/-- A call that registers a check. -/
structure Registration where
  name : String
  entry : CatalogueEntry

/-- The catalogue after a call, whatever its answer is. -/
def attempt (c : Catalogue) (call : Registration) : Catalogue :=
  (c.tryRegister call.name call.entry).2

/-- The catalogue after the calls of a history. -/
def after (history : List Registration) : Catalogue := history.foldl attempt empty

/-- The call of a history that was the first to use a name. -/
def first? (history : List Registration) (name : String) : Option Registration :=
  history.find? (·.name = name)

/-- A history is followed call by call. -/
theorem after_snoc (history : List Registration) (call : Registration) :
    after (history ++ [call]) = (after history).attempt call := List.foldl_append

/-- There is a first call for every name that was used. -/
theorem isSome_first?_iff {history : List Registration} {name : String} :
    (first? history name).isSome ↔ ∃ call ∈ history, call.name = name := by
  unfold first?
  simp

/-! ## One call -/

variable {c : Catalogue} {call : Registration} {name : String} {entry : CatalogueEntry}

/-- A name that is taken is refused, and the catalogue is the one that there was. -/
theorem tryRegister_of_taken (h : c.entries[name]?.isSome) :
    c.tryRegister name entry = (.error (.alreadyRegistered name), c) := by
  unfold tryRegister
  rw [ExtTreeMap.contains_eq_isSome_getElem?, if_pos h]

/-- A name that is free is taken by the entry. -/
theorem tryRegister_of_free (h : c.entries[name]? = none) :
    c.tryRegister name entry = (.ok (), ⟨c.entries.insert name entry⟩) := by
  unfold tryRegister
  rw [ExtTreeMap.contains_eq_isSome_getElem?, h]
  rfl

/-- A call is refused exactly for its own name, and only if that is taken. -/
theorem fst_tryRegister_eq_error_iff {e : CatalogueError} :
    (c.tryRegister name entry).1 = .error e ↔
      c.entries[name]?.isSome ∧ e = .alreadyRegistered name := by
  cases hfound : c.entries[name]? with
  | some earlier => simp [tryRegister_of_taken (Option.isSome_of_eq_some hfound), eq_comm]
  | none => simp [tryRegister_of_free hfound]

/-- A refused call leaves no trace. -/
theorem snd_tryRegister_of_error {e : CatalogueError} (h : (c.tryRegister name entry).1 = .error e) :
    (c.tryRegister name entry).2 = c := by
  rw [tryRegister_of_taken (fst_tryRegister_eq_error_iff.1 h).1]

/-- Where a name is free, the catalogue with the check is handed on. -/
theorem register_of_free (h : c.entries[call.name]? = none) :
    c.register call.name call.entry = .ok (c.attempt call) := by
  unfold register attempt
  rw [tryRegister_of_free h]

/-- A call adds its entry if there is none of its name, and leaves the others as they are. -/
theorem getElem?_attempt (c : Catalogue) (call : Registration) (name : String) :
    (c.attempt call).entries[name]?
      = c.entries[name]?.or (if call.name = name then some call.entry else none) := by
  unfold attempt
  cases hfound : c.entries[call.name]? with
  -- The name of the call is taken, so that nothing is added.
  | some earlier =>
    have htaken : c.entries[call.name]?.isSome := Option.isSome_of_eq_some hfound
    rw [tryRegister_of_taken htaken]
    split
    · next hname => rw [← hname, Option.or_of_isSome htaken]
    · exact Option.or_none.symm
  -- The name is free, and has the entry from now on.
  | none =>
    rw [tryRegister_of_free hfound, ExtTreeMap.getElem?_insert]
    simp only [Std.compare_eq_iff_eq]
    split
    · next hname => rw [← hname, hfound, Option.none_or]
    · exact Option.or_none.symm

/-! ## All calls -/

/-- After a history a name has the entry of its first registration. Induction on the history from its last
call on, which counts only if no earlier one used its name. -/
theorem getElem?_after (history : List Registration) (name : String) :
    (after history).entries[name]? = (first? history name).map (·.entry) := by
  induction history using List.reverseRecOn with
  | nil => exact ExtTreeMap.getElem?_empty
  | append_singleton history call ih =>
    rw [after_snoc, getElem?_attempt, ih]
    unfold first?
    rw [List.find?_append]
    cases history.find? (·.name = name) with
    -- An earlier call has used the name, and the last one is refused.
    | some earlier => rfl
    | none =>
      by_cases hname : call.name = name
      · simp [hname]
      · simp [hname]

/-- The names that a catalogue has are those that were used. -/
theorem isSome_getElem?_after_iff {history : List Registration} {name : String} :
    (after history).entries[name]?.isSome ↔ ∃ call ∈ history, call.name = name := by
  rw [getElem?_after, Option.isSome_map, isSome_first?_iff]

/-- Calls for names that differ are all accepted. Induction on the calls from the last one on, whose name no
earlier one has taken. -/
theorem foldlM_register_eq_ok {history : List Registration} (hnames : (history.map (·.name)).Nodup) :
    history.foldlM (fun c call => c.register call.name call.entry) empty = .ok (after history) := by
  induction history using List.reverseRecOn with
  | nil => rfl
  | append_singleton history call ih =>
    rw [List.map_append, List.nodup_append] at hnames
    obtain ⟨hbefore, -, hother⟩ := hnames
    -- The last name is none of those before it.
    have hfree : (after history).entries[call.name]? = none := by
      rw [← Option.not_isSome_iff_eq_none, isSome_getElem?_after_iff]
      rintro ⟨earlier, hearlier, hname⟩
      exact hother _ (List.mem_map_of_mem hearlier) _ List.mem_cons_self hname
    rw [List.foldlM_append, ih hbefore, after_snoc]
    simp only [List.foldlM_cons, List.foldlM_nil, bind_pure]
    exact register_of_free hfree

/-! ## Readers -/

/-- Names are listed exactly if they are taken. -/
theorem mem_names_iff : name ∈ c.names ↔ c.entries[name]?.isSome := by
  unfold names
  rw [ExtTreeMap.mem_keys, ExtTreeMap.mem_iff_isSome_getElem?]

/-- They are listed in ascending order, and so none of them twice. -/
theorem pairwise_names (c : Catalogue) : c.names.Pairwise (· < ·) := by
  have hordered : c.names.Pairwise fun a b => compare a b = .lt := ExtTreeMap.ordered_keys
  exact hordered.imp compareOfLessAndEq_eq_lt.1

theorem length_names (c : Catalogue) : c.names.length = c.size := ExtTreeMap.length_keys

/-- The names are those that are described, in the same order. -/
theorem map_fst_descriptions (c : Catalogue) : c.descriptions.map Prod.fst = c.names := by
  unfold descriptions names
  rw [List.map_map, ← ExtTreeMap.map_fst_toList_eq_keys]
  rfl

/-- What a name is described by is its entry. -/
theorem mem_descriptions_iff {description : String} :
    (name, description) ∈ c.descriptions ↔
      ∃ entry, c.entries[name]? = some entry ∧ entry.description = description := by
  unfold descriptions
  simp only [List.mem_map, Prod.exists, Prod.mk.injEq, ExtTreeMap.mem_toList_iff_getElem?_eq_some]
  constructor
  · rintro ⟨_, entry, hentry, rfl, hdescription⟩
    exact ⟨entry, hentry, hdescription⟩
  · rintro ⟨entry, hentry, hdescription⟩
    exact ⟨name, entry, hentry, rfl, hdescription⟩

/-! ## What a history leads to -/

/-- **The first registration of a name counts, and every later one is refused without a trace.** A call is
refused exactly if its name has been used before, for that reason and for no other, and then leaves the
catalogue as it was. After any history the names are those that were used, in ascending order without
repetition, and the size is their number; each of them is described and built as its first registration says,
and any other name is refused with all names in order beside it. -/
theorem after_registrations :
    (∀ (before : List Registration) (call : Registration),
      let answer := (after before).tryRegister call.name call.entry
      ((∃ e, answer.1 = .error e) ↔ ∃ earlier ∈ before, earlier.name = call.name) ∧
      (∀ e, answer.1 = .error e → e = .alreadyRegistered call.name ∧ answer.2 = after before) ∧
      after (before ++ [call]) = answer.2) ∧
    ∀ history : List Registration,
      let c := after history
      c.names.Pairwise (· < ·) ∧
      (∀ name, name ∈ c.names ↔ ∃ call ∈ history, call.name = name) ∧
      c.size = c.names.length ∧
      c.descriptions.map Prod.fst = c.names ∧
      (∀ name description, (name, description) ∈ c.descriptions ↔
        ∃ call, first? history name = some call ∧ call.entry.description = description) ∧
      ∀ name s, c.build name s = match first? history name with
        | some call => (call.entry.build s).mapError .setting
        | none => .error (.catalogue (.unknown name c.names)) := by
  refine ⟨fun before call => ?_, fun history => ?_⟩
  · intro answer
    refine ⟨?_, fun e h => ⟨?_, ?_⟩, after_snoc before call⟩
    · simp only [answer, fst_tryRegister_eq_error_iff, isSome_getElem?_after_iff, exists_and_left,
        exists_eq, and_true]
    · exact (fst_tryRegister_eq_error_iff.1 h).2
    · exact snd_tryRegister_of_error h
  · intro c
    refine ⟨c.pairwise_names, fun name => ?_, c.length_names.symm, c.map_fst_descriptions,
      fun name description => ?_, fun name s => ?_⟩
    · rw [mem_names_iff, isSome_getElem?_after_iff]
    · rw [mem_descriptions_iff, getElem?_after]
      simp
    · -- A name is built by its entry, which is that of its first registration.
      unfold build
      rw [getElem?_after]
      cases first? history name with
      | some call => rfl
      | none => rfl

/-! ## A name that is used twice -/

/-- A second call for the tools is refused, and the first one stays. -/
theorem after_registrations_twice :
    let call : Registration := ⟨"tools", "guest tools", CheckName.tools.build⟩
    let again : Registration := ⟨"tools", "alarms", CheckName.alarms.build⟩
    ((after [call]).tryRegister again.name again.entry).1 = .error (.alreadyRegistered "tools") ∧
    after [call, again] = after [call] := by
  intro call again
  obtain ⟨hrefused, hkept, hafter⟩ := after_registrations.1 [call] again
  obtain ⟨e, he⟩ := hrefused.2 ⟨call, List.mem_singleton_self call, rfl⟩
  obtain ⟨rfl, hsame⟩ := hkept e he
  exact ⟨he, hafter.trans hsame⟩

end Catalogue

end InventoryProbe
