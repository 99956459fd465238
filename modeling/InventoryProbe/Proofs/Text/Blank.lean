import Mathlib.Data.List.Basic
import Mathlib.Data.List.TakeWhile
import InventoryProbe.Text.Blank

/-!
# Texts without the blanks around them

Trimming takes away the blanks at both ends of a text and nothing else.

* **`exists_blanks_trim`**: what is taken away is blank.
* **`trim_of_tight`**: a text that neither starts nor ends with a blank is what is left of it, whatever
  blanks stand around it.
* **`trim_eq_nil_iff`**: nothing is left exactly of a blank text.
-/

namespace InventoryProbe.Text

variable {c : Char} {cs core front back : List Char}

/-! ## What is taken away -/

theorem exists_blanks_trimStart (cs : List Char) :
    ∃ front, (∀ c ∈ front, isBlank c) ∧ cs = front ++ trimStart cs :=
  ⟨cs.takeWhile isBlank, fun _ hc => List.mem_takeWhile_imp hc, List.takeWhile_append_dropWhile.symm⟩

/-- Blanks are taken away behind. -/
theorem exists_blanks_trimEnd (cs : List Char) :
    ∃ back, (∀ c ∈ back, isBlank c) ∧ cs = trimEnd cs ++ back := by
  -- What is behind stands in front when the text is reversed.
  obtain ⟨front, hfront, heq⟩ := exists_blanks_trimStart cs.reverse
  refine ⟨front.reverse, fun c hc => hfront c (List.mem_reverse.1 hc), ?_⟩
  rw [trimEnd, ← List.reverse_append]
  exact List.reverse_eq_iff.1 heq

/-- What is trimmed off are blanks on both sides. -/
theorem exists_blanks_trim (cs : List Char) :
    ∃ front back, (∀ c ∈ front, isBlank c) ∧ (∀ c ∈ back, isBlank c) ∧
      cs = front ++ trim cs ++ back := by
  obtain ⟨front, hfront, hstart⟩ := exists_blanks_trimStart cs
  obtain ⟨back, hback, hend⟩ := exists_blanks_trimEnd (trimStart cs)
  refine ⟨front, back, hfront, hback, ?_⟩
  rw [List.append_assoc]
  exact hstart.trans (congrArg (front ++ ·) hend)

/-! ## What is left -/

/-- That a text neither starts nor ends with a blank. -/
def Tight (cs : List Char) : Prop :=
  (∀ c ∈ cs.head?, isBlank c = false) ∧ ∀ c ∈ cs.getLast?, isBlank c = false

/-- Where a text begins with no blank, nothing is taken away. -/
theorem trimStart_cons (h : isBlank c = false) (cs : List Char) : trimStart (c :: cs) = c :: cs :=
  List.dropWhile_cons_of_neg (by simp [h])

/-- All blanks in front are taken away, and nothing else. -/
theorem trimStart_of_head? (hfront : ∀ c ∈ front, isBlank c)
    (hhead : ∀ c ∈ cs.head?, isBlank c = false) : trimStart (front ++ cs) = cs := by
  unfold trimStart
  rw [List.dropWhile_append_of_pos hfront]
  cases cs with
  | nil => rfl
  | cons c cs => exact trimStart_cons (hhead c rfl) cs

theorem trimEnd_of_getLast? (hback : ∀ c ∈ back, isBlank c)
    (hlast : ∀ c ∈ cs.getLast?, isBlank c = false) : trimEnd (cs ++ back) = cs := by
  have hstart : trimStart (back.reverse ++ cs.reverse) = cs.reverse := by
    apply trimStart_of_head?
    · exact fun c hc => hback c (List.mem_reverse.1 hc)
    · rwa [List.head?_reverse]
  rw [trimEnd, List.reverse_append]
  exact List.reverse_eq_iff.2 hstart

/-- Of a text with blanks around it the text is left, if it has no blanks at its own ends. -/
theorem trim_of_tight (hfront : ∀ c ∈ front, isBlank c) (hback : ∀ c ∈ back, isBlank c)
    (hne : core ≠ []) (htight : Tight core) : trim (front ++ core ++ back) = core := by
  obtain ⟨hhead, hlast⟩ := htight
  have hstart : trimStart (front ++ (core ++ back)) = core ++ back := by
    apply trimStart_of_head? hfront
    -- The core is not empty, so that the rest begins as it does.
    rwa [List.head?_append_of_ne_nil core hne]
  rw [trim, List.append_assoc, hstart, trimEnd_of_getLast? hback hlast]

/-- Nothing is left exactly of blanks. -/
theorem trim_eq_nil_iff : trim cs = [] ↔ ∀ c ∈ cs, isBlank c := by
  constructor
  · intro h
    obtain ⟨front, back, hfront, hback, heq⟩ := exists_blanks_trim cs
    -- With nothing between them the blanks on both sides are the whole text.
    rw [h, List.append_nil] at heq
    rw [heq]
    exact List.forall_mem_append.2 ⟨hfront, hback⟩
  · intro h
    have hstart : trimStart cs = [] := List.dropWhile_eq_nil_iff.2 h
    rw [trim, hstart]
    rfl

end InventoryProbe.Text
