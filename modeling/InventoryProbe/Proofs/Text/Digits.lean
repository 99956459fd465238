import InventoryProbe.Text.Ascii
import InventoryProbe.Proofs.Text.Blank
import Mathlib.Algebra.Group.Nat.Defs
import Mathlib.Data.List.Basic
import Mathlib.Tactic.Common

/-!
# Numbers and their digits

The decimal digits of a number write that number again, with zeros in front or without, and they are
told apart from what follows them as long as that is no digit.

* **`numberOf_padded`**: digits write the number they were made of.
* **`length_padded`**: a number that fits its width is as long as it is wide.
* **`takeWhile_isDigit_append`**: the digits in front end where the next character is none.
-/

namespace InventoryProbe.Text

variable {c : Char} {ds rest : List Char} {n width : Nat}

/-! ## Digits -/

/-- Digits are one range of characters. -/
theorem toNat_of_isDigit (h : isDigit c) : 48 ≤ c.toNat ∧ c.toNat ≤ 57 := by
  unfold isDigit at h
  rw [Bool.and_eq_true, decide_eq_true_eq, decide_eq_true_eq] at h
  exact h

/-- Capitals come behind all digits. -/
theorem lt_capital_of_isDigit (h : isDigit c) : ¬ 'A' ≤ c := fun hc =>
  absurd (Nat.le_trans (show 65 ≤ c.toNat from hc) (toNat_of_isDigit h).2) (by decide)

/-- A decimal digit is no letter, so its value is told by its distance from zero. -/
theorem digitValue_of_isDigit (h : isDigit c) : digitValue c = c.toNat - '0'.toNat := by
  have hsmall : ¬ 'a' ≤ c := fun hc =>
    absurd (Nat.le_trans (show 97 ≤ c.toNat from hc) (toNat_of_isDigit h).2) (by decide)
  unfold digitValue
  rw [if_neg fun hc => hsmall hc.1, if_neg fun hc => lt_capital_of_isDigit h hc.1]

theorem asciiLower_of_isDigit (h : isDigit c) : asciiLower c = c :=
  if_neg fun hc => lt_capital_of_isDigit h hc.1

/-- A digit is no blank. -/
theorem isBlank_of_isDigit (h : isDigit c) : isBlank c = false := by
  obtain ⟨hge, hle⟩ := toNat_of_isDigit h
  -- Blanks lie below the digits or beyond them.
  simp only [isBlank, Bool.or_eq_false_iff, Bool.and_eq_false_iff, beq_eq_false_iff_ne,
    decide_eq_false_iff_not]
  omega

/-- Digits stand for the number that they stand for everywhere. -/
theorem numberOf_eq_ofDigitChars (base : Nat) (h : ∀ c ∈ ds, isDigit c) :
    numberOf base ds = Nat.ofDigitChars base ds 0 := by
  unfold numberOf
  rw [Nat.ofDigitChars_eq_foldl]
  refine List.foldl_ext _ _ 0 fun n c hc => ?_
  rw [digitValue_of_isDigit (h c hc), Nat.mul_comm]

/-! ## The digits of a number -/

theorem isDigit_of_mem_toDigits (h : c ∈ Nat.toDigits 10 n) : isDigit c :=
  Nat.isDigit_of_mem_toDigits (by decide) (by decide) h

theorem numberOf_toDigits (n : Nat) : numberOf 10 (Nat.toDigits 10 n) = n := by
  rw [numberOf_eq_ofDigitChars 10 fun c hc => isDigit_of_mem_toDigits hc]
  exact Nat.ofDigitChars_ten_toDigits

/-- No number of two digits or more starts with a zero. -/
theorem toDigits_ne_zero_cons (n : Nat) (c : Char) (ds : List Char) :
    Nat.toDigits 10 n ≠ '0' :: c :: ds := by
  induction n using Nat.strongRecOn generalizing c ds with
  | _ n ih =>
    intro heq
    by_cases hsmall : n < 10
    · rw [Nat.toDigits_of_lt_base hsmall] at heq
      simp at heq
    · have hdigits := Nat.toDigits_of_base_le (b := 10) (n := n) (by decide) (by omega)
      rw [heq] at hdigits
      -- All digits but the last are those of a tenth of the number.
      cases htenth : Nat.toDigits 10 (n / 10) with
      | nil => exact Nat.toDigits_ne_nil htenth
      | cons first more =>
        rw [htenth, List.cons_append, List.cons.injEq] at hdigits
        obtain ⟨rfl, hmore⟩ := hdigits
        cases more with
        | cons second more => exact ih (n / 10) (by omega) second more htenth
        | nil =>
          -- The tenth is zero, and then the number was a single digit.
          have hzero : n / 10 = 0 := by
            rw [← numberOf_toDigits (n / 10), htenth]
            rfl
          omega

/-! ## Numbers of some width -/

/-- Zeros in front are digits as well. -/
theorem isDigit_of_mem_padded (h : c ∈ padded width n) : isDigit c := by
  rcases List.mem_append.1 h with hzero | hdigit
  · rw [List.eq_of_mem_replicate hzero]
    rfl
  · exact isDigit_of_mem_toDigits hdigit

theorem padded_ne_nil (width n : Nat) : padded width n ≠ [] := by
  unfold padded
  exact List.append_ne_nil_of_right_ne_nil _ Nat.toDigits_ne_nil

/-- A padded number begins with a digit. -/
theorem exists_padded_eq_cons (width n : Nat) :
    ∃ c more, padded width n = c :: more ∧ isDigit c := by
  obtain ⟨c, more, heq⟩ := List.exists_cons_of_ne_nil (padded_ne_nil width n)
  exact ⟨c, more, heq, isDigit_of_mem_padded (heq ▸ List.mem_cons_self)⟩

/-- A padded number is at least as wide as it is to be. -/
theorem le_length_padded (width n : Nat) : width ≤ (padded width n).length := by
  unfold padded
  rw [List.length_append, List.length_replicate]
  omega

/-- A padded number is no wider, unless it is too large for the width. -/
theorem length_padded (hwidth : 0 < width) (h : n < 10 ^ width) :
    (padded width n).length = width := by
  have hle := (Nat.length_toDigits_le_iff (b := 10) (by decide) hwidth).2 h
  unfold padded
  rw [List.length_append, List.length_replicate]
  omega

/-- Zeros in front do not count. -/
theorem numberOf_padded (width n : Nat) : numberOf 10 (padded width n) = n := by
  have hzeros (k : Nat) : numberOf 10 (List.replicate k '0' ++ Nat.toDigits 10 n)
      = numberOf 10 (Nat.toDigits 10 n) := by
    induction k with
    | zero => rfl
    | succ k ih => exact ih
  exact (hzeros _).trans (numberOf_toDigits n)

/-! ## Blanks around a number -/

/-- No blanks stand in front of a number. -/
theorem trimStart_padded_append (width n : Nat) (rest : List Char) :
    trimStart (padded width n ++ rest) = padded width n ++ rest := by
  obtain ⟨c, more, heq, hdigit⟩ := exists_padded_eq_cons width n
  rw [heq, List.cons_append]
  exact trimStart_cons (isBlank_of_isDigit hdigit) _

/-- No blanks stand behind a number. -/
theorem trimEnd_append_padded (front : List Char) (width n : Nat) :
    trimEnd (front ++ padded width n) = front ++ padded width n := by
  have hlast : ∀ c ∈ (front ++ padded width n).getLast?, isBlank c = false := by
    intro c hc
    rw [List.getLast?_append_of_ne_nil _ (padded_ne_nil width n)] at hc
    exact isBlank_of_isDigit (isDigit_of_mem_padded (List.mem_of_getLast? hc))
  have htrim := trimEnd_of_getLast? (List.forall_mem_nil _) hlast
  rwa [List.append_nil] at htrim

/-! ## What follows -/

/-- That no digit stands in front. -/
def EndsDigits (rest : List Char) : Prop := ∀ c ∈ rest.head?, ¬ isDigit c

theorem endsDigits_cons (h : isDigit c = false) (cs : List Char) : EndsDigits (c :: cs) := by
  rintro _ ⟨⟩
  simp [h]

/-- The digits in front of something else are read in full. -/
theorem takeWhile_isDigit_append (hds : ∀ c ∈ ds, isDigit c) (hrest : EndsDigits rest) :
    (ds ++ rest).takeWhile isDigit = ds := by
  rw [List.takeWhile_append_of_pos hds]
  cases rest with
  | nil => simp
  | cons c rest => simp [hrest c rfl]

/-- Behind the digits the rest is left. -/
theorem dropWhile_isDigit_append (hds : ∀ c ∈ ds, isDigit c) (hrest : EndsDigits rest) :
    (ds ++ rest).dropWhile isDigit = rest := by
  rw [List.dropWhile_append_of_pos hds]
  cases rest with
  | nil => rfl
  | cons c rest => simp [hrest c rfl]

end InventoryProbe.Text
