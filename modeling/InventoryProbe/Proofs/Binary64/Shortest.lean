import InventoryProbe.Binary64.Shortest
import InventoryProbe.Proofs.Binary64.Rounding
import Mathlib.Algebra.Order.Field.Power
import Mathlib.Algebra.Order.Ring.Rat
import Mathlib.Data.Nat.Digits.Defs
import Mathlib.Tactic.FieldSimp
import Mathlib.Tactic.LinearCombination
import Mathlib.Tactic.NormNum
import Mathlib.Tactic.Positivity

/-!
# The shortest digits read back

Among the multiples of a power of ten that lies sixteen places behind a magnitude's first digit, the one
next to it shares more than 53 binary digits with it. So the search for the shortest digits finds some,
and whatever it finds is rounded to the magnitude that it was made for.

* **`exists_neighbour`**: a neighbour lies no more than half a step away.
* **`readsBack_shortest`**: the shortest digits of a double are rounded to that double.
* **`ofDecimal_of_readsBack`**: so is whatever has their value, and no bound on the exponent is in the way.
-/

namespace InventoryProbe

/-! ## Values -/

namespace Decimal

/-- The number that a decimal writes. -/
def value (d : Decimal) : ℚ := d.digits * 10 ^ d.exponent

variable {n : Nat}

theorem length_pos (n : Nat) : 0 < length n := List.length_pos_iff.2 Nat.toDigits_ne_nil

/-- A number has fewer digits than the power of ten above it. -/
theorem lt_pow_length (n : Nat) : n < 10 ^ length n :=
  (Nat.length_toDigits_le_iff (by decide) (length_pos n)).1 (Nat.le_refl _)

/-- A number is at least the power of ten with as many digits. -/
theorem pow_length_le (h : n ≠ 0) : 10 ^ (length n - 1) ≤ n := by
  by_contra hlt
  have hpos := length_pos n
  rcases Nat.eq_zero_or_pos (length n - 1) with hone | hmore
  · rw [hone] at hlt
    omega
  · have hle := (Nat.length_toDigits_le_iff (b := 10) (by decide) hmore).2 (Nat.not_le.1 hlt)
    unfold length at hle hpos
    omega

/-- The place of the leading digit bounds a decimal from above. -/
theorem value_lt (d : Decimal) : d.value < 10 ^ (d.exponent + length d.digits) := by
  have hdigits : (d.digits : ℚ) < 10 ^ length d.digits := by exact_mod_cast lt_pow_length d.digits
  rw [add_comm, zpow_add₀ (by norm_num), zpow_natCast]
  exact mul_lt_mul_of_pos_right hdigits (by positivity)

/-- The place of the leading digit bounds a decimal from below, unless the decimal is zero. -/
theorem le_value {d : Decimal} (h : d.digits ≠ 0) :
    (10 : ℚ) ^ (d.exponent + length d.digits - 1) ≤ d.value := by
  have hdigits : (10 : ℚ) ^ (length d.digits - 1) ≤ d.digits := by exact_mod_cast pow_length_le h
  have hpos := length_pos d.digits
  rw [show d.exponent + length d.digits - 1 = ((length d.digits - 1 : Nat) : Int) + d.exponent by omega,
    zpow_add₀ (by norm_num), zpow_natCast]
  exact mul_le_mul_of_nonneg_right hdigits (by positivity)

end Decimal

namespace Binary64

open Decimal (value)

variable {d d' : Decimal} {units : Nat}

theorem cast_unitsPerOne_pos : (0 : ℚ) < unitsPerOne := Nat.cast_pos.2 unitsPerOne_pos

/-! ## Reading back -/

theorem unitsOf_snd_pos (d : Decimal) : 0 < (unitsOf d).2 := by
  unfold unitsOf
  cases d.exponent with
  | ofNat e => exact Nat.one_pos
  | negSucc e => exact Nat.pow_pos (by decide)

/-- The quotient is the value in units. -/
theorem cast_unitsOf (d : Decimal) :
    ((unitsOf d).1 : ℚ) = d.value * unitsPerOne * (unitsOf d).2 := by
  obtain ⟨digits, exponent⟩ := d
  cases exponent with
  | ofNat e =>
    simp only [unitsOf, value, Int.ofNat_eq_natCast, zpow_natCast, Nat.pow_eq]
    push_cast
    ring
  | negSucc e =>
    simp only [unitsOf, value, zpow_negSucc, Nat.pow_eq]
    push_cast
    field_simp

/-- A decimal is read back as a number of units if its fraction is rounded to it. -/
theorem readsBack_iff : readsBack units d ↔ roundUnits (unitsOf d).1 (unitsOf d).2 = units :=
  beq_iff_eq

/-- Only the value tells what is read back. -/
theorem readsBack_congr (h : d.value = d'.value) : readsBack units d = readsBack units d' := by
  have hcross : (unitsOf d).1 * (unitsOf d').2 = (unitsOf d').1 * (unitsOf d).2 := by
    have hcast : ((unitsOf d).1 : ℚ) * (unitsOf d').2 = (unitsOf d').1 * (unitsOf d).2 := by
      rw [cast_unitsOf d, cast_unitsOf d', h]
      ring
    exact_mod_cast hcast
  rw [Bool.eq_iff_iff, readsBack_iff, readsBack_iff,
    roundUnits_congr (unitsOf_snd_pos d) (unitsOf_snd_pos d') hcross]

/-- A decimal that differs from a double by less than `2⁻⁵⁴` of it is read back as the double. -/
theorem readsBack_of_close (hunits : Fits units) (hne : units ≠ 0)
    (h : |d.value * unitsPerOne - units| * 2 ^ 54 < units) : readsBack units d := by
  have hden : (0 : ℚ) < (unitsOf d).2 := Nat.cast_pos.2 (unitsOf_snd_pos d)
  have hnum := cast_unitsOf d
  have habove := neg_abs_le (d.value * unitsPerOne - units)
  have hbelow := le_abs_self (d.value * unitsPerOne - units)
  -- The two sides of the bound, each without its denominators.
  refine readsBack_iff.2 (roundUnits_eq_of_close ⟨unitsOf_snd_pos d, ?_, ?_⟩ hunits.2 hne)
  · have hcast : (units * (unitsOf d).2 * 2 ^ 54 : ℚ)
        < (unitsOf d).1 * 2 ^ 54 + units * (unitsOf d).2 := by
      rw [hnum]
      nlinarith
    exact_mod_cast hcast
  · have hcast : ((unitsOf d).1 * 2 ^ 54 : ℚ)
        < units * (unitsOf d).2 * 2 ^ 54 + units * (unitsOf d).2 := by
      rw [hnum]
      nlinarith
    exact_mod_cast hcast

/-! ## The grid of a power of ten -/

/-- One of the two multiples around a magnitude lies no more than half a step away. -/
theorem near_of_quotient {num den : Nat} (hden : 0 < den) {step : ℚ} (hstep : 0 < step)
    (h : num * step = units * den) :
    |((num / den : Nat) : ℚ) * step - units| * 2 ≤ step ∨
      |((num / den + 1 : Nat) : ℚ) * step - units| * 2 ≤ step := by
  have hpos : (0 : ℚ) < den := Nat.cast_pos.2 hden
  have hsplit : ((num / den : Nat) : ℚ) * den + (num % den : Nat) = num := by
    exact_mod_cast Nat.div_add_mod' num den
  -- In steps, the multiple below is as far away as the rest, the one above as what the rest leaves.
  have hscale (x : ℚ) : |x| * den = |x * den| := by rw [abs_mul, abs_of_pos hpos]
  have hbelow : |((num / den : Nat) : ℚ) * step - units| * den = (num % den : Nat) * step := by
    have hdistance : (((num / den : Nat) : ℚ) * step - units) * den = -((num % den : Nat) * step) := by
      linear_combination step * hsplit + h
    rw [hscale, hdistance, abs_neg, abs_of_nonneg (by positivity)]
  have habove : |((num / den + 1 : Nat) : ℚ) * step - units| * den
      = (den - (num % den : Nat)) * step := by
    have hrest : ((num % den : Nat) : ℚ) ≤ den := Nat.cast_le.2 (Nat.le_of_lt (Nat.mod_lt num hden))
    have hdistance : (((num / den + 1 : Nat) : ℚ) * step - units) * den
        = (den - (num % den : Nat)) * step := by
      push_cast
      linear_combination step * hsplit + h
    rw [hscale, hdistance, abs_of_nonneg (mul_nonneg (sub_nonneg.2 hrest) (le_of_lt hstep))]
  rcases le_total (2 * ((num % den : Nat) : ℚ)) den with hhalf | hhalf
  · left
    refine le_of_mul_le_mul_right ?_ hpos
    nlinarith
  · right
    refine le_of_mul_le_mul_right ?_ hpos
    nlinarith

/-- What the neighbours are the quotients of. -/
theorem exists_quotient (tie : Tie) (units : Nat) (exponent : Int) :
    ∃ num den : Nat, 0 < den ∧ (num : ℚ) * (10 ^ exponent * unitsPerOne) = units * den ∧
      ⟨num / den, exponent⟩ ∈ neighbours tie units exponent ∧
      ⟨num / den + 1, exponent⟩ ∈ neighbours tie units exponent := by
  have hboth (upFirst : Bool) (a b : Decimal) :
      a ∈ (if upFirst then [b, a] else [a, b]) ∧ b ∈ (if upFirst then [b, a] else [a, b]) := by
    cases upFirst <;> simp
  -- For exponents of either sign the power of ten goes to the side on which it is a whole number.
  cases exponent with
  | ofNat e =>
    have hden : 0 < Nat.pow 10 e * unitsPerOne := Nat.mul_pos (Nat.pow_pos (by decide)) unitsPerOne_pos
    refine ⟨units, Nat.pow 10 e * unitsPerOne, hden, ?_, hboth _ _ _⟩
    simp only [Int.ofNat_eq_natCast, zpow_natCast, Nat.pow_eq]
    push_cast
    ring
  | negSucc e =>
    refine ⟨units * Nat.pow 10 (e + 1), unitsPerOne, unitsPerOne_pos, ?_, hboth _ _ _⟩
    simp only [zpow_negSucc, Nat.pow_eq]
    push_cast
    field_simp

/-- One of the two decimals around a double is at most half a step away. -/
theorem exists_neighbour (tie : Tie) (units : Nat) (exponent : Int) :
    ∃ d ∈ neighbours tie units exponent,
      |d.value * unitsPerOne - units| * 2 ≤ 10 ^ exponent * unitsPerOne := by
  obtain ⟨num, den, hden, hquotient, hbelow, habove⟩ := exists_quotient tie units exponent
  have hstep : (0 : ℚ) < 10 ^ exponent * unitsPerOne := mul_pos (by positivity) cast_unitsPerOne_pos
  rcases near_of_quotient hden hstep hquotient with hnear | hnear
  · refine ⟨_, hbelow, ?_⟩
    rwa [value, mul_assoc]
  · refine ⟨_, habove, ?_⟩
    rwa [value, mul_assoc]

/-! ## The first digit -/

/-- The leading exponent is that of a power of ten below the number. -/
theorem leadingExponent_le (h : units ≠ 0) :
    (10 : ℚ) ^ leadingExponent units * unitsPerOne ≤ units := by
  have hpos := unitsPerOne_pos
  unfold leadingExponent
  split
  -- From one upward the length of the whole part tells, below one that of the reciprocal.
  · next hle =>
    have hwhole : units / unitsPerOne ≠ 0 := Nat.pos_iff_ne_zero.1 (Nat.div_pos hle hpos)
    have hpow : 10 ^ (Decimal.length (units / unitsPerOne) - 1) * unitsPerOne ≤ units :=
      (Nat.le_div_iff_mul_le hpos).1 (Decimal.pow_length_le hwhole)
    have hlength := Decimal.length_pos (units / unitsPerOne)
    rw [show (Decimal.length (units / unitsPerOne) : Int) - 1
      = ((Decimal.length (units / unitsPerOne) - 1 : Nat) : Int) by omega, zpow_natCast]
    exact_mod_cast hpow
  · next hlt =>
    have hpow : unitsPerOne ≤ 10 ^ Decimal.length ((unitsPerOne - 1) / units) * units := by
      have hquotient := Decimal.lt_pow_length ((unitsPerOne - 1) / units)
      rw [Nat.div_lt_iff_lt_mul (Nat.pos_of_ne_zero h)] at hquotient
      omega
    rw [zpow_neg, zpow_natCast, inv_mul_le_iff₀ (by positivity)]
    exact_mod_cast hpow

/-! ## The search -/

/-- Zeros that are struck off leave the value as it is. -/
theorem value_strike (fuel : Nat) (d : Decimal) : (strike fuel d).value = d.value := by
  induction fuel generalizing d with
  | zero => rfl
  | succ fuel ih =>
    rw [strike]
    split
    · next h =>
      have hdigits : ((d.digits / 10 : Nat) : ℚ) * 10 = d.digits := by
        exact_mod_cast Nat.div_mul_cancel (Nat.dvd_of_mod_eq_zero h.2)
      rw [ih, value, value, zpow_add_one₀ (by norm_num), mul_comm (10 ^ d.exponent), ← mul_assoc, hdigits]
    · rfl

/-- Seventeen digits are enough. -/
theorem exists_candidate (tie : Tie) (hunits : Fits units) (hne : units ≠ 0) :
    ∃ d ∈ neighbours tie units (leadingExponent units - 16), readsBack units d := by
  obtain ⟨d, hd, hnear⟩ := exists_neighbour tie units (leadingExponent units - 16)
  have hfirst := leadingExponent_le hne
  have hpos : (0 : ℚ) < units := Nat.cast_pos.2 (Nat.pos_of_ne_zero hne)
  have hstep : (10 : ℚ) ^ (leadingExponent units - 16) * 10 ^ 16 = 10 ^ leadingExponent units := by
    rw [zpow_sub₀ (by norm_num)]
    field_simp
  -- Half a unit of the seventeenth digit is less than one part in `2 ^ 54` of the magnitude.
  refine ⟨d, hd, readsBack_of_close hunits hne ?_⟩
  have hscaled : |d.value * unitsPerOne - units| * 2 * 10 ^ 16 ≤ units := by
    refine LE.le.trans ?_ hfirst
    rw [← hstep]
    nlinarith
  linarith

/-- **The shortest digits of a double read back as that double.** -/
theorem readsBack_shortest (tie : Tie) (hunits : Fits units) (hne : units ≠ 0) :
    readsBack units (shortest tie units) := by
  obtain ⟨d, hd, hreads⟩ := exists_candidate tie hunits hne
  unfold shortest
  simp only
  split
  · next found hfound =>
    rw [readsBack_congr (value_strike 20 found)]
    exact List.find?_some hfound
  · -- Seventeen digits are tried in the end, and they always do.
    next hnone =>
    have hmem : d ∈ (List.range 17).flatMap fun n : Nat =>
        neighbours tie units (leadingExponent units - n) := List.mem_flatMap.2 ⟨16, by decide, hd⟩
    exact absurd hreads (List.find?_eq_none.1 hnone d hmem)

/-! ## Reading decimals -/

/-- Nothing but zero is read back from no digits. -/
theorem digits_ne_zero_of_readsBack (h : readsBack units d) (hne : units ≠ 0) : d.digits ≠ 0 := by
  intro hzero
  have hnum : (unitsOf d).1 = 0 := by
    unfold unitsOf
    cases d.exponent <;> simp [hzero]
  rw [readsBack_iff, hnum, roundUnits_eq_zero (unitsOf_snd_pos d)] at h
  exact hne h.symm

/-- What is below half a unit is rounded to zero. -/
theorem roundUnits_unitsOf_eq_zero {k : Nat} (hk : 2 * unitsPerOne ≤ 10 ^ k)
    (h : d.exponent + Decimal.length d.digits ≤ -k) : roundUnits (unitsOf d).1 (unitsOf d).2 = 0 := by
  have hden : (0 : ℚ) < (unitsOf d).2 := Nat.cast_pos.2 (unitsOf_snd_pos d)
  have hvalue : d.value < (10 ^ k)⁻¹ := by
    rw [← zpow_natCast, ← zpow_neg]
    exact lt_of_lt_of_le d.value_lt (zpow_le_zpow_right₀ (by norm_num) h)
  have hbound : (2 * unitsPerOne : ℚ) ≤ 10 ^ k := by exact_mod_cast hk
  have hhalf : d.value * (2 * unitsPerOne) < 1 :=
    calc d.value * (2 * unitsPerOne) < (10 ^ k)⁻¹ * (2 * unitsPerOne) :=
          mul_lt_mul_of_pos_right hvalue (mul_pos two_pos cast_unitsPerOne_pos)
      _ ≤ (10 ^ k)⁻¹ * 10 ^ k := mul_le_mul_of_nonneg_left hbound (by positivity)
      _ = 1 := inv_mul_cancel₀ (by positivity)
  -- The bound holds of fractions as well as of the numbers they are made of.
  apply roundUnits_eq_zero
  have hcast : (2 * (unitsOf d).1 : ℚ) < (unitsOf d).2 := by
    rw [cast_unitsOf]
    nlinarith
  exact_mod_cast hcast

/-- What is not below a power of two is not rounded to less. -/
theorem two_pow_le_roundUnits_unitsOf {j k : Nat} (hk : 2 ^ j ≤ 10 ^ k * unitsPerOne)
    (hdigits : d.digits ≠ 0) (h : k < d.exponent + Decimal.length d.digits) :
    2 ^ j ≤ roundUnits (unitsOf d).1 (unitsOf d).2 := by
  have hden : (0 : ℚ) < (unitsOf d).2 := Nat.cast_pos.2 (unitsOf_snd_pos d)
  have hvalue : (10 : ℚ) ^ k ≤ d.value := by
    rw [← zpow_natCast]
    have hpow : (10 : ℚ) ^ (k : Int) ≤ 10 ^ (d.exponent + Decimal.length d.digits - 1) :=
      zpow_le_zpow_right₀ (by norm_num) (by omega)
    exact hpow.trans (Decimal.le_value hdigits)
  apply two_pow_le_roundUnits
  rw [Nat.le_div_iff_mul_le (unitsOf_snd_pos d)]
  refine Nat.le_trans (Nat.mul_le_mul_right _ hk) ?_
  -- The same bound with the denominator multiplied out.
  have hcast : (10 ^ k * unitsPerOne * (unitsOf d).2 : ℚ) ≤ (unitsOf d).1 := by
    rw [cast_unitsOf]
    exact mul_le_mul_of_nonneg_right
      (mul_le_mul_of_nonneg_right hvalue (le_of_lt cast_unitsPerOne_pos)) (le_of_lt hden)
  exact_mod_cast hcast

/-- The bounds on the exponent pass over nothing that is rounded to a double other than zero. -/
theorem ofDecimal_of_readsBack (h : readsBack units d) (hunits : Fits units) (hne : units ≠ 0)
    (negative : Bool) : ofDecimal negative d = .finite negative units hunits := by
  have hround := readsBack_iff.1 h
  have hdigits := digits_ne_zero_of_readsBack h hne
  -- Neither of the two short cuts is taken: a decimal beyond them is rounded to something else.
  have hlow : ¬ d.exponent + Decimal.length d.digits < -330 := by
    intro hlt
    have hzero := @roundUnits_unitsOf_eq_zero d 330 (by decide +kernel) (by omega)
    exact hne (hround.symm.trans hzero)
  have hhigh : ¬ 310 < d.exponent + Decimal.length d.digits := by
    intro hlt
    have hle := @two_pow_le_roundUnits_unitsOf d (Binary64.digits + places) 310 (by decide +kernel)
      hdigits hlt
    rw [hround, ← Nat.one_shiftLeft] at hle
    exact Nat.not_lt.2 hle hunits.1
  have hunitsOf : ofDecimal negative d = ofUnits negative (unitsOf d).1 (unitsOf d).2 := by
    unfold ofDecimal unitsOf
    simp only
    rw [if_neg (not_or.2 ⟨hdigits, hlow⟩), if_neg hhigh]
    cases d.exponent <;> rfl
  rw [hunitsOf, ofUnits, dif_pos (by rw [hround]; exact hunits.1)]
  simp only [hround]

end Binary64

end InventoryProbe
