import InventoryProbe.Binary64.Basic
import Mathlib.Tactic.Linarith
import Mathlib.Tactic.Ring

/-!
# Where rounding leads

A magnitude is rounded by its value alone, however it is written as a quotient. What lies so close to a
double that they share more than 53 binary digits is rounded to that double; what lies below one half of a
unit is rounded to zero, and nothing is rounded beyond a power of two.

* **`roundUnits_congr`**: equal quotients are rounded alike.
* **`Close`**, **`roundUnits_eq_of_close`**: what lies close to a double is rounded to it.
* **`roundUnits_eq_zero`**, **`two_pow_le_roundUnits`**: what is certain without the exact value.
-/

namespace InventoryProbe.Binary64

variable {num den units k : Nat}

/-! ## Whole numbers -/

theorem le_roundHalfEven (num den : Nat) : num / den ≤ roundHalfEven num den := by
  unfold roundHalfEven
  grind

/-- A whole number is the nearest if it lies less than one half away. -/
theorem roundHalfEven_eq (hlow : 2 * (k * den) < 2 * num + den) (hhigh : 2 * num < 2 * (k * den) + den) :
    roundHalfEven num den = k := by
  have hpos : 0 < den := by omega
  have hsplit : den * (num / den) + num % den = num := Nat.div_add_mod num den
  have hrest : num % den < den := Nat.mod_lt num hpos
  -- What lies that near is the quotient or the next number.
  have hle : num / den ≤ k := by
    by_contra hlt
    have hstep : (k + 1) * den ≤ num / den * den := Nat.mul_le_mul_right den (Nat.not_le.1 hlt)
    rw [Nat.add_one_mul] at hstep
    rw [Nat.mul_comm] at hsplit
    omega
  have hge : k ≤ num / den + 1 := by
    by_contra hlt
    have hstep : (num / den + 2) * den ≤ k * den := Nat.mul_le_mul_right den (Nat.not_le.1 hlt)
    rw [Nat.add_mul] at hstep
    rw [Nat.mul_comm] at hsplit
    omega
  rw [Nat.mul_comm] at hsplit
  unfold roundHalfEven
  rcases Nat.eq_or_lt_of_le hle with heq | hlt
  · rw [heq] at hsplit ⊢
    exact if_pos (by omega)
  · have heq : k = num / den + 1 := by omega
    rw [heq, Nat.add_one_mul (num / den)] at hlow
    simp only
    rw [if_neg (by omega), if_pos (by omega), heq]

/-- A fraction is rounded alike in any terms. -/
theorem roundHalfEven_mul_left {c : Nat} (hc : 0 < c) (num den : Nat) :
    roundHalfEven (c * num) (c * den) = roundHalfEven num den := by
  have hcompare (a b : Nat) : 2 * (c * a) < c * b ↔ 2 * a < b := by
    rw [Nat.mul_left_comm, Nat.mul_lt_mul_left hc]
  have hcompare' (a b : Nat) : c * b < 2 * (c * a) ↔ b < 2 * a := by
    rw [Nat.mul_left_comm, Nat.mul_lt_mul_left hc]
  unfold roundHalfEven
  simp only [Nat.mul_div_mul_left num den hc, Nat.mul_mod_mul_left, hcompare, hcompare']

/-! ## Quotients -/

/-- A fraction in any terms is rounded to the same number of units. -/
theorem roundUnits_mul_left {c : Nat} (hc : 0 < c) (num den : Nat) :
    roundUnits (c * num) (c * den) = roundUnits num den := by
  unfold roundUnits
  simp only [Nat.mul_div_mul_left num den hc, Nat.mul_assoc, roundHalfEven_mul_left hc]

/-- Equal fractions are rounded to equal numbers of units. -/
theorem roundUnits_congr {num' den' : Nat} (hden : 0 < den) (hden' : 0 < den')
    (h : num * den' = num' * den) : roundUnits num den = roundUnits num' den' :=
  calc roundUnits num den = roundUnits (den' * num) (den' * den) :=
        (roundUnits_mul_left hden' num den).symm
    _ = roundUnits (den * num') (den * den') := by
        rw [Nat.mul_comm den' num, h, Nat.mul_comm num' den, Nat.mul_comm den' den]
    _ = roundUnits num' den' := roundUnits_mul_left hden num' den'

/-! ## Magnitudes -/

theorem unitsPerOne_pos : 0 < unitsPerOne := by
  rw [unitsPerOne, Nat.one_shiftLeft]
  exact Nat.two_pow_pos places

/-- From the 53rd binary digit on the spacing is a power of two. -/
theorem spacing_eq (units : Nat) : spacing units = 2 ^ (units.log2 - 52) := Nat.one_shiftLeft _

theorem spacing_pos (units : Nat) : 0 < spacing units := by
  rw [spacing_eq]
  exact Nat.two_pow_pos _

/-- A multiple of the spacing is the nearest if it lies less than half the spacing away. -/
theorem roundUnits_eq_of_spacing (hmultiple : spacing (num / den) ∣ units)
    (hlow : 2 * (units * den) < 2 * num + den * spacing (num / den))
    (hhigh : 2 * num < 2 * (units * den) + den * spacing (num / den)) :
    roundUnits num den = units := by
  obtain ⟨m, hm⟩ := hmultiple
  have hunits : units * den = m * (den * spacing (num / den)) := by
    rw [hm]
    ring
  rw [hunits] at hlow hhigh
  unfold roundUnits
  simp only [roundHalfEven_eq hlow hhigh]
  rw [Nat.mul_comm, ← hm]

/-- The spacing divides every power of two that is at least as large as the number. -/
theorem spacing_dvd_two_pow (h : units.log2 ≤ k) : spacing units ∣ 2 ^ k := by
  rw [spacing_eq]
  exact Nat.pow_dvd_pow 2 (by omega)

theorem lt_spacing_mul (units : Nat) : units < spacing units * 2 ^ 53 := by
  rw [spacing_eq, ← Nat.pow_add]
  exact Nat.lt_of_lt_of_le Nat.lt_log2_self (Nat.pow_le_pow_right (by decide) (by omega))

/-- That a quotient lies so close to a magnitude that they share more than 53 binary digits. -/
structure Close (num den units : Nat) : Prop where
  pos : 0 < den
  above : units * den * 2 ^ 54 < num * 2 ^ 54 + units * den
  below : num * 2 ^ 54 < units * den * 2 ^ 54 + units * den

/-- What lies close to a double is below the next power of two, as the double is. -/
theorem Close.log2_le (h : Close num den units) (hunits : spacing units ∣ units) :
    (num / den).log2 ≤ units.log2 := by
  -- The double and the next power of two are multiples of the spacing, so they lie that far apart.
  have hbelow : units < 2 ^ (units.log2 + 1) := Nat.lt_log2_self
  have hroom : spacing units ≤ 2 ^ (units.log2 + 1) - units :=
    Nat.le_of_dvd (Nat.sub_pos_of_lt hbelow)
      (Nat.dvd_sub (spacing_dvd_two_pow (Nat.le_succ _)) hunits)
  have hsmall := lt_spacing_mul units
  have hlt : num / den < 2 ^ (units.log2 + 1) := by
    apply Nat.div_lt_of_lt_mul
    have hscaled : units * 2 ^ 54 + units ≤ 2 ^ (units.log2 + 1) * 2 ^ 54 := by omega
    have hden := Nat.mul_le_mul_left den hscaled
    have hnum := h.below
    nlinarith
  by_cases hzero : num / den = 0
  · rw [hzero, Nat.log2_zero]
    exact Nat.zero_le _
  · exact Nat.le_of_lt_succ ((Nat.log2_lt hzero).2 hlt)

/-- What lies close to a double has fewer digits only if the double is a power of two. -/
theorem Close.eq_two_pow (h : Close num den units) (hunits : spacing units ∣ units) (hne : units ≠ 0)
    (hlt : (num / den).log2 < units.log2) : units = 2 ^ units.log2 := by
  obtain ⟨hpos, habove, -⟩ := h
  have hle : 2 ^ units.log2 ≤ units := Nat.log2_self_le hne
  have hsmall := lt_spacing_mul units
  have hnum : num < 2 ^ units.log2 * den := by
    have hquotient : num / den < 2 ^ units.log2 :=
      Nat.lt_of_lt_of_le Nat.lt_log2_self (Nat.pow_le_pow_right (by decide) hlt)
    exact (Nat.div_lt_iff_lt_mul hpos).1 hquotient
  have hscaled : units * 2 ^ 54 < 2 ^ units.log2 * 2 ^ 54 + units := by
    have hden : units * 2 ^ 54 * den < (2 ^ units.log2 * 2 ^ 54 + units) * den := by nlinarith
    exact Nat.lt_of_mul_lt_mul_right hden
  -- What is left above the power of two is a multiple of the spacing that is less than half of it.
  have hrest : spacing units ∣ units - 2 ^ units.log2 :=
    Nat.dvd_sub hunits (spacing_dvd_two_pow (Nat.le_refl _))
  have hzero := Nat.eq_zero_of_dvd_of_lt hrest (by omega)
  omega

/-- What lies close to a power of two has no more than one digit less. -/
theorem Close.log2_le_add_one (h : Close num den units) (hpow : units = 2 ^ units.log2) :
    units.log2 ≤ (num / den).log2 + 1 := by
  obtain ⟨hpos, habove, -⟩ := h
  rcases Nat.eq_zero_or_pos units.log2 with hzero | hlog
  · omega
  · -- Half of a power of two is below the quotient, and has one digit less.
    have hhalf : 2 ^ (units.log2 - 1) * 2 = 2 ^ units.log2 := by
      rw [← Nat.pow_succ, Nat.succ_eq_add_one, Nat.sub_add_cancel hlog]
    have hge : 2 ^ (units.log2 - 1) ≤ num / den := by
      apply (Nat.le_div_iff_mul_le hpos).2
      have hdouble : 2 ^ (units.log2 - 1) * den * 2 = units * den := by
        rw [Nat.mul_right_comm, hhalf, ← hpow]
      omega
    have hne : num / den ≠ 0 := Nat.pos_iff_ne_zero.1 (Nat.lt_of_lt_of_le (Nat.two_pow_pos _) hge)
    have hdigits := (Nat.le_log2 hne).2 hge
    omega

/-- The spacing at what lies close to a double is no wider than at the double, and is narrower only at the
beginning of the double's digits. -/
theorem Close.spacing_dvd (h : Close num den units) (hunits : spacing units ∣ units) (hne : units ≠ 0) :
    spacing (num / den) ∣ units ∧ units ≤ spacing (num / den) * 2 ^ 53 := by
  rcases Nat.lt_or_eq_of_le (h.log2_le hunits) with hlt | heq
  · -- The quotient has fewer digits, and then there is a power of two between the two.
    have hpow := h.eq_two_pow hunits hne hlt
    have hlog := h.log2_le_add_one hpow
    constructor
    · rw [hpow]
      exact spacing_dvd_two_pow (Nat.le_of_lt hlt)
    · rw [spacing_eq, ← Nat.pow_add, hpow]
      exact Nat.pow_le_pow_right (by decide) (by omega)
  · -- Both have the same number of digits, and so the same spacing.
    have hsame : spacing (num / den) = spacing units := by rw [spacing_eq, spacing_eq, heq]
    rw [hsame]
    exact ⟨hunits, Nat.le_of_lt (lt_spacing_mul units)⟩

/-- A fraction that is close to a double is rounded to it. -/
theorem roundUnits_eq_of_close (h : Close num den units) (hunits : units % spacing units = 0)
    (hne : units ≠ 0) : roundUnits num den = units := by
  obtain ⟨hmultiple, hle⟩ := h.spacing_dvd (Nat.dvd_of_mod_eq_zero hunits) hne
  obtain ⟨-, habove, hbelow⟩ := h
  have hscaled : units * den ≤ den * spacing (num / den) * 2 ^ 53 := by
    have hden := Nat.mul_le_mul_left den hle
    rwa [Nat.mul_comm den units, ← Nat.mul_assoc] at hden
  exact roundUnits_eq_of_spacing hmultiple (by omega) (by omega)

/-! ## Beyond the digits -/

/-- A fraction of less than half a unit is rounded to nothing. -/
theorem roundUnits_eq_zero (h : 2 * num < den) : roundUnits num den = 0 := by
  have hspacing : spacing (num / den) = 1 := by
    rw [Nat.div_eq_of_lt (by omega)]
    rfl
  apply roundUnits_eq_of_spacing (Nat.dvd_zero _)
  · rw [hspacing]
    omega
  · rw [hspacing]
    omega

/-- Rounding does not go below a power of two. -/
theorem two_pow_le_roundUnits (h : 2 ^ k ≤ num / den) : 2 ^ k ≤ roundUnits num den := by
  have hne : num / den ≠ 0 := Nat.pos_iff_ne_zero.1 (Nat.lt_of_lt_of_le (Nat.two_pow_pos k) h)
  have hlog : k ≤ (num / den).log2 := (Nat.le_log2 hne).2 h
  obtain ⟨m, hm⟩ := spacing_dvd_two_pow (Nat.le_refl (num / den).log2)
  calc 2 ^ k ≤ 2 ^ (num / den).log2 := Nat.pow_le_pow_right (by decide) hlog
    _ = m * spacing (num / den) := by rw [hm, Nat.mul_comm]
    _ ≤ roundUnits num den := by
      apply Nat.mul_le_mul_right
      have hle : m ≤ num / (den * spacing (num / den)) := by
        rw [← Nat.div_div_eq_div_mul, Nat.le_div_iff_mul_le (spacing_pos _), Nat.mul_comm, ← hm]
        exact Nat.log2_self_le hne
      exact Nat.le_trans hle (le_roundHalfEven _ _)

end InventoryProbe.Binary64
