import Mathlib.Data.Option.Basic
import Mathlib.Order.Defs.Unbundled
import InventoryProbe.Proofs.Binary64.Rounding

/-!
# Doubles in order

Doubles are compared by their places on the number line, so that they are in order as whole numbers are,
but for `nan`, which has no place and is neither above nor below anything. Whole numbers of no more than
53 binary digits are doubles, and are in order among them as they are among themselves.
-/

namespace InventoryProbe

namespace Binary64

/-- Comparison is transitive. What is no number compares with nothing, and so gets in no one's way. -/
theorem le_trans {a b c : Binary64} (hab : a ≤ b) (hbc : b ≤ c) : a ≤ c := by
  obtain ⟨x, hx, y, hy, hxy⟩ := hab
  obtain ⟨y', hy', z, hz, hyz⟩ := hbc
  -- The number in the middle has one place only.
  have hplace : y = y' := Option.mem_unique hy hy'
  exact ⟨x, hx, z, hz, Int.le_trans hxy (hplace ▸ hyz)⟩

instance : IsTrans Binary64 (· ≤ ·) := ⟨fun _ _ _ => le_trans⟩

section Places

variable {a b : Binary64} {x y : Int}

/-- Numbers compare as their places do. -/
theorem le_iff_of_place (ha : a.place = some x) (hb : b.place = some y) : a ≤ b ↔ x ≤ y := by
  show (∃ u ∈ a.place, ∃ v ∈ b.place, u ≤ v) ↔ x ≤ y
  rw [ha, hb]
  simp only [Option.mem_some_iff, exists_eq_left']

/-- Numbers that have places can be compared. -/
theorem not_lt_iff_of_place (ha : a.place = some x) (hb : b.place = some y) : ¬ a < b ↔ b ≤ a := by
  show ¬ (a ≤ b ∧ ¬ b ≤ a) ↔ b ≤ a
  rw [le_iff_of_place ha hb, le_iff_of_place hb ha]
  omega

end Places

theorem not_nan_le (a : Binary64) : ¬ nan ≤ a := by
  rintro ⟨x, hx, -⟩
  cases hx

theorem not_le_nan (a : Binary64) : ¬ a ≤ nan := by
  rintro ⟨-, -, y, hy, -⟩
  cases hy

/-! ## The other sign -/

/-- A change of sign mirrors the place. -/
theorem place_neg (a : Binary64) : (-a).place = a.place.map (- ·) := by
  cases a with
  | nan => rfl
  | infinite negative =>
    cases negative with
    | false => rfl
    | true => exact congrArg some (Int.neg_neg _).symm
  | finite negative units fits =>
    cases negative with
    | false => rfl
    | true => exact congrArg some (Int.neg_neg _).symm

/-- The other sign turns the number line around. -/
theorem neg_le_neg_iff {a b : Binary64} : -b ≤ -a ↔ a ≤ b := by
  show (∃ x ∈ (-b).place, ∃ y ∈ (-a).place, x ≤ y) ↔ ∃ x ∈ a.place, ∃ y ∈ b.place, x ≤ y
  rw [place_neg, place_neg]
  -- A pair of places on one side gives the mirrored pair, the other way round, on the other.
  constructor
  · rintro ⟨x, hx, y, hy, hle⟩
    obtain ⟨v, hv, rfl⟩ := Option.mem_map.1 hx
    obtain ⟨u, hu, rfl⟩ := Option.mem_map.1 hy
    exact ⟨u, hu, v, hv, Int.le_of_neg_le_neg hle⟩
  · rintro ⟨u, hu, v, hv, hle⟩
    exact ⟨-v, Option.mem_map_of_mem _ hv, -u, Option.mem_map_of_mem _ hu, Int.neg_le_neg hle⟩

/-! ## Whole numbers -/

/-- A whole number of units that keeps to the spacing is not rounded. -/
theorem roundUnits_one {units : Nat} (h : units % spacing units = 0) : roundUnits units 1 = units := by
  have hpos := spacing_pos units
  apply roundUnits_eq_of_spacing
  all_goals rw [Nat.div_one]
  · exact Nat.dvd_of_mod_eq_zero h
  · omega
  · omega

/-- A number of 53 binary digits keeps to the spacing however far it is shifted. -/
theorem mul_shiftLeft_mod_spacing {n : Nat} (h : n < 1 <<< 53) (k : Nat) :
    n * 1 <<< k % spacing (n * 1 <<< k) = 0 := by
  rw [Nat.one_shiftLeft] at h ⊢
  have hlog : (n * 2 ^ k).log2 - 52 ≤ k := by
    by_cases hzero : n * 2 ^ k = 0
    · rw [hzero, Nat.log2_zero, Nat.zero_sub]
      exact Nat.zero_le k
    · have hlt : n * 2 ^ k < 2 ^ (53 + k) :=
        calc n * 2 ^ k < 2 ^ 53 * 2 ^ k := Nat.mul_lt_mul_of_pos_right h (Nat.two_pow_pos k)
          _ = 2 ^ (53 + k) := (Nat.pow_add 2 53 k).symm
      have hlog := (Nat.log2_lt hzero).2 hlt
      omega
  -- All digits that the spacing does without are zeros that the shift has brought in.
  rw [spacing, Nat.one_shiftLeft]
  exact Nat.mod_eq_zero_of_dvd (Nat.dvd_mul_left_of_dvd (Nat.pow_dvd_pow 2 hlog) n)

/-- The bounds of a product with a power of two. -/
theorem mul_shiftLeft_lt {n i j : Nat} (h : n < 1 <<< i) (hij : i ≤ j) (k : Nat) :
    n * 1 <<< k < 1 <<< (j + k) := by
  rw [Nat.one_shiftLeft] at h
  rw [Nat.one_shiftLeft, Nat.one_shiftLeft, Nat.pow_add]
  have hn : n < 2 ^ j := Nat.lt_of_lt_of_le h (Nat.pow_le_pow_right (by decide) hij)
  exact Nat.mul_lt_mul_of_pos_right hn (Nat.two_pow_pos k)

theorem fits_mul_unitsPerOne {n : Nat} (h : n < 1 <<< 53) : Fits (n * unitsPerOne) :=
  ⟨@mul_shiftLeft_lt n 53 digits h (by decide) places, mul_shiftLeft_mod_spacing h places⟩

/-- A whole number of no more than 53 bits stands at its own place. -/
theorem place_ofNat {n : Nat} (h : n < 1 <<< 53) : (ofNat n).place = some ↑(n * unitsPerOne) := by
  obtain ⟨hlimit, hspacing⟩ := fits_mul_unitsPerOne h
  have hround : roundUnits (n * unitsPerOne) 1 = n * unitsPerOne := roundUnits_one hspacing
  unfold ofNat ofUnits
  rw [dif_pos (by rwa [hround])]
  simp only [hround]
  rfl

theorem place_zero : (0 : Binary64).place = some 0 := by
  have hzero : (0 : Binary64).place = some ↑(0 * unitsPerOne) := place_ofNat (by decide)
  rwa [Nat.zero_mul] at hzero

/-- Whole numbers of no more than 53 bits compare as doubles as they do by themselves. -/
theorem ofNat_le_ofNat_iff {a b : Nat} (ha : a < 1 <<< 53) (hb : b < 1 <<< 53) :
    ofNat a ≤ ofNat b ↔ a ≤ b := by
  rw [le_iff_of_place (place_ofNat ha) (place_ofNat hb), Int.ofNat_le]
  exact Nat.mul_le_mul_right_iff unitsPerOne_pos

end Binary64

end InventoryProbe
