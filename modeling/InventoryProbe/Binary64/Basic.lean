/-!
# Binary64

The double-precision numbers in which percentages, ages, sizes and thresholds are measured. A
finite number is a sign and a whole number of units of `2⁻¹⁰⁷⁴`, the smallest distance between two
doubles, so every value is exact and every operation is whole-number arithmetic followed by one
rounding. The rounding is to the nearest double, an exact half going to the even neighbour; that
its result is again a double is `fits_roundUnits`.
-/

namespace InventoryProbe

namespace Binary64

/-- The binary places of the finest number: a unit is `2⁻¹⁰⁷⁴`. -/
def places : Nat := 1074

/-- The binary digits in front of the point: the numbers end before `2¹⁰²⁴`. -/
def digits : Nat := 1024

/-- The number of units in one. -/
def unitsPerOne : Nat := 1 <<< places

/-- The first magnitude, in units, that is out of range. -/
def limit : Nat := 1 <<< (digits + places)

/-- The distance between two doubles next to a magnitude: 53 binary digits are kept. -/
def spacing (units : Nat) : Nat := 1 <<< (units.log2 - 52)

/-- Whether a magnitude, in units, is that of a double. -/
def Fits (units : Nat) : Prop := units < limit ∧ units % spacing units = 0

instance (units : Nat) : Decidable (Fits units) := inferInstanceAs (Decidable (_ ∧ _))

/-- Zero is the magnitude of a double. -/
theorem fits_zero : Fits 0 :=
  ⟨Nat.lt_of_lt_of_eq (Nat.two_pow_pos _) (Nat.one_shiftLeft (digits + places)).symm,
    Nat.zero_mod _⟩

end Binary64

/-- A double-precision number. -/
inductive Binary64 where
  | nan
  | infinite (negative : Bool)
  | finite (negative : Bool) (units : Nat) (fits : Binary64.Fits units)
  deriving DecidableEq

namespace Binary64

/-- The zero above which the positive numbers lie. -/
def zero : Binary64 := .finite false 0 fits_zero

instance : Inhabited Binary64 := ⟨zero⟩

/-! ## Rounding -/

/-- The whole number nearest to `num / den`; an exact half goes to the even neighbour. -/
def roundHalfEven (num den : Nat) : Nat :=
  let whole := num / den
  let rest := num % den
  if 2 * rest < den then whole
  else if den < 2 * rest then whole + 1
  else if whole % 2 = 0 then whole else whole + 1

/-- The double's magnitude nearest to `num / den` units, regardless of the range. -/
def roundUnits (num den : Nat) : Nat :=
  let step := spacing (num / den)
  roundHalfEven num (den * step) * step

theorem roundHalfEven_le (num den : Nat) : roundHalfEven num den ≤ num / den + 1 := by
  unfold roundHalfEven
  grind

/-- A rounded magnitude keeps no more than 53 binary digits. -/
theorem roundUnits_mod_spacing (num den : Nat) :
    roundUnits num den % spacing (roundUnits num den) = 0 := by
  obtain ⟨k, hk⟩ : ∃ k, k = (num / den).log2 - 52 := ⟨_, rfl⟩
  obtain ⟨m, hm⟩ : ∃ m, m = roundHalfEven num (den * 2 ^ k) := ⟨_, rfl⟩
  have hs : spacing (num / den) = 2 ^ k := by rw [hk]; exact Nat.one_shiftLeft _
  have hu : roundUnits num den = m * 2 ^ k := by rw [hm, ← hs]; rfl
  have hle : m ≤ 2 ^ 53 := by
    have h1 : m ≤ num / (den * 2 ^ k) + 1 := hm ▸ roundHalfEven_le _ _
    have h2 : num / den < 2 ^ 53 * 2 ^ k := by
      rw [← Nat.pow_add]
      exact Nat.lt_of_lt_of_le Nat.lt_log2_self (Nat.pow_le_pow_right (by decide) (by omega))
    have h3 : num / (den * 2 ^ k) < 2 ^ 53 := by
      rw [← Nat.div_div_eq_div_mul]
      exact Nat.div_lt_of_lt_mul (by rw [Nat.mul_comm]; exact h2)
    omega
  rw [hu]
  apply Nat.mod_eq_zero_of_dvd
  by_cases hlt : m < 2 ^ 53
  · have hsmall : m * 2 ^ k < 2 ^ (53 + k) := by
      rw [Nat.pow_add]
      exact Nat.mul_lt_mul_of_pos_right hlt (Nat.two_pow_pos k)
    have hlog : (m * 2 ^ k).log2 - 52 ≤ k := by
      by_cases hz : m * 2 ^ k = 0
      · simp [hz]
      · have := (Nat.log2_lt hz).2 hsmall
        omega
    rw [spacing, Nat.one_shiftLeft]
    exact Nat.dvd_trans (Nat.pow_dvd_pow 2 hlog) ⟨m, Nat.mul_comm _ _⟩
  · have hm53 : m = 2 ^ 53 := Nat.le_antisymm hle (Nat.le_of_not_lt hlt)
    rw [hm53, ← Nat.pow_add]
    unfold spacing
    rw [Nat.log2_two_pow, Nat.one_shiftLeft]
    exact Nat.pow_dvd_pow 2 (by omega)

/-- A rounded magnitude below the limit is that of a double. -/
theorem fits_roundUnits {num den : Nat} (h : roundUnits num den < limit) :
    Fits (roundUnits num den) :=
  ⟨h, roundUnits_mod_spacing num den⟩

/-- The double nearest to `num / den` units; beyond the range it is infinite. -/
def ofUnits (negative : Bool) (num den : Nat) : Binary64 :=
  if h : roundUnits num den < limit then .finite negative (roundUnits num den) (fits_roundUnits h)
  else .infinite negative

/-- The double nearest to a whole number. -/
def ofNat (n : Nat) : Binary64 := ofUnits false (n * unitsPerOne) 1

instance (n : Nat) : OfNat Binary64 n := ⟨ofNat n⟩

/-! ## Arithmetic -/

/-- The number with the other sign. -/
def neg : Binary64 → Binary64
  | .nan => .nan
  | .infinite s => .infinite !s
  | .finite s u h => .finite (!s) u h

/-- The product. -/
def mul : Binary64 → Binary64 → Binary64
  | .nan, _ | _, .nan => .nan
  | .infinite s, .infinite t => .infinite (s != t)
  | .infinite s, .finite t v _ => if v = 0 then .nan else .infinite (s != t)
  | .finite s u _, .infinite t => if u = 0 then .nan else .infinite (s != t)
  | .finite s u _, .finite t v _ => ofUnits (s != t) (u * v) unitsPerOne

/-- The quotient. -/
def div : Binary64 → Binary64 → Binary64
  | .nan, _ | _, .nan => .nan
  | .infinite _, .infinite _ => .nan
  | .infinite s, .finite t _ _ => .infinite (s != t)
  | .finite s _ _, .infinite t => .finite (s != t) 0 fits_zero
  | .finite s u _, .finite t v _ =>
    if v = 0 then if u = 0 then .nan else .infinite (s != t)
    else ofUnits (s != t) (u * unitsPerOne) v

instance : Neg Binary64 := ⟨neg⟩
instance : Mul Binary64 := ⟨mul⟩
instance : Div Binary64 := ⟨div⟩

/-- A part as a percentage of a whole. -/
def percentage (part whole : Nat) : Binary64 := ofNat part / ofNat whole * 100

/-! ## Order -/

/-- The place on the number line, in units; `nan` has none. The infinities lie beyond every
finite number, and the two zeros share one place. -/
def place : Binary64 → Option Int
  | .nan => none
  | .infinite negative => some (if negative then -limit else limit)
  | .finite negative units _ => some (if negative then -units else units)

instance : LE Binary64 where
  le a b := ∃ x ∈ a.place, ∃ y ∈ b.place, x ≤ y

instance : DecidableLE Binary64 := fun a b =>
  match ha : a.place, hb : b.place with
  | some x, some y =>
    if h : x ≤ y then isTrue ⟨x, ha, y, hb, h⟩
    else isFalse fun ⟨x', hx, y', hy, hle⟩ => by
      rw [ha] at hx
      rw [hb] at hy
      cases hx
      cases hy
      exact h hle
  | none, _ => isFalse fun ⟨_, hx, _⟩ => by rw [ha] at hx; cases hx
  | some _, none => isFalse fun ⟨_, _, _, hy, _⟩ => by rw [hb] at hy; cases hy

instance : LT Binary64 where
  lt a b := a ≤ b ∧ ¬ b ≤ a

instance : DecidableLT Binary64 := fun _ _ => inferInstanceAs (Decidable (_ ∧ _))

/-- Whether the number is neither infinite nor `nan`. -/
def isFinite : Binary64 → Bool
  | .finite .. => true
  | _ => false

end Binary64

end InventoryProbe
