import InventoryProbe.Binary64.Decimal

/-!
# Writing doubles

The fewest decimal digits that read back as the same double, and the three forms in which numbers
are written: plain (`90`, `0.0000001`), as a document's number (`90.0`, `1e-7`) and with two places
(`90.00`).
-/

namespace InventoryProbe

namespace Binary64

/-! ## Shortest digits -/

/-- Which of two equally near decimals is taken. -/
inductive Tie where
  | up
  | even

/-- The power of ten of a positive magnitude's first digit. -/
def leadingExponent (units : Nat) : Int :=
  if unitsPerOne ≤ units then Decimal.length (units / unitsPerOne) - 1
  else -(Decimal.length ((unitsPerOne - 1) / units) : Int)

/-- The value `digits · 10 ^ exponent`, in units, as a numerator and a denominator. -/
def unitsOf (d : Decimal) : Nat × Nat :=
  match d.exponent with
  | .ofNat e => (d.digits * Nat.pow 10 e * unitsPerOne, 1)
  | .negSucc e => (d.digits * unitsPerOne, Nat.pow 10 (e + 1))

/-- Whether the double nearest to a decimal has this magnitude. -/
def readsBack (units : Nat) (d : Decimal) : Bool :=
  let (num, den) := unitsOf d
  roundUnits num den == units

/-- The neighbours of a magnitude among the multiples of `10 ^ exponent`, the nearer one first. -/
def neighbours (tie : Tie) (units : Nat) (exponent : Int) : List Decimal :=
  let (num, den) := match exponent with
    | .ofNat e => (units, Nat.pow 10 e * unitsPerOne)
    | .negSucc e => (units * Nat.pow 10 (e + 1), unitsPerOne)
  let below := num / den
  let rest := num % den
  let upFirst := den < 2 * rest || (den == 2 * rest && match tie with
    | .up => true
    | .even => below % 2 == 1)
  if upFirst then [⟨below + 1, exponent⟩, ⟨below, exponent⟩]
  else [⟨below, exponent⟩, ⟨below + 1, exponent⟩]

/-- A decimal without the zeros at its end, of which at most `fuel` are struck. -/
def strike (fuel : Nat) (d : Decimal) : Decimal :=
  match fuel with
  | 0 => d
  | fuel + 1 =>
    if d.digits ≠ 0 ∧ d.digits % 10 = 0 then strike fuel ⟨d.digits / 10, d.exponent + 1⟩ else d

/-- The fewest digits that read back as a positive magnitude, and among them the nearest. Seventeen
digits always do. -/
def shortest (tie : Tie) (units : Nat) : Decimal :=
  let lead := leadingExponent units
  -- Grids from coarse to fine: the first one with a hit has the fewest digits.
  let candidates := (List.range 17).flatMap fun (n : Nat) => neighbours tie units (lead - n)
  match candidates.find? (readsBack units) with
  | some d => strike 20 d
  | none => ⟨0, 0⟩

/-! ## Forms -/

/-- The digits of a number. -/
def digitText (n : Nat) : List Char := Nat.toDigits 10 n

/-- A decimal in positional form; a whole number has no point. -/
def positional (d : Decimal) : List Char :=
  let ds := digitText d.digits
  match d.exponent with
  | .ofNat e => ds ++ List.replicate e '0'
  | .negSucc e =>
    let padded := List.replicate (e + 2 - ds.length) '0' ++ ds
    padded.take (padded.length - (e + 1)) ++ '.' :: padded.drop (padded.length - (e + 1))

/-- A text behind the sign of its number. -/
def signed (negative : Bool) (cs : List Char) : String :=
  String.ofList (if negative then '-' :: cs else cs)

/-- The plain form: shortest digits, never an exponent, and no point in a whole number. -/
def plain : Binary64 → String
  | .nan => "NaN"
  | .infinite negative => signed negative "inf".toList
  | .finite negative units _ =>
    signed negative (if units = 0 then ['0'] else positional (shortest .up units))

/-- The form with two places: the exact value, an exact half going to the even neighbour. -/
def hundredths : Binary64 → String
  | .nan => "NaN"
  | .infinite negative => signed negative "inf".toList
  | .finite negative units _ =>
    signed negative (positional ⟨roundHalfEven (units * 100) unitsPerOne, -2⟩)

/-- A decimal with one digit before the point and an exponent with its sign. -/
def scientific (d : Decimal) : List Char :=
  let ds := digitText d.digits
  let exponent := d.exponent + ds.length - 1
  let fraction := ds.drop 1
  ds.take 1 ++ (if fraction.isEmpty then [] else '.' :: fraction) ++
    (if exponent < 0 then ['e', '-'] else ['e', '+']) ++ digitText exponent.natAbs

/-- The form in a document: shortest digits with a point or an exponent; positional from `10⁻⁵` up
to `10¹⁶`. What is not finite has no such form. -/
def literal? : Binary64 → Option String
  | .finite negative units _ =>
    if units = 0 then some (signed negative "0.0".toList)
    else
      let d := shortest .even units
      let lead := d.exponent + Decimal.length d.digits - 1
      some <| signed negative <|
        if lead < -5 ∨ 16 ≤ lead then scientific d
        else if 0 ≤ d.exponent then positional d ++ ['.', '0']
        else positional d
  | _ => none

end Binary64

end InventoryProbe
