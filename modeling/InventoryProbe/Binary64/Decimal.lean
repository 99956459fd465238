import InventoryProbe.Binary64.Basic
import InventoryProbe.Text.Ascii

/-!
# Reading decimal numbers

A decimal text and the double nearest to it. The text is a whole number of digits with an optional
fraction and an optional power of ten; its value is kept exact until the one rounding.
-/

namespace InventoryProbe

open Text (isDigit numberOf asciiLower)

/-- The number `digits · 10 ^ exponent`. -/
structure Decimal where
  digits : Nat
  exponent : Int
  deriving DecidableEq

namespace Decimal

/-- How many digits are written for a number. -/
def length (n : Nat) : Nat := (Nat.toDigits 10 n).length

/-- The exponent behind an `e`: an optional sign and at least one digit. -/
def exponent? (cs : List Char) : Option Int :=
  match cs with
  | '-' :: ds => if !ds.isEmpty && ds.all isDigit then some (-(numberOf 10 ds)) else none
  | '+' :: ds => if !ds.isEmpty && ds.all isDigit then some (numberOf 10 ds) else none
  | ds => if !ds.isEmpty && ds.all isDigit then some (numberOf 10 ds) else none

/-- An unsigned decimal text: digits, a point anywhere among or beside them, and an exponent, of
which only one digit is required. -/
def parse? (cs : List Char) : Option Decimal :=
  let whole := cs.takeWhile isDigit
  let (fraction, rest) := match cs.dropWhile isDigit with
    | '.' :: r => (r.takeWhile isDigit, r.dropWhile isDigit)
    | r => ([], r)
  if whole.isEmpty && fraction.isEmpty then none
  else
    let scaled (e : Int) : Decimal := ⟨numberOf 10 (whole ++ fraction), e - fraction.length⟩
    match rest with
    | [] => some (scaled 0)
    | e :: r => if asciiLower e = 'e' then (exponent? r).map scaled else none

end Decimal

namespace Binary64

/-- The double nearest to a decimal number. Numbers from `10³¹⁰` on and those below `10⁻³³⁰` are
infinite and zero in any case and are told by their first digit's place alone. -/
def ofDecimal (negative : Bool) (d : Decimal) : Binary64 :=
  let lead := d.exponent + Decimal.length d.digits
  if d.digits = 0 ∨ lead < -330 then .finite negative 0 fits_zero
  else if 310 < lead then .infinite negative
  else match d.exponent with
    | .ofNat e => ofUnits negative (d.digits * Nat.pow 10 e * unitsPerOne) 1
    | .negSucc e => ofUnits negative (d.digits * unitsPerOne) (Nat.pow 10 (e + 1))

/-- A number text: an optional sign, and a decimal text, `inf`, `infinity` or `nan`, the words in
any case. -/
def parse? (cs : List Char) : Option Binary64 :=
  let (negative, body) := match cs with
    | '-' :: r => (true, r)
    | '+' :: r => (false, r)
    | r => (false, r)
  let word := body.map asciiLower
  if word = "inf".toList ∨ word = "infinity".toList then some (.infinite negative)
  else if word = "nan".toList then some .nan
  else (Decimal.parse? body).map (ofDecimal negative)

end Binary64

end InventoryProbe
