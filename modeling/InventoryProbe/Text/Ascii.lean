/-!
# ASCII letters and digits

Comparison and folding that know the letters `A` to `Z` only, every other character standing for
itself, and numbers written with ASCII digits.
-/

namespace InventoryProbe.Text

/-- The small letter of an ASCII capital; any other character unchanged. -/
def asciiLower (c : Char) : Char :=
  if 'A' ≤ c ∧ c ≤ 'Z' then Char.ofNat (c.toNat + 32) else c

/-- Whether two texts are equal when the case of ASCII letters is disregarded. -/
def equalIgnoringAsciiCase (a b : List Char) : Bool := a.map asciiLower == b.map asciiLower

/-- Whether a character is one of the digits `0` to `9`. -/
def isDigit (c : Char) : Bool := '0' ≤ c && c ≤ '9'

/-- Whether a character is a hexadecimal digit. -/
def isHexDigit (c : Char) : Bool :=
  isDigit c || ('a' ≤ c && c ≤ 'f') || ('A' ≤ c && c ≤ 'F')

/-- The value of a hexadecimal digit, and of the digits of every smaller base. -/
def digitValue (c : Char) : Nat :=
  if 'a' ≤ c ∧ c ≤ 'f' then c.toNat - 'a'.toNat + 10
  else if 'A' ≤ c ∧ c ≤ 'F' then c.toNat - 'A'.toNat + 10
  else c.toNat - '0'.toNat

/-- The number that digits of the given base write, the most significant first. -/
def numberOf (base : Nat) (digits : List Char) : Nat :=
  digits.foldl (fun n c => n * base + digitValue c) 0

/-- A number with at least the given number of decimal digits. -/
def padded (width n : Nat) : List Char :=
  let ds := Nat.toDigits 10 n
  List.replicate (width - ds.length) '0' ++ ds

end InventoryProbe.Text
