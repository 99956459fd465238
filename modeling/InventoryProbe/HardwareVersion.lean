import InventoryProbe.Document.Codec
import InventoryProbe.Text.Ascii
import InventoryProbe.Text.Blank

/-!
# Virtual hardware versions

The generation of the virtual hardware that a machine is given. Inventories write it `vmx-19`;
operators may leave the `vmx-` out.
-/

namespace InventoryProbe

open Text (isDigit numberOf padded trim equalIgnoringAsciiCase)

/-- A generation of virtual hardware. -/
structure HardwareVersion where
  number : UInt32
  deriving DecidableEq, Repr

namespace HardwareVersion

instance : LE HardwareVersion := ⟨fun a b => a.number ≤ b.number⟩

instance : DecidableLE HardwareVersion := fun a b =>
  inferInstanceAs (Decidable (a.number ≤ b.number))

instance : LT HardwareVersion := ⟨fun a b => a.number < b.number⟩

instance : DecidableLT HardwareVersion := fun a b =>
  inferInstanceAs (Decidable (a.number < b.number))

/-- How many generations the version trails a baseline by; none if it does not trail. -/
def behind (version baseline : HardwareVersion) : Nat :=
  baseline.number.toNat - version.number.toNat

/-- The later of two versions. -/
def latest (a b : HardwareVersion) : HardwareVersion := if a ≤ b then b else a

/-- What a version is written with in front. -/
def tag : List Char := ['v', 'm', 'x', '-']

/-- The text of a version: two digits or as many as are needed. -/
def text (version : HardwareVersion) : String :=
  String.ofList (tag ++ padded 2 version.number.toNat)

/-- The text without a tag in front, if it has one. -/
def withoutTag (cs : List Char) : List Char :=
  if equalIgnoringAsciiCase (cs.take 4) tag then cs.drop 4 else cs

/-- The number that digits, with an optional plus in front, write in 32 binary digits. -/
def number? (cs : List Char) : Option UInt32 :=
  let ds := match cs with
    | '+' :: rest => rest
    | _ => cs
  if ds.isEmpty || !ds.all isDigit then none
  else if h : numberOf 10 ds < UInt32.size then some (UInt32.ofNatLT (numberOf 10 ds) h)
  else none

/-- The version that a text denotes, blanks around it disregarded. -/
def parse? (s : String) : Option HardwareVersion :=
  (number? (withoutTag (trim s.toList))).map HardwareVersion.mk

/-- The words for a text that denotes no version. -/
def refusal (s : String) : String :=
  "invalid hardware version '" ++ s ++ "': expected 'vmx-NN' or 'NN'"

def codec : Codec HardwareVersion :=
  .spelled (fun s => match parse? s with
    | some version => .ok version
    | none => .error (.refused (refusal s))) text

end HardwareVersion

end InventoryProbe
