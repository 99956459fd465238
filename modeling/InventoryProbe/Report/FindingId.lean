import InventoryProbe.Document.JsonWriter
import InventoryProbe.Inventory.Object
import InventoryProbe.Report.Sha1

/-!
# Identifiers of findings

A finding is identified by a UUID of version 5 made from the check's name and the object's kind and
identifier, so that it keeps its identifier from run to run, whatever the object is called.
-/

namespace InventoryProbe

/-- The name of a kind inside identifiers. -/
def ObjectKind.identifierName : ObjectKind → String
  | .host => "Host"
  | .datastore => "Datastore"
  | .virtualMachine => "VirtualMachine"
  | .resourcePool => "ResourcePool"
  | .alarm => "Alarm"

namespace FindingId

/-- The namespace of object identifiers, in which all findings are named. -/
def objectNamespace : List UInt8 :=
  [0x6b, 0xa7, 0xb8, 0x12, 0x9d, 0xad, 0x11, 0xd1, 0x80, 0xb4, 0x00, 0xc0, 0x4f, 0xd4, 0x30, 0xc8]

/-- The text that a finding's identifier is made from. -/
def seed (check : String) (object : ObjectRef) : String :=
  check ++ ":" ++ object.kind.identifierName ++ ":" ++ object.id

/-- A byte with its upper bits replaced. -/
def mark (mask bits : UInt8) (byte : UInt8) : UInt8 := (byte &&& mask) ||| bits

/-- Bytes as hexadecimal digits. -/
def hex (bytes : List UInt8) : List Char :=
  bytes.flatMap fun b => [Json.hexDigit (b.toNat / 16), Json.hexDigit (b.toNat % 16)]

/-- The identifier of version 5 for a name. -/
def named (name : List UInt8) : String :=
  let bytes := ((Sha1.digest (objectNamespace ++ name)).modify 6 (mark 0x0F 0x50)).modify 8
    (mark 0x3F 0x80)
  let group (start length : Nat) := hex ((bytes.drop start).take length)
  String.ofList <|
    group 0 4 ++ '-' :: group 4 2 ++ '-' :: group 6 2 ++ '-' :: group 8 2 ++ '-' :: group 10 6

/-- The identifier of the finding that a check makes about an object. -/
def of (check : String) (object : ObjectRef) : String :=
  named (seed check object).toUTF8.toList

end FindingId

end InventoryProbe
