import InventoryProbe.Document.Codec
import InventoryProbe.Document.JsonReader

/-!
# Layouts of records

A layout lists the fields of a record in their order of declaration. Reader and writer of the
record both follow it. A record is written as an object, and read from an object with its members
in any order or from a list of its fields in declared order; of some forms the list may go on.

Faults are met in document order: those of the members first, then the fields that no member gave.
-/

namespace InventoryProbe

/-- A field of the record `ρ`: its name in a document, how its value is read and written, and the
value it has where the document does not mention it. -/
structure Field (ρ α : Type) where
  name : String
  codec : Codec α
  absent : Option α
  get : ρ → α

/-- The fields of the record `ρ`, up to the function that takes the values of those to come. -/
inductive Layout (ρ : Type) : Type → Type 1 where
  | start {κ : Type} (make : κ) : Layout ρ κ
  | field {α κ : Type} (before : Layout ρ (α → κ)) (f : Field ρ α) : Layout ρ κ

/-- What becomes of a member that no field is named after. -/
inductive Strangers where
  /-- It has to be well formed, but nothing in it is decoded. -/
  | skipped
  /-- It is kept for another reader, which decodes every text in it. -/
  | kept
  | refused
  deriving DecidableEq

namespace Layout

variable {ρ : Type}

/-- One more field, which a document must mention. -/
def required {α κ : Type} (before : Layout ρ (α → κ)) (name : String) (codec : Codec α)
    (get : ρ → α) : Layout ρ κ :=
  before.field ⟨name, codec, none, get⟩

/-- One more field, with the value it has where a document does not mention it. -/
def defaulted {α κ : Type} (before : Layout ρ (α → κ)) (name : String) (codec : Codec α)
    (absent : α) (get : ρ → α) : Layout ρ κ :=
  before.field ⟨name, codec, some absent, get⟩

/-- One more field, which is absent where a document does not mention it or gives `null`. -/
def optional {α κ : Type} (before : Layout ρ (Option α → κ)) (name : String) (codec : Codec α)
    (get : ρ → Option α) : Layout ρ κ :=
  before.field ⟨name, codec.optional, some none, get⟩

/-- The names of the fields, in order of declaration. -/
def names {κ : Type} : Layout ρ κ → List String
  | .start _ => []
  | .field before f => before.names ++ [f.name]

/-- Whether a value is one of the field with the given name; `none` if there is no such field. -/
def admits? {κ : Type} (form : Form) (name : String) (value : Document) :
    Layout ρ κ → Option (Except ReadError Unit)
  | .start _ => none
  | .field before f =>
    if f.name = name then some ((f.codec.read form value).map fun _ => ())
    else before.admits? form name value

/-- The first fault among the members, in document order; `seen` are the fields given so far. -/
def scan {κ : Type} (layout : Layout ρ κ) (strangers : Strangers) (form : Form)
    (seen : List String) : List (Option String × Document) → Except ReadError Unit
  | [] => .ok ()
  | (none, _) :: _ => .error .malformed
  | (some name, value) :: rest =>
    match layout.admits? form name value with
    | some admitted =>
      -- A field given twice is a fault before its second value is looked at.
      if name ∈ seen then .error (.duplicateField name)
      else do
        admitted
        layout.scan strangers form (name :: seen) rest
    | none =>
      match strangers with
      | .refused => .error (.unknownField name layout.names)
      | .kept =>
        if value.isReadable then layout.scan strangers form seen rest else .error .malformed
      | .skipped =>
        if value.isComplete then layout.scan strangers form seen rest else .error .malformed

/-- The record whose values are found by name; a field without value is the fault of the first one
declared. -/
def gather {κ : Type} (form : Form) (find : String → Option Document) :
    Layout ρ κ → Except ReadError κ
  | .start make => .ok make
  | .field before f => do
    let g ← before.gather form find
    match find f.name, f.absent with
    | some value, _ => return g (← f.codec.read form value)
    | none, some a => return g a
    | none, none => .error (.missingField f.name)

/-- The record whose values are given in declared order, and the values left over. -/
def take {κ : Type} (form : Form) (items : List Document) :
    Layout ρ κ → Except ReadError (κ × List Document)
  | .start make => .ok (make, items)
  | .field before f => do
    let (g, rest) ← before.take form items
    match rest, f.absent with
    | value :: rest, _ => return (g (← f.codec.read form value), rest)
    | [], some a => return (g a, [])
    | [], none => .error .malformed

/-- The record that a document holds. -/
def read {κ : Type} (layout : Layout ρ κ) (strangers : Strangers) (form : Form) :
    Document → Except ReadError κ
  | .object members => do
    layout.scan strangers form [] members
    layout.gather form (Document.member? members)
  | .list items => do
    let (record, rest) ← layout.take form items
    if rest.isEmpty || form.allowsSurplus then .ok record else .error .malformed
  | _ => .error .malformed

/-- The members that write a record, in order of declaration. -/
def members {κ : Type} (record : ρ) : Layout ρ κ → List (Option String × Document)
  | .start _ => []
  | .field before f => before.members record ++ [(some f.name, f.codec.write (f.get record))]

/-- The codec of a record. -/
def codec (layout : Layout ρ ρ) (strangers : Strangers) : Codec ρ where
  read := layout.read strangers
  write record := .object (layout.members record)

end Layout

/-- The value of a JSON text. -/
def Codec.readJson {α : Type} (c : Codec α) (source : String) : Except ReadError α :=
  match Json.read source.toList with
  | (document, ended) => do
    let a ← c.read .streamed document
    if ended then .ok a else .error .malformed

end InventoryProbe
