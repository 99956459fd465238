import Std.Data.ExtTreeMap
import Std.Data.ExtTreeSet
import InventoryProbe.Binary64.Shortest
import InventoryProbe.Document.Basic

/-!
# Reading and writing values

A codec reads a value from a document and writes it into one. Reading is exact about kinds: a
number is never taken for a text, a whole number is written with digits only, and `null` stands for
an absent value and nothing else. In a few places it depends on the form of the document how freely
a value may be written.
-/

namespace InventoryProbe

open Std (ExtTreeMap ExtTreeSet)

/-! ## Faults -/

/-- Why a document is not the value it is read for. -/
inductive ReadError where
  | missingField (name : String)
  | unknownVariant (given : String) (known : List String)
  | unknownField (given : String) (known : List String)
  | duplicateField (name : String)
  /-- A text that its own reader refuses, with that reader's words. -/
  | refused (reason : String)
  /-- Text that is no document, or a value of another kind or out of range. -/
  | malformed
  deriving DecidableEq, Repr

namespace ReadError

/-- A name between marks. -/
def marked (name : String) : String := "`" ++ name ++ "`"

/-- The names that would have been understood. -/
def expected : List String → String
  | [only] => "expected " ++ marked only
  | [first, second] => "expected " ++ marked first ++ " or " ++ marked second
  | names => "expected one of " ++ String.intercalate ", " (names.map marked)

/-- The words for a fault, where it has fixed words. -/
def message : ReadError → Option String
  | .missingField name => some ("missing field " ++ marked name)
  | .unknownVariant given known =>
    some ("unknown variant " ++ marked given ++ ", " ++ expected known)
  | .unknownField given known => some ("unknown field " ++ marked given ++ ", " ++ expected known)
  | .duplicateField name => some ("duplicate field " ++ marked name)
  | .refused reason => some reason
  | .malformed => none

end ReadError

/-! ## Forms -/

/-- The form that a value is read from. -/
inductive Form where
  /-- A text, of which each part is read as soon as it is met. -/
  | streamed
  /-- A document that is at hand as a whole. -/
  | whole
  /-- Part of a document that was held back until what stands around it had been read. -/
  | held
  /-- A settings file. -/
  | settings
  deriving DecidableEq, Repr

namespace Form

/-- Whether a document says that nothing goes with a name. -/
def isNothing : Form → Document → Bool
  | .streamed, .null | .whole, .null => true
  | .held, .null | .held, .object [] => true
  | .settings, .object [] | .settings, .list [] => true
  | _, _ => false

/-- Whether a list may go on behind the last field of the record that it stands for. -/
def allowsSurplus : Form → Bool
  | .settings => true
  | .streamed | .whole | .held => false

end Form

/-- How a value is read from a document and written into one. -/
structure Codec (α : Type) where
  read : Form → Document → Except ReadError α
  write : α → Document

namespace Codec

open Text (isDigit numberOf)

/-! ## Single values -/

/-- A text. -/
def text : Codec String where
  read
    | _, .text s => .ok s
    | _, _ => .error .malformed
  write := .text

/-- A truth value. -/
def bool : Codec Bool where
  read
    | _, .bool b => .ok b
    | _, _ => .error .malformed
  write := .bool

/-- The whole number that a literal of digits only writes. -/
def wholeNumber? (literal : String) : Option Nat :=
  let ds := literal.toList
  if !ds.isEmpty && ds.all isDigit then some (numberOf 10 ds) else none

/-- A whole number below a bound. -/
def natural (bound : Nat) : Codec { n : Nat // n < bound } where
  read
    | _, .number literal =>
      match wholeNumber? literal with
      | some n => if h : n < bound then .ok ⟨n, h⟩ else .error .malformed
      | none => .error .malformed
    | _, _ => .error .malformed
  write n := .number (toString n.val)

/-- The values of one codec taken as those of another. -/
def map {α β : Type} (c : Codec α) (make : α → β) (unmake : β → α) : Codec β where
  read form d := (c.read form d).map make
  write b := c.write (unmake b)

/-- A whole number of 64 binary digits. -/
def word64 : Codec UInt64 :=
  (natural UInt64.size).map (fun n => UInt64.ofNatLT n.val n.property) fun w =>
    ⟨w.toNat, w.toNat_lt⟩

/-- A whole number of 32 binary digits. -/
def word32 : Codec UInt32 :=
  (natural UInt32.size).map (fun n => UInt32.ofNatLT n.val n.property) fun w =>
    ⟨w.toNat, w.toNat_lt⟩

/-- A number of things, of which a document can tell as many as 64 binary digits count. -/
def count : Codec Nat where
  read form d := (word64.read form d).map UInt64.toNat
  write n := .number (toString n)

/-- A number; digits that write one out of range are refused. A literal is read as the double nearest to it,
so that a finite double is read back as it was written. This is assumed of whoever reads reports: a reader
that takes less care of the last digit may come to a neighbour of the double. -/
def number : Codec Binary64 where
  read
    | _, .number literal =>
      match Binary64.parse? literal.toList with
      | some x =>
        -- A literal without digits is a name such as `inf`, which is meant as it stands.
        if x.isFinite || !literal.toList.any isDigit then .ok x else .error .malformed
      | none => .error .malformed
    | _, _ => .error .malformed
  write x := match x.literal? with
    | some literal => .number literal
    | none => .null

/-- A value written as a text that its own reader understands. -/
def spelled {α : Type} (parse : String → Except ReadError α) (spell : α → String) : Codec α where
  read form d := (text.read form d).bind parse
  write a := .text (spell a)

/-- One of a list of named values; beside the name alone, an object that gives nothing to the name
denotes it. -/
def choice {α : Type} (all : List α) (name : α → String) : Codec α where
  read
    | _, .text s => select s
    | form, .object ((some s, value) :: rest) =>
      -- The members of an object are counted first, unless they have yet to be met.
      if form != .streamed && !rest.isEmpty then .error .malformed
      else do
        let a ← select s
        if form.isNothing value && rest.isEmpty then .ok a else .error .malformed
    | _, _ => .error .malformed
  write a := .text (name a)
where
  /-- The value of a name. -/
  select (s : String) : Except ReadError α :=
    match all.find? (name · == s) with
    | some a => .ok a
    | none => .error (.unknownVariant s (all.map name))

/-! ## Collections -/

/-- A value that may be absent. -/
def optional {α : Type} (c : Codec α) : Codec (Option α) where
  read
    | _, .null => .ok none
    | form, d => (c.read form d).map some
  write
    | none => .null
    | some a => c.write a

/-- A list of values, read in order. -/
def list {α : Type} (c : Codec α) : Codec (List α) where
  read
    | form, .list items => items.mapM (c.read form)
    | _, _ => .error .malformed
  write as := .list (as.map c.write)

/-- A set, written in ascending order. -/
def set {α : Type} {cmp : α → α → Ordering} [Std.TransCmp cmp] (c : Codec α) :
    Codec (ExtTreeSet α cmp) :=
  c.list.map (fun as => ExtTreeSet.ofList as cmp) ExtTreeSet.toList

/-- The entries of a table in document order. -/
def entries {α : Type} (c : Codec α) (form : Form) :
    List (Option String × Document) → Except ReadError (List (String × α))
  | [] => .ok []
  | (none, _) :: _ => .error .malformed
  | (some key, value) :: rest => do
    let a ← c.read form value
    let as ← entries c form rest
    return (key, a) :: as

/-- A table with texts as keys, written in ascending order; a key given again replaces what it had
before. -/
def table {α : Type} (c : Codec α) : Codec (ExtTreeMap String α) where
  read
    | form, .object members => (c.entries form members).map (ExtTreeMap.ofList ·)
    | _, _ => .error .malformed
  write t := .object (t.toList.map fun (key, a) => (some key, c.write a))

end Codec

end InventoryProbe
