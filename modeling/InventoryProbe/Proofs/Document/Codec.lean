import InventoryProbe.Document.Layout
import InventoryProbe.Proofs.Document.Numeral
import InventoryProbe.Proofs.Failure

/-!
# Codecs read what they write

A codec is faithful if it recovers every value from what it wrote for it, in whatever form, and writes
only what has a text of its own. Faithful codecs make faithful codecs of options and lists. Some codecs
recover not all of their values, or write only what is legible.

* **`Faithful.readJson`**: what a faithful codec wrote as JSON, it reads back.
-/

namespace InventoryProbe.Codec

open Json (Writable)

variable {α β : Type} {c : Codec α}

/-- That a value is read from what is written for it, in whatever form. -/
def Recovers (c : Codec α) (a : α) : Prop := ∀ form, c.read form (c.write a) = .ok a

/-- That whatever is written can be written as text. -/
def Legible (c : Codec α) : Prop := ∀ a, Writable (c.write a)

/-- That values are read from what is written for them, in whatever form, and that this can be
written as text. -/
structure Faithful (c : Codec α) : Prop where
  read_write : ∀ form a, c.read form (c.write a) = .ok a
  writable : ∀ a, Writable (c.write a)

theorem Faithful.recovers (h : c.Faithful) (a : α) : c.Recovers a := fun form => h.read_write form a

theorem Faithful.legible (h : c.Faithful) : c.Legible := h.writable

/-- A value is read back from the text that is written for it, however the text is spaced. -/
theorem Faithful.readJson (h : c.Faithful) {spacing : Json.Spacing} (hspacing : spacing.Blank)
    (a : α) : c.readJson (Json.write spacing (c.write a)) = .ok a := by
  have htext := Json.read_writeAt hspacing (h.writable a)
  rw [Codec.readJson, Json.write, String.toList_ofList, htext]
  simp only [h.read_write]
  rfl

/-! ## Single values -/

/-- A text is read back. -/
@[simp] theorem faithful_text : text.Faithful where
  read_write _ _ := rfl
  writable := .text

/-- A truth value is read back. -/
@[simp] theorem faithful_bool : bool.Faithful where
  read_write _ _ := rfl
  writable := .bool

/-- A whole number is read from its digits. -/
theorem wholeNumber?_toString (n : Nat) : wholeNumber? (toString n) = some n := by
  -- No sign and no point stands among the digits that are written.
  have hdigits : (Nat.toDigits 10 n).all Text.isDigit :=
    List.all_eq_true.2 fun c hc => Text.isDigit_of_mem_toDigits hc
  rw [Nat.toString_eq_ofList_toDigits, wholeNumber?, String.toList_ofList]
  simp [hdigits, Text.numberOf_toDigits]

/-- A whole number below a bound is read back. -/
theorem faithful_natural (bound : Nat) : (natural bound).Faithful where
  read_write form n := by
    simp only [natural, wholeNumber?_toString, n.property, dite_true]
  writable n := .number (Json.isNumber_toString n.val)

/-- What is made of a value that is read back is read back, if nothing is lost in the making. -/
theorem Faithful.map (h : c.Faithful) {make : α → β} {unmake : β → α}
    (hmake : ∀ b, make (unmake b) = b) : (c.map make unmake).Faithful where
  read_write form b := by
    rw [Codec.map]
    simp only [h.read_write, Except.map, hmake]
  writable b := h.writable (unmake b)

/-- A word of 64 bits is read back. -/
@[simp] theorem faithful_word64 : word64.Faithful :=
  (faithful_natural UInt64.size).map fun w => UInt64.ofNatLT_toNat w

/-- A word of 32 bits is read back. -/
@[simp] theorem faithful_word32 : word32.Faithful :=
  (faithful_natural UInt32.size).map fun w => UInt32.ofNatLT_toNat w

/-- What is read from its spelling is read back. -/
theorem faithful_spelled {parse : String → Except ReadError α} {spell : α → String}
    (h : ∀ a, parse (spell a) = .ok a) : (spelled parse spell).Faithful where
  read_write _ := h
  writable a := .text (spell a)

/-- A name that no value before has denotes its value. -/
theorem faithful_choice {all : List α} {name : α → String}
    (h : ∀ a, all.find? (name · == name a) = some a) : (choice all name).Faithful where
  read_write form a := by
    simp only [choice, choice.select, h]
  writable a := .text (name a)

theorem legible_count : count.Legible := fun n => .number (Json.isNumber_toString n)

/-! ## Collections -/

theorem Legible.list (h : c.Legible) : c.list.Legible :=
  fun _ => .list (List.forall_mem_map.2 fun a _ => h a)

/-- That a codec never writes what stands for an absent value. -/
def NeverNull (c : Codec α) : Prop := ∀ a, c.write a ≠ .null

/-- A value that may be missing is read as one that may not, unless it is missing. -/
theorem read_optional {d : Document} (hd : d ≠ .null) (c : Codec α) (form : Form) :
    c.optional.read form d = (c.read form d).map some := by
  cases d with
  | null => exact absurd rfl hd
  | bool | number | text | unreadable | list | object | broken => rfl

/-- A value that may be missing is read back, if nothing else is written as one that is. -/
theorem Faithful.optional (h : c.Faithful) (hnull : c.NeverNull) : c.optional.Faithful where
  read_write form a := by
    cases a with
    | none => rfl
    | some a =>
      -- It was not written as what is missing, so it is read as what is there.
      have hread := read_optional (hnull a) c form
      rw [h.read_write] at hread
      exact hread
  writable a := by
    cases a with
    | none => exact .null
    | some a => exact h.writable a

/-- A list is read back entry by entry. -/
@[simp] theorem Faithful.list (h : c.Faithful) : c.list.Faithful where
  read_write form as := by
    have hall : List.Forall₂ (fun d a => c.read form d = .ok a) (as.map c.write) as := by
      rw [List.forall₂_map_left_iff, List.forall₂_same]
      exact fun a _ => h.read_write form a
    exact mapM_eq_ok_iff.2 hall
  writable := h.legible.list

end InventoryProbe.Codec
