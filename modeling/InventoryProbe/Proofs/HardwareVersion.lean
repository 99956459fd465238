import InventoryProbe.HardwareVersion
import InventoryProbe.Proofs.Document.Codec

/-!
# Hardware versions are read as they are written

A version is written with its tag and at least two digits. A reader who passes over the tag finds
the same number again.
-/

namespace InventoryProbe.HardwareVersion

open Text (isDigit padded numberOf trim trimStart)

/-- A version is written as the tag and at least two digits. -/
theorem toList_text (v : HardwareVersion) : v.text.toList = tag ++ padded 2 v.number.toNat := by
  rw [text, String.toList_ofList]

/-- A version is written without blanks around it. -/
theorem trim_text (v : HardwareVersion) : trim v.text.toList = v.text.toList := by
  have hstart : trimStart v.text.toList = v.text.toList := by
    rw [toList_text]
    rfl
  rw [trim, hstart, toList_text, Text.trimEnd_append_padded]

/-- Digits are read as the number that they write. -/
theorem number?_of_digits {ds : List Char} {n : UInt32} (hds : ∀ c ∈ ds, isDigit c) (hne : ds ≠ [])
    (h : numberOf 10 ds = n.toNat) : number? ds = some n := by
  have hall : ds.all isDigit := List.all_eq_true.2 hds
  have hlt : numberOf 10 ds < UInt32.size := h ▸ n.toNat_lt
  have hvalue : UInt32.ofNatLT (numberOf 10 ds) hlt = n := UInt32.toNat_inj.1 (by simp [h])
  cases ds with
  | nil => exact absurd rfl hne
  | cons c more =>
    -- Digits begin with no sign, so that nothing is passed over.
    have hplus : c ≠ '+' := by
      rintro rfl
      exact absurd (hds '+' List.mem_cons_self) (by decide)
    unfold number?
    split
    · next heq => exact absurd (List.cons.inj heq).1 hplus
    · rw [if_neg (by simp [hall]), dif_pos hlt, hvalue]

/-- A version is read from what is written for it. -/
theorem parse?_text (v : HardwareVersion) : parse? v.text = some v := by
  have htag : withoutTag (tag ++ padded 2 v.number.toNat) = padded 2 v.number.toNat := rfl
  rw [parse?, trim_text, toList_text, htag,
    number?_of_digits (fun c hc => Text.isDigit_of_mem_padded hc) (Text.padded_ne_nil 2 _)
      (Text.numberOf_padded 2 _)]
  rfl

/-- Every version is written with the tag and digits of its number, two of them or more. -/
theorem text_tagged (v : HardwareVersion) :
    ∃ ds, v.text = "vmx-" ++ String.ofList ds ∧ 2 ≤ ds.length ∧ (∀ c ∈ ds, isDigit c) ∧
      numberOf 10 ds = v.number.toNat := by
  refine ⟨padded 2 v.number.toNat, ?_, Text.le_length_padded 2 _,
    fun c hc => Text.isDigit_of_mem_padded hc, Text.numberOf_padded 2 _⟩
  have htag : "vmx-".toList = tag := by decide
  apply String.toList_inj.1
  rw [toList_text, String.toList_append, htag, String.toList_ofList]

/-- A version in a document is read from what is written for it. -/
@[simp] theorem faithful_codec : codec.Faithful := by
  apply Codec.faithful_spelled
  intro v
  rw [parse?_text]

end InventoryProbe.HardwareVersion
