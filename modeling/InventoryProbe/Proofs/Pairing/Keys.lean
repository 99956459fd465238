import Mathlib.Data.List.TakeWhile
import InventoryProbe.Pairing
import InventoryProbe.Proofs.Text.Ascii

/-!
# Keys and their comparison

A key is what a value has in front of the first separator. It is cut off before anything is put into small
letters, and keys are compared in small letters, each by itself.

* **`InFront`**: the longest text that a value starts with and that is free of the separator.
* **`inFront_derive`**: this is the key, and nothing more comes off when a key is taken of it.
* **`agrees_derive_iff`**: values that differ in the case of ASCII letters give keys that agree, for every
  separator but those letters. A letter as a separator is found in one case and passed over in the other.
* **`derive_comparison`**: all of this together.
-/

namespace InventoryProbe

namespace PairingKey

open Text (asciiLower equalIgnoringAsciiCase)

variable {value : String} {separator : Option Char}

/-! ## The part in front of the separator -/

/-- That a text is what a value has in front of its first separator: the value starts with it, it is free of
the separator, and whatever else is so is no longer. -/
structure InFront (separator : Option Char) (value text : String) : Prop where
  starts : text.toList <+: value.toList
  free : ∀ c ∈ separator, c ∉ text.toList
  longest : ∀ cs, cs <+: value.toList → (∀ c ∈ separator, c ∉ cs) → cs <+: text.toList

/-- A value without the separator is in front of it as a whole. -/
theorem InFront.eq_value {text : String} (h : InFront separator value text)
    (habsent : ∀ c ∈ separator, c ∉ value.toList) : text = value := by
  -- The whole value is one of the parts that may not be longer.
  have hwhole : value.toList <+: text.toList := h.longest _ (List.prefix_refl _) habsent
  exact String.toList_injective (h.starts.eq_of_length_le hwhole.length_le)

/-- With a separator the key is what stands in front of the first one. -/
theorem toList_text_derive_some (value : String) (c : Char) :
    (derive value (some c)).text.toList = value.toList.takeWhile (· != c) :=
  String.toList_ofList

/-- The key is the longest part in front that has no separator in it. -/
theorem inFront_derive (value : String) (separator : Option Char) :
    InFront separator value (derive value separator).text := by
  cases separator with
  | none => exact ⟨List.prefix_refl _, nofun, fun cs hcs _ => hcs⟩
  | some c =>
    have hkept (d : Char) : (d != c) = true ↔ d ≠ c := bne_iff_ne
    refine ⟨?_, ?_, ?_⟩
    · rw [toList_text_derive_some]
      exact List.takeWhile_prefix _
    · rintro _ ⟨⟩ hmem
      rw [toList_text_derive_some] at hmem
      have hpass : (c != c) = true := List.mem_takeWhile_imp (p := (· != c)) hmem
      exact (hkept c).1 hpass rfl
    · rintro cs ⟨rest, hvalue⟩ hfree
      -- A part without the separator passes as a whole.
      have hcs : ∀ d ∈ cs, (d != c) = true := by
        intro d hd
        rw [hkept]
        rintro rfl
        exact hfree d rfl hd
      rw [toList_text_derive_some, ← hvalue, List.takeWhile_append_of_pos hcs]
      exact List.prefix_append _ _

/-- What is in front of the separator is free of it, so that it is its own key. -/
theorem derive_text_derive (value : String) (separator : Option Char) :
    derive (derive value separator).text separator = derive value separator := by
  have hfree := (inFront_derive value separator).free
  have hagain := (inFront_derive (derive value separator).text separator).eq_value hfree
  exact congrArg PairingKey.mk hagain

/-! ## Comparison -/

theorem agrees_iff {a b : PairingKey} : a.agrees b ↔ a.small = b.small := beq_iff_eq

theorem agrees_equivalence : Equivalence fun a b : PairingKey => (a.agrees b : Prop) := by
  simp only [agrees_iff]
  exact ⟨fun _ => rfl, Eq.symm, Eq.trans⟩

/-- A separator that is no ASCII letter is found in the same place, whatever the case of those letters. -/
theorem map_asciiLower_derive (hseparator : ∀ c ∈ separator, ¬ c.isAlpha) (value : String) :
    (derive value separator).text.toList.map asciiLower
      = (derive (String.ofList (value.toList.map asciiLower)) separator).text.toList := by
  cases separator with
  | none => exact String.toList_ofList.symm
  | some c =>
    -- No letter becomes the separator, and the separator becomes no letter.
    have hsame (d : Char) : (asciiLower d != c) = (d != c) := by
      rw [Bool.eq_iff_iff, bne_iff_ne, bne_iff_ne, ne_eq, ne_eq,
        Text.asciiLower_eq_iff_of_not_isAlpha (hseparator c rfl)]
    rw [toList_text_derive_some, toList_text_derive_some, String.toList_ofList, List.takeWhile_map]
    simp only [Function.comp_def, hsame]

/-- Values that differ in the case of ASCII letters give keys that agree, unless the separator
is a letter. -/
theorem agrees_derive (hseparator : ∀ c ∈ separator, ¬ c.isAlpha) {a b : String}
    (h : equalIgnoringAsciiCase a.toList b.toList) :
    (derive a separator).agrees (derive b separator) := by
  have hvalues : a.toList.map asciiLower = b.toList.map asciiLower := eq_of_beq h
  have hkeys : (derive a separator).text.toList.map asciiLower
      = (derive b separator).text.toList.map asciiLower := by
    rw [map_asciiLower_derive hseparator, map_asciiLower_derive hseparator, hvalues]
  rw [agrees_iff]
  exact Text.lowercase_eq_of_equalIgnoringAsciiCase (beq_iff_eq.2 hkeys)

/-- A letter as a separator is not found where it stands in the other case. -/
theorem not_agrees_derive_of_isAlpha {c : Char} (h : c.isAlpha) :
    ∃ a b : String, equalIgnoringAsciiCase a.toList b.toList ∧
      ¬ (derive a (some c)).agrees (derive b (some c)) := by
  obtain ⟨d, hne, hcase⟩ := Text.exists_other_case h
  refine ⟨String.singleton c, String.singleton d, ?_, ?_⟩
  · simp [equalIgnoringAsciiCase, hcase]
  · -- One value is cut off at once, and the other has no separator in it.
    have hnothing : (derive (String.singleton c) (some c)).text.toList = [] := by
      simp [toList_text_derive_some]
    have hletter : (derive (String.singleton d) (some c)).text.toList = [d] := by
      simp [toList_text_derive_some, hne]
    rw [agrees_iff, small, small, hnothing, hletter]
    exact (Text.lowercase_cons_ne_nil d []).symm

/-- Keys of values that differ in the case of ASCII letters agree exactly if the separator is none of these
letters. -/
theorem agrees_derive_iff (separator : Option Char) :
    (∀ a b : String, equalIgnoringAsciiCase a.toList b.toList →
      (derive a separator).agrees (derive b separator)) ↔ ∀ c ∈ separator, ¬ c.isAlpha := by
  constructor
  · rintro h c rfl hletter
    obtain ⟨a, b, hsame, hdiffers⟩ := not_agrees_derive_of_isAlpha hletter
    exact hdiffers (h a b hsame)
  · intro hseparator a b
    exact agrees_derive hseparator

/-- **A key is the longest part in front of its separator, and keys are compared regardless of case.** What a
value has in front of the first separator is its key, the whole value if the separator is unset or absent, and
that part has no other key by itself. Agreement sorts keys into classes. Values that are equal but for the case
of ASCII letters give keys that agree, whatever other characters there are, exactly for the separators that
are not such a letter. -/
theorem derive_comparison :
    (∀ (value : String) (separator : Option Char),
      InFront separator value (derive value separator).text ∧
      ((∀ c ∈ separator, c ∉ value.toList) → (derive value separator).text = value) ∧
      derive (derive value separator).text separator = derive value separator) ∧
    Equivalence (fun a b : PairingKey => (a.agrees b : Prop)) ∧
    ∀ separator : Option Char,
      (∀ a b : String, equalIgnoringAsciiCase a.toList b.toList →
        (derive a separator).agrees (derive b separator)) ↔ ∀ c ∈ separator, ¬ c.isAlpha := by
  refine ⟨fun value separator => ?_, agrees_equivalence, agrees_derive_iff⟩
  have hfront := inFront_derive value separator
  exact ⟨hfront, hfront.eq_value, derive_text_derive value separator⟩

/-! ## Sigmas beside letters in two cases

Between the sigma and the letters around it stand characters that are passed over, so that these letters decide
the form of the sigma. Each of them is a capital in one of the texts and a small letter in the other. -/

theorem derive_comparison_sigma :
    (∀ c ∈ some '/', ¬ c.isAlpha) ∧
    equalIgnoringAsciiCase "r.Σ'A/x".toList "R.Σ'a/X".toList ∧
    (derive "r.Σ'A/x" (some '/')).agrees (derive "R.Σ'a/X" (some '/')) := by
  have hslash : ∀ c ∈ some '/', ¬ c.isAlpha := by
    rintro _ ⟨⟩
    decide
  have hsame : equalIgnoringAsciiCase "r.Σ'A/x".toList "R.Σ'a/X".toList := by decide
  exact ⟨hslash, hsame, (derive_comparison.2.2 (some '/')).2 hslash _ _ hsame⟩

end PairingKey

end InventoryProbe
