import InventoryProbe.Proofs.Binary64.Shortest
import InventoryProbe.Proofs.Document.Codec
import InventoryProbe.Proofs.Document.Numeral

/-!
# Doubles are read from their literals

Every form in which the digits of a double are written in a document, with an exponent or without, is a
numeral, and the decimal that it writes has the value of the digits. So the double is read back, with the
sign of its zero. What is not finite has no literal, and is written as nothing is.

* **`Numeral.scientific`**, **`Numeral.integral`**, **`Numeral.fractional`**: the forms as numerals.
* **`literal?_spec`**: the literal of a finite number is a number of a document, and is read as that number.
* **`Codec.recovers_number`**: finite numbers are read from what is written for them.
-/

namespace InventoryProbe

open Text (isDigit numberOf)

namespace Numeral

/-! ## With an exponent -/

/-- One character is not two. -/
theorem take_one_ne_cons_cons (ds : List Char) (a b : Char) (more : List Char) :
    ds.take 1 ≠ a :: b :: more := by
  intro heq
  have hlength := congrArg List.length heq
  rw [List.length_take, List.length_cons, List.length_cons] at hlength
  omega

/-- The digits of a decimal with the first of them in front of the point. -/
def scientific (d : Decimal) : Numeral where
  whole := (Binary64.digitText d.digits).take 1
  fraction := (Binary64.digitText d.digits).drop 1
  exponent := some (d.exponent + (Binary64.digitText d.digits).length - 1)
  whole_isDigit c hc := isDigit_of_mem_digitText c (List.mem_of_mem_take hc)
  whole_ne_nil := by simp [Binary64.digitText, Nat.toDigits_ne_nil]
  whole_ne_zero_cons := take_one_ne_cons_cons _ '0'
  fraction_isDigit c hc := isDigit_of_mem_digitText c (List.mem_of_mem_drop hc)

/-- A numeral with an exponent is written as the double is. -/
theorem text_scientific (d : Decimal) : (scientific d).text = Binary64.scientific d := by
  unfold text scientific Binary64.scientific pointed powered
  simp only [List.append_assoc]
  split <;> split <;> rfl

/-- A numeral with an exponent stands for the decimal that it was made of. -/
theorem decimal_scientific (d : Decimal) : (scientific d).decimal = d := by
  have hpos := Decimal.length_pos d.digits
  have hnumber : numberOf 10 (Binary64.digitText d.digits) = d.digits := Text.numberOf_toDigits _
  have hlength : (Binary64.digitText d.digits).length = Decimal.length d.digits := rfl
  unfold decimal scientific
  simp only [List.take_append_drop, hnumber, Option.getD_some, List.length_drop, hlength]
  congr 1
  omega

/-! ## Without an exponent -/

/-- The digits of a number other than zero do not start with a zero. -/
theorem digitText_ne_zero_cons {n : Nat} (h : n ≠ 0) (more : List Char) :
    Binary64.digitText n ≠ '0' :: more := by
  intro heq
  cases more with
  | nil =>
    have hzero := Text.numberOf_toDigits n
    rw [show Nat.toDigits 10 n = ['0'] from heq] at hzero
    exact h hzero.symm
  | cons c more => exact Text.toDigits_ne_zero_cons n c more heq

/-- The digits of a number other than zero begin with no zero. -/
theorem digitText_append_ne_zero_cons {n : Nat} (h : n ≠ 0) (back more : List Char) :
    Binary64.digitText n ++ back ≠ '0' :: more := by
  intro heq
  cases hdigits : Binary64.digitText n with
  | nil => exact Nat.toDigits_ne_nil hdigits
  | cons c ds =>
    rw [hdigits, List.cons_append, List.cons.injEq] at heq
    exact digitText_ne_zero_cons h ds (heq.1 ▸ hdigits)

/-- A whole number other than zero that ends in so many zeros, with one more behind the point. -/
def integral (n zeros : Nat) (h : n ≠ 0) : Numeral where
  whole := Binary64.digitText n ++ List.replicate zeros '0'
  fraction := ['0']
  exponent := none
  whole_isDigit c hc := by
    rcases List.mem_append.1 hc with hdigit | hzero
    · exact isDigit_of_mem_digitText c hdigit
    · rw [List.eq_of_mem_replicate hzero]
      rfl
  whole_ne_nil := List.append_ne_nil_of_left_ne_nil Nat.toDigits_ne_nil _
  whole_ne_zero_cons c more := digitText_append_ne_zero_cons h _ _
  fraction_isDigit := List.forall_mem_singleton.2 rfl

/-- Every zero at the end makes a number ten times as large. -/
theorem numberOf_append_zeros (ds : List Char) (k : Nat) :
    numberOf 10 (ds ++ List.replicate k '0') = numberOf 10 ds * 10 ^ k := by
  induction k with
  | zero => simp
  | succ k ih =>
    have hlast (cs : List Char) : numberOf 10 (cs ++ ['0']) = numberOf 10 cs * 10 := List.foldl_append
    rw [List.replicate_succ', ← List.append_assoc, hlast, ih, Nat.pow_succ, Nat.mul_assoc]

/-- A whole numeral is written in full, with a zero behind the point. -/
theorem text_integral {n zeros : Nat} (h : n ≠ 0) :
    (integral n zeros h).text = Binary64.positional ⟨n, .ofNat zeros⟩ ++ ['.', '0'] := rfl

/-- A whole numeral stands for the decimal with its zeros taken into the exponent. -/
theorem value_integral {n zeros : Nat} (h : n ≠ 0) :
    (integral n zeros h).decimal.value = Decimal.value ⟨n, .ofNat zeros⟩ := by
  have hnumber : numberOf 10 (Binary64.digitText n) = n := Text.numberOf_toDigits _
  -- The zero behind the point is one more digit, and the exponent one less.
  have hzeros : List.replicate zeros '0' ++ ['0'] = List.replicate (zeros + 1) '0' :=
    List.replicate_succ'.symm
  have hexponent : (0 : Int) - ((1 : Nat) : Int) = -1 := rfl
  unfold decimal integral Decimal.value
  simp only [List.append_assoc, hzeros, numberOf_append_zeros, hnumber, Option.getD_none,
    List.length_singleton, hexponent, Int.ofNat_eq_natCast, zpow_natCast, zpow_neg_one]
  push_cast
  field_simp
  ring

/-- No zero stands in front of another digit before the point, since no more than one is put there. -/
theorem take_padded_ne_zero_cons (n e : Nat) (c : Char) (more : List Char) :
    (Text.padded (e + 2) n).take ((Text.padded (e + 2) n).length - (e + 1)) ≠ '0' :: c :: more := by
  intro heq
  by_cases hshort : (Nat.toDigits 10 n).length ≤ e + 2
  · -- Where zeros may have been put in front, no more than one digit stands before the point.
    have hlength : (Text.padded (e + 2) n).length = e + 2 := by
      unfold Text.padded
      rw [List.length_append, List.length_replicate]
      omega
    rw [hlength, show e + 2 - (e + 1) = 1 by omega] at heq
    exact take_one_ne_cons_cons _ _ _ _ heq
  · -- Where none were, the digits start as those of the number.
    have hnone : e + 2 - (Nat.toDigits 10 n).length = 0 := by omega
    have hplain : Text.padded (e + 2) n = Nat.toDigits 10 n := by simp [Text.padded, hnone]
    have hsplit := List.take_append_drop ((Text.padded (e + 2) n).length - (e + 1)) (Text.padded (e + 2) n)
    rw [heq, hplain] at hsplit
    exact Text.toDigits_ne_zero_cons n c _ hsplit.symm

/-- A number of which so many digits, and one more, stand behind the point. -/
def fractional (n e : Nat) : Numeral where
  whole := (Text.padded (e + 2) n).take ((Text.padded (e + 2) n).length - (e + 1))
  fraction := (Text.padded (e + 2) n).drop ((Text.padded (e + 2) n).length - (e + 1))
  exponent := none
  whole_isDigit c hc := Text.isDigit_of_mem_padded (List.mem_of_mem_take hc)
  whole_ne_nil := by
    have hlength := Text.le_length_padded (e + 2) n
    rw [← List.length_pos_iff, List.length_take]
    omega
  whole_ne_zero_cons := take_padded_ne_zero_cons n e
  fraction_isDigit c hc := Text.isDigit_of_mem_padded (List.mem_of_mem_drop hc)

/-- A numeral with a point in it is written as the double is. -/
theorem text_fractional (n e : Nat) :
    (fractional n e).text = Binary64.positional ⟨n, .negSucc e⟩ := by
  have hlength := Text.le_length_padded (e + 2) n
  have hne : (fractional n e).fraction.isEmpty = false := by
    rw [List.isEmpty_eq_false_iff, ← List.length_pos_iff]
    unfold fractional
    rw [List.length_drop]
    omega
  have hpowered : powered (fractional n e).exponent = [] := rfl
  rw [text, pointed, if_neg (by rw [hne]; decide), hpowered, List.append_nil]
  rfl

/-- A numeral with a point in it stands for all its digits, moved behind the point. -/
theorem decimal_fractional (n e : Nat) : (fractional n e).decimal = ⟨n, .negSucc e⟩ := by
  have hlength := Text.le_length_padded (e + 2) n
  unfold decimal fractional
  simp only [List.take_append_drop, Text.numberOf_padded, Option.getD_none, List.length_drop]
  congr 1
  omega

/-! ## Zero -/

/-- A zero on either side of the point. -/
def zero : Numeral where
  whole := ['0']
  fraction := ['0']
  exponent := none
  whole_isDigit := List.forall_mem_singleton.2 rfl
  whole_ne_nil := List.cons_ne_nil _ _
  whole_ne_zero_cons := nofun
  fraction_isDigit := List.forall_mem_singleton.2 rfl

theorem text_zero : zero.text = "0.0".toList := rfl

/-- Zero is read as zero, with the sign that it has. -/
theorem ofDecimal_zero (negative : Bool) :
    Binary64.ofDecimal negative zero.decimal = .finite negative 0 Binary64.fits_zero := by
  unfold Binary64.ofDecimal
  exact if_pos (.inl rfl)

end Numeral

namespace Binary64

/-- The digits of a number in the form that a document has for them. -/
theorem exists_numeral {d : Decimal} (h : d.digits ≠ 0) :
    let lead := d.exponent + Decimal.length d.digits - 1
    ∃ n : Numeral, n.decimal.value = d.value ∧
      n.text = (if lead < -5 ∨ 16 ≤ lead then scientific d
        else if 0 ≤ d.exponent then positional d ++ ['.', '0']
        else positional d) := by
  obtain ⟨digits, exponent⟩ := d
  intro lead
  -- The three forms are told apart by the place of the leading digit, and then by the sign of the
  -- exponent.
  split
  · exact ⟨.scientific _, congrArg _ (Numeral.decimal_scientific _), Numeral.text_scientific _⟩
  · cases exponent with
    | ofNat e =>
      have hwhole : (0 : Int) ≤ .ofNat e := Int.natCast_nonneg e
      exact ⟨.integral digits e h, Numeral.value_integral h,
        (Numeral.text_integral h).trans (if_pos hwhole).symm⟩
    | negSucc e =>
      have hpart : ¬ (0 : Int) ≤ .negSucc e := Int.not_le.2 (Int.negSucc_lt_zero e)
      exact ⟨.fractional digits e, congrArg _ (Numeral.decimal_fractional digits e),
        (Numeral.text_fractional digits e).trans (if_neg hpart).symm⟩

/-- **A finite number is read from its literal**, which is a number of a document. -/
theorem literal?_spec {x : Binary64} (h : x.isFinite) :
    ∃ literal, x.literal? = some literal ∧ Json.IsNumber literal ∧ parse? literal.toList = some x := by
  cases x with
  | nan => cases h
  | infinite negative => cases h
  | finite negative units hunits =>
    by_cases hzero : units = 0
    · subst hzero
      have hparse := Numeral.zero.parse?_signed negative
      rw [Numeral.ofDecimal_zero] at hparse
      refine ⟨_, ?_, Numeral.zero.isNumber_signed negative, hparse⟩
      rw [literal?, if_pos rfl, Numeral.text_zero]
    · have hreads := readsBack_shortest .even hunits hzero
      obtain ⟨n, hvalue, htext⟩ := exists_numeral (digits_ne_zero_of_readsBack hreads hzero)
      -- What is read is not the decimal that was written, but one of its value.
      rw [← readsBack_congr hvalue] at hreads
      have hparse := n.parse?_signed negative
      rw [ofDecimal_of_readsBack hreads hunits hzero] at hparse
      refine ⟨signed negative n.text, ?_, n.isNumber_signed negative, hparse⟩
      rw [literal?, if_neg hzero, htext]

end Binary64

/-! ## In documents -/

namespace Codec

/-- What is written for a double is a numeral of the grammar. -/
theorem legible_number : number.Legible := by
  intro x
  cases x with
  | nan => exact .null
  | infinite negative => exact .null
  | finite negative units fits =>
    obtain ⟨literal, hliteral, hnumber, -⟩ :=
      Binary64.literal?_spec (x := .finite negative units fits) rfl
    unfold number
    simp only [hliteral]
    exact .number hnumber

/-- A finite double is read back from what is written for it, as reading goes to the nearest double. -/
theorem recovers_number {x : Binary64} (h : x.isFinite) : number.Recovers x := by
  intro form
  obtain ⟨literal, hliteral, -, hparse⟩ := Binary64.literal?_spec h
  unfold number
  simp only [hliteral, hparse, h, Bool.true_or, if_true]

end Codec

end InventoryProbe
