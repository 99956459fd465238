import InventoryProbe.Binary64.Shortest
import InventoryProbe.Proofs.Document.Json

/-!
# Numerals

The text of a number has digits in front, maybe digits behind a point, and maybe an exponent behind an `e`.
The reader of documents and the reader of decimals take such a text apart in the same way, with a sign or
without.

* **`Numeral.magnitude?_text`**, **`Numeral.isNumber_signed`**: a numeral is a number of a document.
* **`Json.isNumber_toString`**: so are the digits of a whole number.
* **`Numeral.decimal?_text`**, **`Numeral.parse?_signed`**: it is read as the decimal that it writes.
-/

namespace InventoryProbe

open Json (EndsNumber)
open Text (isDigit numberOf EndsDigits)

/-- The parts of the text of a number. No zero stands in front of another digit. -/
structure Numeral where
  whole : List Char
  fraction : List Char
  exponent : Option Int
  whole_isDigit : ∀ c ∈ whole, isDigit c
  whole_ne_nil : whole ≠ []
  whole_ne_zero_cons : ∀ c more, whole ≠ '0' :: c :: more
  fraction_isDigit : ∀ c ∈ fraction, isDigit c

namespace Numeral

/-! ## Texts -/

/-- The digits behind the point, if there are any. -/
def pointed (fraction : List Char) : List Char := if fraction.isEmpty then [] else '.' :: fraction

/-- The exponent with its sign, if there is one. -/
def powered : Option Int → List Char
  | none => []
  | some e => 'e' :: (if e < 0 then '-' else '+') :: Binary64.digitText e.natAbs

/-- The text of the number. -/
def text (n : Numeral) : List Char := n.whole ++ (pointed n.fraction ++ powered n.exponent)

/-- The decimal that a numeral writes. -/
def decimal (n : Numeral) : Decimal :=
  ⟨numberOf 10 (n.whole ++ n.fraction), n.exponent.getD 0 - n.fraction.length⟩

variable {n : Numeral} {exponent : Option Int} {fraction rest : List Char}

/-- A numeral begins with a digit. -/
theorem exists_text_eq_cons (n : Numeral) : ∃ c more, n.text = c :: more ∧ isDigit c := by
  obtain ⟨c, more, heq⟩ := List.exists_cons_of_ne_nil n.whole_ne_nil
  refine ⟨c, more ++ (pointed n.fraction ++ powered n.exponent), ?_,
    n.whole_isDigit c (heq ▸ List.mem_cons_self)⟩
  rw [text, heq, List.cons_append]

theorem isDigit_of_mem_digitText {k : Nat} : ∀ c ∈ Binary64.digitText k, isDigit c :=
  fun _ hc => Text.isDigit_of_mem_toDigits hc

theorem isEmpty_digitText (k : Nat) : (Binary64.digitText k).isEmpty = false :=
  List.isEmpty_eq_false_iff.2 Nat.toDigits_ne_nil

/-- Neither a digit nor a point stands in front of an exponent. -/
theorem powered_head? (hrest : EndsNumber rest) :
    ∀ c ∈ (powered exponent ++ rest).head?, ¬ isDigit c ∧ c ≠ '.' := by
  cases exponent with
  | none => exact fun c hc => ⟨(hrest c hc).1, (hrest c hc).2.1⟩
  | some e =>
    rintro _ ⟨⟩
    decide

theorem endsDigits_powered (exponent : Option Int) (hrest : EndsNumber rest) :
    EndsDigits (powered exponent ++ rest) :=
  fun c hc => (powered_head? hrest c hc).1

theorem endsDigits_pointed (fraction : List Char) (exponent : Option Int) (hrest : EndsNumber rest) :
    EndsDigits (pointed fraction ++ (powered exponent ++ rest)) := by
  unfold pointed
  split
  · exact endsDigits_powered exponent hrest
  · exact Text.endsDigits_cons rfl _

/-! ## Numbers of documents -/

/-- The part behind the point is read as far as it goes. -/
theorem fraction?_pointed (hfraction : ∀ c ∈ fraction, isDigit c) (hrest : EndsNumber rest) :
    Json.fraction? (pointed fraction ++ (powered exponent ++ rest))
      = some (pointed fraction, powered exponent ++ rest) := by
  unfold pointed
  split
  · -- There is no point, and none follows.
    rw [List.nil_append]
    unfold Json.fraction?
    split
    · next heq => exact absurd rfl (powered_head? hrest '.' (by rw [heq]; rfl)).2
    · rfl
  · next hne =>
    rw [List.cons_append, Json.fraction?, Json.digits_append hfraction (endsDigits_powered _ hrest)]
    exact if_neg hne

theorem exponent?_powered (hrest : EndsNumber rest) :
    Json.exponent? (powered exponent ++ rest) = some (powered exponent, rest) := by
  cases exponent with
  | none => exact Json.exponent?_of_ends hrest
  | some e =>
    have hdigits := Json.digits_append (isDigit_of_mem_digitText (k := e.natAbs))
      (fun c hc => (hrest c hc).1)
    rw [powered]
    split
    · simp [Json.exponent?, hdigits, isEmpty_digitText]
    · simp [Json.exponent?, hdigits, isEmpty_digitText]

/-- A numeral is read to its end, in front of whatever does not go on with it. -/
theorem magnitude?_text (n : Numeral) (hrest : EndsNumber rest) :
    Json.magnitude? (n.text ++ rest) = some (n.text, rest) := by
  have hdigits := Json.digits_append n.whole_isDigit
    (endsDigits_pointed n.fraction n.exponent hrest)
  unfold Json.magnitude?
  simp only [text, List.append_assoc, hdigits, fraction?_pointed n.fraction_isDigit hrest,
    exponent?_powered hrest, Option.bind_eq_bind, Option.bind_some, Option.pure_def]
  split
  · next heq => exact absurd heq n.whole_ne_nil
  · next heq => exact absurd heq (n.whole_ne_zero_cons _ _)
  · rfl

/-- With a sign or without, a numeral is a number. -/
theorem isNumber_signed (n : Numeral) (negative : Bool) :
    Json.IsNumber (Binary64.signed negative n.text) := by
  intro rest hrest
  obtain ⟨c, more, heq, hc⟩ := n.exists_text_eq_cons
  have hmagnitude := n.magnitude?_text hrest
  unfold Binary64.signed
  rw [String.toList_ofList]
  cases negative with
  | true =>
    rw [if_pos rfl, List.cons_append, Json.number?, hmagnitude]
    rfl
  | false => exact Json.number?_of_magnitude? heq hc hmagnitude

/-- A whole number. -/
def natural (k : Nat) : Numeral where
  whole := Binary64.digitText k
  fraction := []
  exponent := none
  whole_isDigit := isDigit_of_mem_digitText
  whole_ne_nil := Nat.toDigits_ne_nil
  whole_ne_zero_cons := Text.toDigits_ne_zero_cons k
  fraction_isDigit := List.forall_mem_nil _

/-! ## Decimals -/

/-- An exponent is read with the sign that is written. -/
theorem exponent?_digitText (e : Int) :
    Decimal.exponent? ((if e < 0 then '-' else '+') :: Binary64.digitText e.natAbs) = some e := by
  have hdigits : (Binary64.digitText e.natAbs).all isDigit :=
    List.all_eq_true.2 isDigit_of_mem_digitText
  have hnumber : numberOf 10 (Binary64.digitText e.natAbs) = e.natAbs := Text.numberOf_toDigits _
  -- The sign is written for exponents of zero and above as well.
  split
  · next hneg =>
    have hvalue : -((e.natAbs : Nat) : Int) = e := by omega
    simp only [Decimal.exponent?, isEmpty_digitText, hdigits, hnumber, hvalue]
    rfl
  · next hnonneg =>
    have hvalue : ((e.natAbs : Nat) : Int) = e := by omega
    simp only [Decimal.exponent?, isEmpty_digitText, hdigits, hnumber, hvalue]
    rfl

/-- A numeral is read as the decimal that it stands for. -/
theorem decimal?_text (n : Numeral) : Decimal.parse? n.text = some n.decimal := by
  obtain ⟨whole, fraction, exponent, hwhole, hne, -, hfraction⟩ := n
  have hnil : EndsNumber [] := fun _ hc => nomatch hc
  have hpoint := endsDigits_pointed fraction exponent hnil
  have hpower := endsDigits_powered exponent hnil
  rw [List.append_nil] at hpoint hpower
  have hisEmpty : whole.isEmpty = false := List.isEmpty_eq_false_iff.2 hne
  have hlower : Text.asciiLower 'e' = 'e' := by decide
  unfold Decimal.parse? text decimal
  simp only [Text.takeWhile_isDigit_append hwhole hpoint, Text.dropWhile_isDigit_append hwhole hpoint]
  -- Without digits behind the point there is no point.
  by_cases hempty : fraction = []
  · subst hempty
    cases exponent with
    | none => simp [pointed, powered, hisEmpty]
    | some e => simp [pointed, powered, hisEmpty, hlower, exponent?_digitText]
  · have hdotted : pointed fraction = '.' :: fraction := by simp [pointed, hempty]
    rw [hdotted, List.cons_append]
    simp only [Text.takeWhile_isDigit_append hfraction hpower,
      Text.dropWhile_isDigit_append hfraction hpower, hisEmpty]
    cases exponent with
    | none => simp [powered]
    | some e => simp [powered, hlower, exponent?_digitText]

/-- A numeral is none of the words that stand for a number. -/
theorem map_asciiLower_ne (n : Numeral) {c : Char} (hc : isDigit c = false) (word : List Char) :
    n.text.map Text.asciiLower ≠ c :: word := by
  obtain ⟨first, more, heq, hfirst⟩ := n.exists_text_eq_cons
  rw [heq, List.map_cons, Text.asciiLower_of_isDigit hfirst]
  intro hcons
  rw [(List.cons.inj hcons).1, hc] at hfirst
  cases hfirst

/-- A numeral with a sign is read as the double next to its decimal. -/
theorem parse?_signed (n : Numeral) (negative : Bool) :
    Binary64.parse? (Binary64.signed negative n.text).toList
      = some (Binary64.ofDecimal negative n.decimal) := by
  have hinf : n.text.map Text.asciiLower ≠ "inf".toList := n.map_asciiLower_ne rfl _
  have hinfinity : n.text.map Text.asciiLower ≠ "infinity".toList := n.map_asciiLower_ne rfl _
  have hnan : n.text.map Text.asciiLower ≠ "nan".toList := n.map_asciiLower_ne rfl _
  have hbody :
      (if n.text.map Text.asciiLower = "inf".toList ∨ n.text.map Text.asciiLower = "infinity".toList
        then some (.infinite negative)
        else if n.text.map Text.asciiLower = "nan".toList then some .nan
        else (Decimal.parse? n.text).map (Binary64.ofDecimal negative))
        = some (Binary64.ofDecimal negative n.decimal) := by
    rw [if_neg (not_or.2 ⟨hinf, hinfinity⟩), if_neg hnan, n.decimal?_text]
    rfl
  unfold Binary64.parse? Binary64.signed
  rw [String.toList_ofList]
  cases negative with
  | true => exact hbody
  | false =>
    obtain ⟨c, more, heq, hc⟩ := n.exists_text_eq_cons
    rw [if_neg (by decide)]
    split
    next negative body hsplit =>
      split at hsplit
      · next hminus =>
        -- Neither sign is a digit.
        rw [(List.cons.inj (heq.symm.trans hminus)).1] at hc
        cases hc
      · next hplus =>
        rw [(List.cons.inj (heq.symm.trans hplus)).1] at hc
        cases hc
      · cases hsplit
        exact hbody

end Numeral

/-- The digits of a whole number are a number. -/
theorem Json.isNumber_toString (n : Nat) : Json.IsNumber (toString n) := by
  have hnumber := (Numeral.natural n).isNumber_signed false
  have htext : (Numeral.natural n).text = Nat.toDigits 10 n := List.append_nil _
  rwa [Binary64.signed, if_neg (by decide), htext, ← Nat.toString_eq_ofList_toDigits] at hnumber

end InventoryProbe
