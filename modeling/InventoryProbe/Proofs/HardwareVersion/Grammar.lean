import InventoryProbe.Proofs.HardwareVersion
import InventoryProbe.Proofs.Text.Ascii
import InventoryProbe.Proofs.Text.Blank
import InventoryProbe.Proofs.Text.Bytes

/-!
# The texts of hardware versions

A version may be written with its tag or without, in capitals or small letters, with a plus in front of
its digits, with zeros in front of them, and with blanks around all of it.

* **`Denotes`**: the number that such a text stands for.
* **`parse?_eq_some_iff`**: these texts are read, each as its number, if the number is not too large.
* **`cutTag?_eq`**: the tag may as well be cut off by bytes. No text is cut in the middle of a character,
  since nothing is cut off but a tag, and a tag is four characters of one byte.
* **`parse?_grammar`**: all of this together, with what is said of a text that is not read.
-/

namespace InventoryProbe

namespace HardwareVersion

open Text (isBlank isDigit numberOf trim equalIgnoringAsciiCase asciiLower Tight prefixBytes?
  suffixBytes?)

variable {cs core lead ds : List Char} {n : Nat}

/-! ## Tags -/

/-- The spellings of the tag. -/
def IsTag (cs : List Char) : Prop :=
  ∃ v m x, cs = [v, m, x, '-'] ∧ (v = 'v' ∨ v = 'V') ∧ (m = 'm' ∨ m = 'M') ∧ (x = 'x' ∨ x = 'X')

/-- A text is the tag in some letter case exactly if its characters are those of the tag, one by one. -/
theorem equalIgnoringAsciiCase_tag_iff : equalIgnoringAsciiCase cs tag ↔ IsTag cs := by
  have hv (c : Char) : asciiLower c = 'v' ↔ c = 'v' ∨ c = 'V' := Text.asciiLower_eq_iff (by decide) rfl
  have hm (c : Char) : asciiLower c = 'm' ↔ c = 'm' ∨ c = 'M' := Text.asciiLower_eq_iff (by decide) rfl
  have hx (c : Char) : asciiLower c = 'x' ↔ c = 'x' ∨ c = 'X' := Text.asciiLower_eq_iff (by decide) rfl
  have hsign (c : Char) : asciiLower c = '-' ↔ c = '-' :=
    Text.asciiLower_eq_iff_of_not_isAlpha (by decide)
  have htag : tag.map asciiLower = ['v', 'm', 'x', '-'] := by decide
  unfold equalIgnoringAsciiCase IsTag
  rw [beq_iff_eq, htag]
  constructor
  · intro h
    match cs with
    -- Texts of another length are told apart by it.
    | [v, m, x, sign] =>
      simp only [List.map_cons, List.map_nil, List.cons.injEq, hv, hm, hx, hsign] at h
      obtain ⟨hv, hm, hx, rfl, -⟩ := h
      exact ⟨v, m, x, rfl, hv, hm, hx⟩
    | [] | [_] | [_, _] | [_, _, _] | _ :: _ :: _ :: _ :: _ :: _ => simp at h
  · rintro ⟨v, m, x, rfl, h⟩
    simp only [List.map_cons, List.map_nil, List.cons.injEq, hv, hm, hx, hsign, and_true]
    exact h

theorem IsTag.length_eq (h : IsTag lead) : lead.length = 4 := by
  obtain ⟨v, m, x, rfl, -⟩ := h
  rfl

theorem IsTag.utf8ByteSize_eq (h : IsTag lead) : (String.ofList lead).utf8ByteSize = 4 := by
  obtain ⟨v, m, x, rfl, rfl | rfl, rfl | rfl, rfl | rfl⟩ := h <;> decide

/-- A tag is told by its first character from what else may come first. -/
theorem IsTag.exists_cons (h : IsTag lead) :
    ∃ c rest, lead = c :: rest ∧ isBlank c = false ∧ isDigit c = false ∧ c ≠ '+' := by
  obtain ⟨v, m, x, rfl, rfl | rfl, -⟩ := h
  · exact ⟨'v', [m, x, '-'], rfl, by decide⟩
  · exact ⟨'V', [m, x, '-'], rfl, by decide⟩

theorem withoutTag_append (h : IsTag lead) (cs : List Char) : withoutTag (lead ++ cs) = cs := by
  rw [withoutTag, List.take_left' h.length_eq, List.drop_left' h.length_eq,
    if_pos (equalIgnoringAsciiCase_tag_iff.2 h)]

theorem withoutTag_eq_self (h : ¬ IsTag (cs.take 4)) : withoutTag cs = cs := by
  rw [withoutTag, if_neg (mt equalIgnoringAsciiCase_tag_iff.1 h)]

/-- What is taken away in front is a tag or nothing. -/
theorem exists_lead (cs : List Char) :
    ∃ lead, (lead = [] ∨ IsTag lead) ∧ cs = lead ++ withoutTag cs := by
  by_cases h : IsTag (cs.take 4)
  · refine ⟨cs.take 4, .inr h, ?_⟩
    rw [withoutTag, if_pos (equalIgnoringAsciiCase_tag_iff.2 h), List.take_append_drop]
  · exact ⟨[], .inl rfl, (withoutTag_eq_self h).symm⟩

/-! ## The tag cut off by bytes -/

/-- The text without its first four bytes, if these are a tag; nothing if it cannot be cut there. -/
def cutTag? (s : String) : Option String :=
  match prefixBytes? 4 s with
  | some front => if equalIgnoringAsciiCase front.toList tag then suffixBytes? 4 s else some s
  | none => some s

/-- A tag can always be cut off. What is four bytes long is no tag where the first four characters are
none, for a tag has as many characters as bytes. -/
theorem cutTag?_eq (s : String) : cutTag? s = some (String.ofList (withoutTag s.toList)) := by
  by_cases h : IsTag (s.toList.take 4)
  · -- The tag ends where a character does, for its four characters take a byte each.
    have hsplit : s = String.ofList (s.toList.take 4) ++ String.ofList (s.toList.drop 4) := by
      rw [← String.ofList_append, List.take_append_drop, String.ofList_toList]
    have hfront := Text.prefixBytes?_append (String.ofList (s.toList.take 4))
      (String.ofList (s.toList.drop 4))
    have hback := Text.suffixBytes?_append (String.ofList (s.toList.take 4))
      (String.ofList (s.toList.drop 4))
    rw [← hsplit, h.utf8ByteSize_eq] at hfront hback
    have htag := equalIgnoringAsciiCase_tag_iff.2 h
    simp only [cutTag?, hfront, String.toList_ofList, if_pos htag, hback, withoutTag]
  · rw [withoutTag_eq_self h, String.ofList_toList]
    unfold cutTag?
    split
    · -- Four bytes may be cut off that are no tag.
      next front hfront =>
      obtain ⟨back, rfl, -⟩ := Text.exists_of_prefixBytes? hfront
      rw [if_neg]
      intro htag
      rw [equalIgnoringAsciiCase_tag_iff] at htag
      rw [String.toList_append, List.take_left' htag.length_eq] at h
      exact h htag
    · rfl

/-! ## Numbers -/

/-- That digits write a number in decimal. -/
def Digits (ds : List Char) (n : Nat) : Prop :=
  ds ≠ [] ∧ (∀ c ∈ ds, '0' ≤ c ∧ c ≤ '9') ∧ Nat.ofDigitChars 10 ds 0 = n

/-- Digits are what the reader of numbers calls so. -/
theorem digits_iff : Digits ds n ↔ ds ≠ [] ∧ (∀ c ∈ ds, isDigit c) ∧ numberOf 10 ds = n := by
  have hdigit : (∀ c ∈ ds, isDigit c) ↔ ∀ c ∈ ds, '0' ≤ c ∧ c ≤ '9' := by
    simp [isDigit]
  unfold Digits
  rw [← hdigit]
  refine and_congr_right fun _ => and_congr_right fun hds => ?_
  rw [Text.numberOf_eq_ofDigitChars 10 hds]

/-- Nothing but digits may follow a plus, and no second plus. -/
theorem number?_cons_plus (hds : ∀ c ∈ ds, isDigit c) : number? ('+' :: ds) = number? ds := by
  have hplus (rest : List Char) : ds ≠ '+' :: rest := by
    rintro rfl
    exact absurd (hds '+' List.mem_cons_self) (by decide)
  conv_rhs => unfold number?
  split
  · next rest => exact absurd rfl (hplus rest)
  · rfl

/-- A number is read from digits with a plus in front of them or none, if it is a word of 32 bits. -/
theorem number?_eq_some_iff {w : UInt32} :
    number? cs = some w ↔
      ∃ plus ds, cs = plus ++ ds ∧ (plus = [] ∨ plus = ['+']) ∧ Digits ds w.toNat := by
  constructor
  · intro h
    -- The reading of digits, of which the rule for the plus makes use twice.
    have hread (ds : List Char) (hds : (if ds.isEmpty || !ds.all isDigit then none
        else if hlt : numberOf 10 ds < UInt32.size then some (UInt32.ofNatLT (numberOf 10 ds) hlt)
        else none) = some w) : Digits ds w.toNat := by
      rw [digits_iff]
      split at hds
      · cases hds
      · next hnot =>
        rw [Bool.or_eq_true, not_or, List.isEmpty_iff, Bool.not_eq_true', Bool.not_eq_false,
          List.all_eq_true] at hnot
        split at hds
        · obtain rfl := Option.some.inj hds
          exact ⟨hnot.1, hnot.2, UInt32.toNat_ofNatLT.symm⟩
        · cases hds
    unfold number? at h
    split at h
    · next rest => exact ⟨['+'], rest, rfl, .inr rfl, hread rest h⟩
    · exact ⟨[], cs, rfl, .inl rfl, hread cs h⟩
  · rintro ⟨plus, ds, rfl, hplus, hdigits⟩
    obtain ⟨hne, hds, hvalue⟩ := digits_iff.1 hdigits
    have hread := number?_of_digits hds hne hvalue
    rcases hplus with rfl | rfl
    · exact hread
    · exact (number?_cons_plus hds).trans hread

/-! ## Texts -/

/-- That a text stands for a number: a tag and a plus, both of which may be missing, and digits. -/
def Denotes (cs : List Char) (n : Nat) : Prop :=
  ∃ lead plus ds, cs = lead ++ plus ++ ds ∧ (lead = [] ∨ IsTag lead) ∧
    (plus = [] ∨ plus = ['+']) ∧ Digits ds n

/-- That a text stands for a number, blanks around it disregarded. -/
def Spells (s : String) (n : Nat) : Prop :=
  ∃ front core back, s.toList = front ++ core ++ back ∧ (∀ c ∈ front, isBlank c) ∧
    (∀ c ∈ back, isBlank c) ∧ Denotes core n

/-- What comes first of a number behind its tag is no part of a tag, and no blank. -/
theorem exists_cons_of_digits {plus : List Char} (hplus : plus = [] ∨ plus = ['+'])
    (hdigits : Digits ds n) :
    ∃ c rest, plus ++ ds = c :: rest ∧ isBlank c = false ∧ (isDigit c ∨ c = '+') := by
  rcases hplus with rfl | rfl
  · obtain ⟨hne, hds, -⟩ := digits_iff.1 hdigits
    obtain ⟨c, rest, rfl⟩ := List.exists_cons_of_ne_nil hne
    have hdigit := hds c List.mem_cons_self
    exact ⟨c, rest, rfl, Text.isBlank_of_isDigit hdigit, .inl hdigit⟩
  · exact ⟨'+', ds, rfl, by decide, .inr rfl⟩

/-- What denotes a number has no blanks at its ends, and is not empty. -/
theorem Denotes.tight (h : Denotes cs n) : cs ≠ [] ∧ Tight cs := by
  obtain ⟨lead, plus, ds, rfl, hlead, hplus, hdigits⟩ := h
  obtain ⟨hne, hds, -⟩ := digits_iff.1 hdigits
  -- The last character is a digit, and the first a digit, a plus or the letter of the tag.
  have hlast : ∀ c ∈ (lead ++ plus ++ ds).getLast?, isBlank c = false := by
    intro c hc
    rw [List.getLast?_append_of_ne_nil _ hne] at hc
    exact Text.isBlank_of_isDigit (hds c (List.mem_of_getLast? hc))
  have hhead : ∀ c ∈ (lead ++ plus ++ ds).head?, isBlank c = false := by
    rcases hlead with rfl | htag
    · obtain ⟨c, rest, heq, hblank, -⟩ := exists_cons_of_digits hplus hdigits
      rw [List.nil_append, heq]
      rintro _ ⟨⟩
      exact hblank
    · obtain ⟨c, rest, rfl, hblank, -⟩ := htag.exists_cons
      rintro _ ⟨⟩
      exact hblank
  exact ⟨List.append_ne_nil_of_right_ne_nil _ hne, hhead, hlast⟩

/-- A number without a tag does not lose its first characters as one. -/
theorem not_isTag_take_of_digits {plus : List Char} (hplus : plus = [] ∨ plus = ['+'])
    (hdigits : Digits ds n) : ¬ IsTag ((plus ++ ds).take 4) := by
  obtain ⟨c, rest, heq, -, hfirst⟩ := exists_cons_of_digits hplus hdigits
  intro htag
  obtain ⟨d, more, hcons, -, hdigit, hsign⟩ := htag.exists_cons
  rw [heq, List.take_succ_cons, List.cons.injEq] at hcons
  obtain ⟨rfl, -⟩ := hcons
  rcases hfirst with hfirst | rfl
  · rw [hdigit] at hfirst
    cases hfirst
  · exact hsign rfl

/-- A version is read exactly from its spellings. -/
theorem parse?_eq_some_iff {s : String} {v : HardwareVersion} :
    parse? s = some v ↔ Spells s v.number.toNat := by
  constructor
  · intro h
    -- Blanks are split off first, then the tag, then the plus.
    obtain ⟨w, hw, rfl⟩ := Option.map_eq_some_iff.1 h
    obtain ⟨plus, ds, hrest, hplus, hdigits⟩ := number?_eq_some_iff.1 hw
    obtain ⟨lead, hlead, hcore⟩ := exists_lead (trim s.toList)
    obtain ⟨front, back, hfront, hback, hs⟩ := Text.exists_blanks_trim s.toList
    refine ⟨front, trim s.toList, back, hs, hfront, hback, lead, plus, ds, ?_, hlead, hplus, hdigits⟩
    rw [List.append_assoc, ← hrest]
    exact hcore
  · rintro ⟨front, core, back, hs, hfront, hback, hcore⟩
    obtain ⟨hne, htight⟩ := hcore.tight
    obtain ⟨lead, plus, ds, rfl, hlead, hplus, hdigits⟩ := hcore
    -- A number begins with no tag, so that only a tag that is meant as one is taken away.
    have htag : withoutTag (lead ++ plus ++ ds) = plus ++ ds := by
      rw [List.append_assoc]
      rcases hlead with rfl | htag
      · rw [List.nil_append]
        exact withoutTag_eq_self (not_isTag_take_of_digits hplus hdigits)
      · exact withoutTag_append htag _
    rw [parse?, hs, Text.trim_of_tight hfront hback hne htight, htag,
      number?_eq_some_iff.2 ⟨plus, ds, rfl, hplus, hdigits⟩]
    rfl

/-! ## Reading and writing -/

/-- A number is read from a spelling of it, unless it is too large. -/
theorem exists_parse?_iff {s : String} {n : Nat} :
    (∃ v, parse? s = some v ∧ v.number.toNat = n) ↔ Spells s n ∧ n < UInt32.size := by
  constructor
  · rintro ⟨v, hv, rfl⟩
    exact ⟨parse?_eq_some_iff.1 hv, v.number.toNat_lt⟩
  · rintro ⟨hspells, hlt⟩
    have hvalue : (UInt32.ofNatLT n hlt).toNat = n := UInt32.toNat_ofNatLT
    exact ⟨⟨UInt32.ofNatLT n hlt⟩, parse?_eq_some_iff.2 (hvalue.symm ▸ hspells), hvalue⟩

/-- No two versions are written alike. -/
theorem text_injective : Function.Injective text := by
  intro v w h
  have hread := parse?_text v
  rw [h, parse?_text w] at hread
  exact (Option.some.inj hread).symm

/-- A text that spells no version is refused for that. -/
theorem read_codec_eq_error_iff {form : Form} {s : String} {e : ReadError} :
    codec.read form (.text s) = .error e ↔ parse? s = none ∧ e = .refused (refusal s) := by
  have htext : Codec.text.read form (.text s) = .ok s := rfl
  simp only [codec, Codec.spelled, htext, Except.bind]
  cases parse? s with
  | none => simp [eq_comm]
  | some v => simp

/-- Nothing is read from a text that spells no number, or too large a one. -/
theorem parse?_eq_none_iff {s : String} :
    parse? s = none ↔ ¬ ∃ n, Spells s n ∧ n < UInt32.size := by
  simp only [← exists_parse?_iff, Option.eq_none_iff_forall_ne_some]
  grind

/-- **Exactly the texts of the grammar are read, and what is written is read again.** A text is read as a
number exactly if it stands for that number and the number has 32 binary digits at most; of any other the
words for the fault quote it unchanged. A version is read again from the text that it is written as, and
two texts are read alike exactly if what is read is written alike. Cutting the tag off by bytes succeeds for
every text, and leaves the characters that are read as the number. -/
theorem parse?_grammar :
    (∀ s n, (∃ v, parse? s = some v ∧ v.number.toNat = n) ↔ Spells s n ∧ n < 2 ^ 32) ∧
    (∀ form s (e : ReadError), codec.read form (.text s) = .error e ↔ (¬ ∃ n, Spells s n ∧ n < 2 ^ 32) ∧
      e = .refused ("invalid hardware version '" ++ s ++ "': expected 'vmx-NN' or 'NN'")) ∧
    (∀ v, parse? v.text = some v) ∧
    (∀ s t, (parse? s).map text = (parse? t).map text ↔ parse? s = parse? t) ∧
    ∀ s, ∃ rest, cutTag? (String.ofList (trim s.toList)) = some rest ∧
      parse? s = (number? rest.toList).map HardwareVersion.mk := by
  refine ⟨fun s n => exists_parse?_iff, fun form s e => ?_, parse?_text, fun s t => ?_, fun s => ?_⟩
  · rw [read_codec_eq_error_iff, parse?_eq_none_iff]
    exact Iff.rfl
  · exact (Option.map_injective text_injective).eq_iff
  · refine ⟨_, cutTag?_eq _, ?_⟩
    rw [String.toList_ofList, String.toList_ofList, parse?]

end HardwareVersion

end InventoryProbe
