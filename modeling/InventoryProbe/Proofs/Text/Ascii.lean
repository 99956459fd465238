import InventoryProbe.Proofs.Text.Lowercase

/-!
# The case of ASCII letters

An ASCII letter counts for its neighbours as the same letter in the other case does: both are cased, and
neither is passed over. So a text may be given ASCII small letters before it is put into small letters
altogether, and texts that differ in the case of ASCII letters only are the same in small letters, also
where one of those letters decides the form of a sigma.

* **`asciiLower_eq_iff_of_not_isAlpha`**: only a letter comes of a letter.
* **`lowercase_map_asciiLower`**: ASCII small letters beforehand make no difference.
* **`lowercase_eq_of_equalIgnoringAsciiCase`**: nor does the case of ASCII letters.
-/

namespace InventoryProbe.Text

variable {c : Char} {cs : List Char}

/-! ## One character -/

theorem toNat_ofNat {n : Nat} (h : n < 128) : (Char.ofNat n).toNat = n := by
  have hvalid : n.isValidChar := Or.inl (by omega)
  rw [Char.ofNat, dif_pos hvalid]
  rfl

/-- Capital letters are moved to the small ones, and nothing else is. -/
theorem toNat_asciiLower (c : Char) :
    (asciiLower c).toNat = if 65 ≤ c.toNat ∧ c.toNat ≤ 90 then c.toNat + 32 else c.toNat := by
  have hcapital : ('A' ≤ c ∧ c ≤ 'Z') ↔ (65 ≤ c.toNat ∧ c.toNat ≤ 90) := Iff.rfl
  unfold asciiLower
  simp only [hcapital]
  split
  · exact toNat_ofNat (by omega)
  · rfl

/-- Two characters become a small letter: itself and its capital. -/
theorem asciiLower_eq_iff {small capital : Char} (hletter : 97 ≤ small.toNat ∧ small.toNat ≤ 122)
    (hcase : capital.toNat + 32 = small.toNat) :
    asciiLower c = small ↔ c = small ∨ c = capital := by
  rw [← Char.toNat_inj, ← Char.toNat_inj, ← Char.toNat_inj, toNat_asciiLower]
  split
  · omega
  · omega

/-- Letters are two ranges of characters. -/
theorem isAlpha_iff :
    c.isAlpha ↔ (65 ≤ c.toNat ∧ c.toNat ≤ 90) ∨ (97 ≤ c.toNat ∧ c.toNat ≤ 122) := by
  unfold Char.isAlpha Char.isUpper Char.isLower
  simp only [Bool.or_eq_true, Bool.and_eq_true, decide_eq_true_eq]
  exact Iff.rfl

/-- What is no letter comes of itself only. -/
theorem asciiLower_eq_iff_of_not_isAlpha {other : Char} (h : ¬ other.isAlpha) :
    asciiLower c = other ↔ c = other := by
  rw [isAlpha_iff] at h
  rw [← Char.toNat_inj, ← Char.toNat_inj, toNat_asciiLower]
  split
  · omega
  · rfl

/-- A character is left as it is, or it is a capital and becomes the letter 32 places on. -/
theorem asciiLower_eq_self_or (c : Char) :
    asciiLower c = c ∨ (65 ≤ c.toNat ∧ c.toNat ≤ 90) ∧ (asciiLower c).toNat = c.toNat + 32 := by
  have hnat := toNat_asciiLower c
  split at hnat
  · next hcapital => exact .inr ⟨hcapital, hnat⟩
  · exact .inl (Char.toNat_inj.1 hnat)

/-- A letter is there in another case. -/
theorem exists_other_case (h : c.isAlpha) : ∃ d, d ≠ c ∧ asciiLower d = asciiLower c := by
  rw [isAlpha_iff] at h
  rcases h with hcapital | hsmall
  · -- A capital has its small letter, and the other way round.
    have hlower : (asciiLower c).toNat = c.toNat + 32 := by
      rw [toNat_asciiLower, if_pos hcapital]
    refine ⟨asciiLower c, ?_, ?_⟩
    · rw [ne_eq, ← Char.toNat_inj]
      omega
    · rw [← Char.toNat_inj, toNat_asciiLower (asciiLower c), if_neg (by omega)]
  · have hupper : (Char.ofNat (c.toNat - 32)).toNat = c.toNat - 32 := toNat_ofNat (by omega)
    refine ⟨Char.ofNat (c.toNat - 32), ?_, ?_⟩
    · rw [ne_eq, ← Char.toNat_inj]
      omega
    · rw [← Char.toNat_inj, toNat_asciiLower, toNat_asciiLower, if_pos (by omega), if_neg (by omega)]
      omega

/-! ## Letters among their neighbours -/

/-- A range has the characters between its ends. -/
theorem CodeRange.contains_iff {r : CodeRange} {n : Nat} :
    r.contains n ↔ r.first ≤ n ∧ n ≤ r.last := by
  unfold CodeRange.contains
  rw [Bool.and_eq_true, decide_eq_true_eq, decide_eq_true_eq]

/-- Letters have a case. -/
theorem isCased_of_isAlpha (h : c.isAlpha) : isCased c := by
  rw [isAlpha_iff] at h
  rw [isCased, List.any_eq_true]
  simp only [CodeRange.contains_iff]
  rcases h with hcapital | hsmall
  · exact ⟨⟨65, 90⟩, List.mem_cons_self, hcapital⟩
  · exact ⟨⟨97, 122⟩, List.mem_cons_of_mem _ List.mem_cons_self, hsmall⟩

theorem isCaseIgnorable_of_isAlpha (h : c.isAlpha) : isCaseIgnorable c = false := by
  -- Between the letters and on both sides of them there are characters that are passed over.
  have hranges : ∀ r ∈ caseIgnorableRanges,
      r.last < 65 ∨ (90 < r.first ∧ r.last < 97) ∨ 122 < r.first := by
    decide +kernel
  rw [isAlpha_iff] at h
  rw [isCaseIgnorable, List.any_eq_false]
  intro r hr
  have hapart := hranges r hr
  rw [CodeRange.contains_iff]
  omega

/-- What is true of both cases of every letter is not changed by the case of a letter. -/
theorem asciiLower_invariant {β : Type} (f : Char → β) (b : β) (h : ∀ c : Char, c.isAlpha → f c = b)
    (c : Char) : f (asciiLower c) = f c := by
  rcases asciiLower_eq_self_or c with heq | ⟨hcapital, hsmall⟩
  · rw [heq]
  · rw [h c (isAlpha_iff.2 (.inl hcapital)), h (asciiLower c) (isAlpha_iff.2 (.inr (by omega)))]

/-- Small or capital, a letter has a case, and what has none gets none. -/
theorem isCased_asciiLower (c : Char) : isCased (asciiLower c) = isCased c :=
  asciiLower_invariant isCased true (fun _ => isCased_of_isAlpha) c

theorem isCaseIgnorable_asciiLower (c : Char) : isCaseIgnorable (asciiLower c) = isCaseIgnorable c :=
  asciiLower_invariant isCaseIgnorable false (fun _ => isCaseIgnorable_of_isAlpha) c

/-- A text begins with a cased letter in either case or in none. -/
theorem startsCased_map_asciiLower (cs : List Char) :
    startsCased (cs.map asciiLower) = startsCased cs := by
  induction cs with
  | nil => rfl
  | cons c cs ih =>
    rw [List.map_cons, startsCased_cons, startsCased_cons, isCaseIgnorable_asciiLower,
      isCased_asciiLower, ih]

/-! ## Small letters -/

/-- A letter has the same small letter in either case. -/
theorem smallLetter_asciiLower (c : Char) : smallLetter (asciiLower c) = smallLetter c := by
  rcases asciiLower_eq_self_or c with heq | ⟨hcapital, hsmall⟩
  · rw [heq]
  · have hletter : ¬ (65 ≤ (asciiLower c).toNat ∧ (asciiLower c).toNat ≤ 90) := by omega
    -- What has become a small letter stays it.
    have htwice : asciiLower (asciiLower c) = asciiLower c := by
      rw [← Char.toNat_inj, toNat_asciiLower, if_neg hletter]
    unfold smallLetter
    rw [if_pos (by omega), if_pos (by omega), htwice]

theorem smallLetters_map_asciiLower (before : List Char) (c : Char) (after : List Char) :
    smallLetters (before.map asciiLower) (asciiLower c) (after.map asciiLower)
      = smallLetters before c after := by
  -- The two characters that are treated apart are no ASCII letters, and none becomes one of them.
  have hsigma : asciiLower c = 'Σ' ↔ c = 'Σ' := asciiLower_eq_iff_of_not_isAlpha (by decide)
  have hdotted : asciiLower c = 'İ' ↔ c = 'İ' := asciiLower_eq_iff_of_not_isAlpha (by decide)
  unfold smallLetters
  simp only [hsigma, hdotted, startsCased_map_asciiLower, smallLetter_asciiLower]

/-- A text has the same small letters in any ASCII case. Induction on the text, with what is in front of
it in the other case as well. -/
theorem lowercaseFrom_map_asciiLower (before cs : List Char) :
    lowercaseFrom (before.map asciiLower) (cs.map asciiLower) = lowercaseFrom before cs := by
  induction cs generalizing before with
  | nil => rfl
  | cons c cs ih =>
    rw [List.map_cons, lowercaseFrom, lowercaseFrom, smallLetters_map_asciiLower, ← List.map_cons, ih]

theorem lowercase_map_asciiLower (cs : List Char) : lowercase (cs.map asciiLower) = lowercase cs :=
  lowercaseFrom_map_asciiLower [] cs

/-- Texts that differ in the case of ASCII letters have the same small letters. -/
theorem lowercase_eq_of_equalIgnoringAsciiCase {a b : List Char} (h : equalIgnoringAsciiCase a b) :
    lowercase a = lowercase b := by
  have hsame : a.map asciiLower = b.map asciiLower := eq_of_beq h
  rw [← lowercase_map_asciiLower a, hsame, lowercase_map_asciiLower]

end InventoryProbe.Text
