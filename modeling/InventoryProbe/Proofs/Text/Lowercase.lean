import Mathlib.Data.List.Basic
import Mathlib.Data.List.Infix
import InventoryProbe.Text.Lowercase

/-!
# Small letters of a part

The small letters of a part of a text are a part of the small letters of the text, but for one letter.
A capital sigma becomes `ς` where it ends a word, and a part may end in the middle of one.

* **`lowercaseFrom_append`**: the small letters of a text are those of its parts, each amid the others.
* **`lowercaseAmid_congr`**: a part has the same small letters in two places where each of its capital
  sigmas ends a word in both or in neither.
* **`SigmaAtEdge`**: a part that has a sigma for which this depends on the text.
* **`contains_lowercase_iff`**: every other part, and no such part, is found in small letters wherever
  it stands.
-/

namespace InventoryProbe.Text

variable {c : Char} {before cs after rest pattern front back : List Char}

/-! ## Parts of a text -/

/-- A text contains its parts. -/
theorem contains_iff_part {text : List Char} : contains pattern text ↔ pattern <:+: text := by
  induction text with
  | nil => simp [contains]
  | cons c cs ih => simp [contains, ih, List.infix_cons_iff]

/-- The small letters of characters, between those before them (nearest first) and those after. -/
def lowercaseAmid (before : List Char) : List Char → List Char → List Char
  | [], _ => []
  | c :: cs, after => smallLetters before c (cs ++ after) ++ lowercaseAmid (c :: before) cs after

/-- A text is put into small letters in two parts, each with the other around it. -/
theorem lowercaseFrom_append (before cs after : List Char) :
    lowercaseFrom before (cs ++ after)
      = lowercaseAmid before cs after ++ lowercaseFrom (cs.reverse ++ before) after := by
  induction cs generalizing before with
  | nil => rfl
  | cons c cs ih =>
    rw [List.cons_append, lowercaseFrom, lowercaseAmid, ih]
    simp

theorem lowercaseAmid_append (before cs rest after : List Char) :
    lowercaseAmid before (cs ++ rest) after
      = lowercaseAmid before cs (rest ++ after) ++ lowercaseAmid (cs.reverse ++ before) rest after := by
  induction cs generalizing before with
  | nil => rfl
  | cons c cs ih =>
    rw [List.cons_append, lowercaseAmid, lowercaseAmid, ih]
    simp

/-- A whole text is a part with nothing around it. -/
theorem lowercase_eq_lowercaseAmid (cs : List Char) : lowercase cs = lowercaseAmid [] cs [] := by
  have h := lowercaseFrom_append [] cs []
  rw [List.append_nil] at h
  rw [lowercase, h]
  exact List.append_nil _

/-- Small letters are at least as many as the text has. -/
theorem lowercase_cons_ne_nil (c : Char) (cs : List Char) : lowercase (c :: cs) ≠ [] := by
  have hsome : smallLetters [] c cs ≠ [] := by
    unfold smallLetters
    split
    · exact List.cons_ne_nil _ _
    · split
      · exact List.cons_ne_nil _ _
      · exact List.cons_ne_nil _ _
  exact List.append_ne_nil_of_left_ne_nil hsome _

/-- The small letters of a part, with what is around it, are a part of those of the text. -/
theorem lowercase_append_append (front cs back : List Char) :
    lowercaseAmid front.reverse cs back <:+: lowercase (front ++ cs ++ back) := by
  refine ⟨lowercaseAmid [] front (cs ++ back), lowercaseFrom (cs.reverse ++ front.reverse) back, ?_⟩
  rw [lowercase, List.append_assoc front, lowercaseFrom_append, lowercaseFrom_append, List.append_nil,
    List.append_assoc]

/-! ## The form of a sigma

It is told by the nearest characters on both sides that are not passed over, so that nothing behind
those counts. -/

/-- Whether a capital sigma between these characters ends a word. -/
def endsWord (before after : List Char) : Bool := startsCased before && !startsCased after

theorem smallLetters_sigma (before after : List Char) :
    smallLetters before 'Σ' after = [if endsWord before after then 'ς' else 'σ'] := rfl

/-- For another character it does not. -/
theorem smallLetters_of_ne (h : c ≠ 'Σ') (before after before' after' : List Char) :
    smallLetters before c after = smallLetters before' c after' := by
  unfold smallLetters
  rw [if_neg h, if_neg h]

/-- Characters that are ignored are passed over one by one. -/
theorem startsCased_cons (c : Char) (cs : List Char) :
    startsCased (c :: cs) = if isCaseIgnorable c then startsCased cs else isCased c := by
  unfold startsCased
  by_cases hc : isCaseIgnorable c
  · rw [List.dropWhile_cons_of_pos hc, if_pos hc]
  · rw [List.dropWhile_cons_of_neg hc, if_neg hc]

theorem startsCased_append_of_ignorable (h : ∀ c ∈ cs, isCaseIgnorable c) (rest : List Char) :
    startsCased (cs ++ rest) = startsCased rest := by
  unfold startsCased
  rw [List.dropWhile_append_of_pos h]

/-- What is behind the first character that is not ignored makes no difference. -/
theorem startsCased_append_of_mem (hmem : c ∈ cs) (hc : isCaseIgnorable c = false)
    (rest : List Char) : startsCased (cs ++ rest) = startsCased cs := by
  induction cs with
  | nil => cases hmem
  | cons d cs ih =>
    rw [List.cons_append, startsCased_cons, startsCased_cons]
    split
    · next hd =>
      -- The character that is ignored is not the one that was given.
      have hmore : c ∈ cs := by
        rcases List.mem_cons.1 hmem with rfl | hmore
        · simp [hc] at hd
        · exact hmore
      exact ih hmore
    · rfl

theorem startsCased_of_ignorable (h : ∀ c ∈ cs, isCaseIgnorable c) : startsCased cs = false := by
  have hnil := startsCased_append_of_ignorable h []
  rwa [List.append_nil] at hnil

/-- Either all characters are ignored or one is not. -/
theorem ignorable_or_exists (cs : List Char) :
    (∀ c ∈ cs, isCaseIgnorable c) ∨ ∃ c ∈ cs, isCaseIgnorable c = false := by
  by_cases h : ∀ c ∈ cs, isCaseIgnorable c
  · exact .inl h
  · exact .inr (by simpa using h)

theorem isCaseIgnorable_sigma : isCaseIgnorable 'Σ' = false := by
  decide +kernel

/-- There is no sigma among characters that are ignored. -/
theorem sigma_not_mem_of_ignorable (h : ∀ c ∈ cs, isCaseIgnorable c) : 'Σ' ∉ cs := by
  intro hmem
  have hsigma := h 'Σ' hmem
  rw [isCaseIgnorable_sigma] at hsigma
  cases hsigma

/-! ## Small letters that do not depend on the text -/

/-- Characters have the same small letters in two places where their sigmas have the same form. -/
theorem lowercaseAmid_congr {before' after' : List Char}
    (h : ∀ front back, cs = front ++ 'Σ' :: back →
      endsWord (front.reverse ++ before) (back ++ after)
        = endsWord (front.reverse ++ before') (back ++ after')) :
    lowercaseAmid before cs after = lowercaseAmid before' cs after' := by
  induction cs generalizing before before' with
  | nil => rfl
  | cons c cs ih =>
    have hfirst : smallLetters before c (cs ++ after) = smallLetters before' c (cs ++ after') := by
      -- For a sigma the context decides, and it does so alike on both sides.
      by_cases hc : c = 'Σ'
      · subst hc
        have hform : endsWord before (cs ++ after) = endsWord before' (cs ++ after') := h [] cs rfl
        rw [smallLetters_sigma, smallLetters_sigma, hform]
      · exact smallLetters_of_ne hc _ _ _ _
    have hrest : lowercaseAmid (c :: before) cs after = lowercaseAmid (c :: before') cs after' := by
      apply ih
      intro front back heq
      have hform := h (c :: front) back (by rw [heq, List.cons_append])
      simpa using hform
    rw [lowercaseAmid, lowercaseAmid, hfirst, hrest]

/-- Without a sigma it makes no difference what is around a text. -/
theorem lowercaseAmid_of_sigma_not_mem {before' after' : List Char} (h : 'Σ' ∉ cs) :
    lowercaseAmid before cs after = lowercaseAmid before' cs after' := by
  apply lowercaseAmid_congr
  rintro front back rfl
  exact absurd (List.mem_append_right front List.mem_cons_self) h

/-- That the sigmas of a part have the form that they have in the part by itself. -/
def KeepsSigmas (before cs after : List Char) : Prop :=
  ∀ front back, cs = front ++ 'Σ' :: back →
    endsWord (front.reverse ++ before) (back ++ after) = endsWord front.reverse back

/-- A part is found in small letters where the rest of the text leaves its sigmas as they are. -/
theorem contains_lowercase_of_keepsSigmas (h : KeepsSigmas front.reverse cs back) :
    contains (lowercase cs) (lowercase (front ++ cs ++ back)) := by
  have hamid : lowercaseAmid front.reverse cs back = lowercaseAmid [] cs [] := by
    apply lowercaseAmid_congr
    intro f b heq
    rw [List.append_nil, List.append_nil]
    exact h f b heq
  rw [contains_iff_part, lowercase_eq_lowercaseAmid cs, ← hamid]
  exact lowercase_append_append front cs back

/-! ## Sigmas at an edge -/

/-- That the form of a capital sigma of a part depends on the text around. Either it ends a word of the
part, and what stands behind it there would not keep the word from going on; or what stands in front of
it there does not tell whether it is in a word, and the word does not go on behind it. -/
def SigmaAtEdge (cs : List Char) : Prop :=
  ∃ front back, cs = front ++ 'Σ' :: back ∧
    ((startsCased front.reverse ∧ ∀ c ∈ back, isCaseIgnorable c) ∨
      ((∀ c ∈ front, isCaseIgnorable c) ∧ ¬ startsCased back))

/-- That is so wherever no sigma stands at an edge. -/
theorem keepsSigmas_of_not_sigmaAtEdge (h : ¬ SigmaAtEdge cs) (before after : List Char) :
    KeepsSigmas before cs after := by
  intro front back heq
  unfold endsWord
  rcases ignorable_or_exists front with hfront | ⟨c, hc, hcased⟩
  · -- Nothing is known of what is in front, so that the sigma must go on as a word.
    have hgoes : startsCased back := by
      by_contra hends
      exact h ⟨front, back, heq, .inr ⟨hfront, hends⟩⟩
    have hmore : startsCased (back ++ after) := by
      rcases ignorable_or_exists back with hback | ⟨d, hd, hstops⟩
      · rw [startsCased_of_ignorable hback] at hgoes
        cases hgoes
      · rwa [startsCased_append_of_mem hd hstops]
    rw [hgoes, hmore, Bool.not_true, Bool.and_false, Bool.and_false]
  · have hword := startsCased_append_of_mem (List.mem_reverse.2 hc) hcased before
    rcases ignorable_or_exists back with hback | ⟨d, hd, hstops⟩
    · have hno : startsCased front.reverse = false := by
        rw [← Bool.not_eq_true]
        exact fun hcase => h ⟨front, back, heq, .inl ⟨hcase, hback⟩⟩
      rw [hword, hno, Bool.false_and, Bool.false_and]
    · rw [hword, startsCased_append_of_mem hd hstops]

/-- What stands in front of a sigma does not see what stands behind it. -/
theorem lowercaseAmid_before_sigma (before cs after after' : List Char) :
    lowercaseAmid before cs ('Σ' :: after) = lowercaseAmid before cs ('Σ' :: after') := by
  apply lowercaseAmid_congr
  intro front back _
  have hstop (rest : List Char) :
      startsCased (back ++ 'Σ' :: rest) = startsCased (back ++ ['Σ']) := by
    rw [List.append_cons]
    exact startsCased_append_of_mem (by simp) isCaseIgnorable_sigma rest
  unfold endsWord
  rw [hstop after, hstop after']

/-- What stands behind a sigma does not see what stands in front of it. -/
theorem lowercaseAmid_after_sigma (before before' cs after : List Char) :
    lowercaseAmid ('Σ' :: before) cs after = lowercaseAmid ('Σ' :: before') cs after := by
  apply lowercaseAmid_congr
  intro front back _
  have hstop (rest : List Char) :
      startsCased (front.reverse ++ 'Σ' :: rest) = startsCased (front.reverse ++ ['Σ']) := by
    rw [List.append_cons]
    exact startsCased_append_of_mem (by simp) isCaseIgnorable_sigma rest
  unfold endsWord
  rw [hstop before, hstop before']

/-- The small letters of a text with a sigma in it, in three parts. -/
theorem lowercase_around_sigma (front back : List Char) :
    lowercase (front ++ 'Σ' :: back)
      = lowercaseAmid [] front ['Σ']
        ++ (if endsWord front.reverse back then 'ς' else 'σ') :: lowercaseAmid ['Σ'] back [] := by
  rw [lowercase_eq_lowercaseAmid, lowercaseAmid_append, lowercaseAmid, smallLetters_sigma,
    List.append_nil, List.append_nil, List.append_nil, lowercaseAmid_before_sigma [] front back [],
    lowercaseAmid_after_sigma front.reverse []]
  rfl

/-- A text has a letter at least as often as its parts have it. -/
theorem count_le_of_contains {small text : List Char} (h : contains small text) (c : Char) :
    small.count c ≤ text.count c :=
  (contains_iff_part.1 h).sublist.count_le c

/-- A sigma that ends the part does not end the word when a letter follows. The text has one `ς` less
than the part by itself. -/
theorem not_contains_of_letter_behind (hword : startsCased front.reverse)
    (hback : ∀ c ∈ back, isCaseIgnorable c) :
    ¬ contains (lowercase (front ++ 'Σ' :: back)) (lowercase (front ++ 'Σ' :: (back ++ ['a']))) := by
  have halone : endsWord front.reverse back = true := by
    unfold endsWord
    rw [hword, startsCased_of_ignorable hback]
    rfl
  have hfollowed : endsWord front.reverse (back ++ ['a']) = false := by
    have hletter : startsCased ['a'] = true := by decide +kernel
    unfold endsWord
    rw [startsCased_append_of_ignorable hback, hletter, Bool.not_true, Bool.and_false]
  have hbehind : lowercaseAmid ['Σ'] (back ++ ['a']) [] = lowercaseAmid ['Σ'] back [] ++ ['a'] := by
    have hsame : lowercaseAmid ['Σ'] back ['a'] = lowercaseAmid ['Σ'] back [] :=
      lowercaseAmid_of_sigma_not_mem (sigma_not_mem_of_ignorable hback)
    rw [lowercaseAmid_append, List.append_nil, hsame]
    rfl
  intro h
  -- The pattern has one final sigma more than the text.
  have hcount := count_le_of_contains h 'ς'
  rw [lowercase_around_sigma, lowercase_around_sigma, halone, hfollowed, hbehind,
    if_pos rfl, if_neg Bool.false_ne_true, List.count_append, List.count_append,
    List.count_cons_self, List.count_cons_of_ne (by decide), List.count_append,
    List.count_singleton, if_neg (by decide)] at hcount
  omega

/-- A sigma in front of all letters of the part ends the word when a letter is put in front of it. The
text has one `σ` less than the part by itself. -/
theorem not_contains_of_letter_in_front (hfront : ∀ c ∈ front, isCaseIgnorable c)
    (hends : ¬ startsCased back) :
    ¬ contains (lowercase (front ++ 'Σ' :: back)) (lowercase ('a' :: front ++ 'Σ' :: back)) := by
  have hreverse : ∀ c ∈ front.reverse, isCaseIgnorable c := fun c hc =>
    hfront c (List.mem_reverse.1 hc)
  have halone : endsWord front.reverse back = false := by
    unfold endsWord
    rw [startsCased_of_ignorable hreverse, Bool.false_and]
  have hpreceded : endsWord ('a' :: front).reverse back = true := by
    have hletter : startsCased ['a'] = true := by decide +kernel
    unfold endsWord
    rw [List.reverse_cons, startsCased_append_of_ignorable hreverse, hletter, Bool.true_and]
    simpa using hends
  have hfollows : lowercaseAmid [] ('a' :: front) ['Σ'] = 'a' :: lowercaseAmid [] front ['Σ'] := by
    have hsame : lowercaseAmid ['a'] front ['Σ'] = lowercaseAmid [] front ['Σ'] :=
      lowercaseAmid_of_sigma_not_mem (sigma_not_mem_of_ignorable hfront)
    rw [lowercaseAmid, hsame]
    rfl
  intro h
  -- The pattern has one sigma that is not final more than the text.
  have hcount := count_le_of_contains h 'σ'
  rw [lowercase_around_sigma, lowercase_around_sigma, halone, hpreceded, hfollows,
    if_pos rfl, if_neg Bool.false_ne_true, List.count_append, List.count_cons_self,
    List.cons_append, List.count_cons_of_ne (by decide), List.count_append,
    List.count_cons_of_ne (by decide)] at hcount
  omega

/-- A part is found in small letters wherever it stands, unless a sigma is at its edge. -/
theorem contains_lowercase_iff :
    (∀ front back, contains (lowercase cs) (lowercase (front ++ cs ++ back))) ↔ ¬ SigmaAtEdge cs := by
  constructor
  · rintro h ⟨front, back, rfl, ⟨hword, hback⟩ | ⟨hfront, hends⟩⟩
    · have hfound := h [] ['a']
      rw [List.nil_append, List.append_assoc, List.cons_append] at hfound
      exact not_contains_of_letter_behind hword hback hfound
    · have hfound := h ['a'] []
      rw [List.append_nil] at hfound
      exact not_contains_of_letter_in_front hfront hends hfound
  · intro h front back
    exact contains_lowercase_of_keepsSigmas (keepsSigmas_of_not_sigmaAtEdge h _ _)

end InventoryProbe.Text
