import InventoryProbe.Document.JsonReader
import InventoryProbe.Document.JsonWriter
import InventoryProbe.Proofs.Text.Digits
import Mathlib.Data.List.TakeDrop

/-!
# JSON texts are read as what was written

A tree that holds nothing but values, names and proper numbers is the tree of its own JSON text, in
one line or spread over many: blanks between the tokens are passed over, a quoted text ends at its
quote, and a number ends where no number goes on.

* **`text_quoted`**: a text is read whole.
* **`Writable.value_writeAt`**: so is every tree, whatever follows it.
* **`read_writeAt`**: the text of a tree is read as that tree, to its end.
-/

namespace InventoryProbe.Json

open Text (isDigit isHexDigit numberOf EndsDigits)

/-! ## Texts -/

/-- The two hexadecimal digits behind two zeros name a control character. -/
theorem hexDigits_control : ∀ n < 32,
    ['0', '0', hexDigit (n / 16), hexDigit (n % 16)].all isHexDigit ∧
      numberOf 16 ['0', '0', hexDigit (n / 16), hexDigit (n % 16)] = n := by
  decide

/-- A character is read from its escape. -/
theorem units_escape (c : Char) (rest : List Char) :
    units (escape c ++ rest) = pushUnit (.char c) (units rest) := by
  unfold escape
  split
  · next h => subst h; rfl
  split
  · next h => subst h; rfl
  split
  · next h => subst h; rfl
  split
  · next h => subst h; rfl
  split
  · next h => subst h; rfl
  split
  · next h => subst h; rfl
  split
  · next h => subst h; rfl
  split
  · next hcontrol =>
    -- What is left of the control characters is named by number.
    have hlt : c.toNat < 32 := hcontrol
    obtain ⟨hhex, hvalue⟩ := hexDigits_control c.toNat hlt
    have hunit : Unit16.ofNat c.toNat = .char c := by
      unfold Unit16.ofNat
      rw [if_neg (by omega), Char.ofNat_toNat]
    simp only [List.cons_append, List.nil_append]
    rw [units, if_pos hhex, hvalue, hunit]
  · next hquote hbackslash _ _ _ _ _ hplain =>
    -- Every other character stands for itself.
    rw [List.singleton_append, units]
    · rw [if_neg]
      simp [hbackslash, hplain]
    · exact hquote
    · exact fun _ _ _ _ _ h => absurd h hbackslash
    · exact fun _ _ h => absurd h hbackslash

theorem units_quoted (cs rest : List Char) :
    units (cs.flatMap escape ++ '"' :: rest) = some (cs.map .char, rest) := by
  induction cs with
  | nil => rfl
  | cons c cs ih =>
    rw [List.flatMap_cons, List.append_assoc, units_escape, ih]
    rfl

/-- Characters are characters of a text. -/
theorem characters_map_char (cs : List Char) : characters (cs.map .char) = some cs := by
  induction cs with
  | nil => rfl
  | cons c cs ih =>
    rw [List.map_cons, characters, ih]
    rfl

/-- A text is read from its quotation. -/
theorem text_quoted (s : String) (rest : List Char) :
    text (s.toList.flatMap escape ++ '"' :: rest) = some (some s, rest) := by
  rw [text, units_quoted]
  simp only [characters_map_char, Option.map_some, String.ofList_toList]

/-! ## Numbers -/

variable {ds rest : List Char}

/-- That no number goes on with a character. -/
def StopsNumber (c : Char) : Prop := ¬ isDigit c ∧ c ≠ '.' ∧ c ≠ 'e' ∧ c ≠ 'E'

instance : DecidablePred StopsNumber := fun _ => inferInstanceAs (Decidable (_ ∧ _))

/-- That no number goes on here. -/
def EndsNumber (rest : List Char) : Prop := ∀ c ∈ rest.head?, StopsNumber c

/-- Digits are read up to where they end. -/
theorem digits_append (hds : ∀ c ∈ ds, isDigit c) (hrest : EndsDigits rest) :
    digits (ds ++ rest) = (ds, rest) := by
  rw [digits, List.span_eq_takeWhile_dropWhile, Text.takeWhile_isDigit_append hds hrest,
    Text.dropWhile_isDigit_append hds hrest]

/-- Where a number ends there is no exponent. -/
theorem exponent?_of_ends (h : EndsNumber rest) : exponent? rest = some ([], rest) := by
  unfold exponent?
  split
  · next c cs =>
    obtain ⟨-, -, hsmall, hcapital⟩ := h c rfl
    rw [if_neg (by simp [hsmall, hcapital])]
  · rfl

/-- What starts with a digit has no sign. -/
theorem number?_of_magnitude? {literal : List Char} {c : Char} {more : List Char}
    (hstart : literal = c :: more) (hc : isDigit c)
    (h : magnitude? (literal ++ rest) = some (literal, rest)) :
    number? (literal ++ rest) = some (String.ofList literal, rest) := by
  unfold number?
  split
  · next heq =>
    rw [hstart, List.cons_append, List.cons.injEq] at heq
    exact absurd (heq.1 ▸ hc) (by decide)
  · rw [h]
    rfl

/-- A number starts with a digit or with a minus sign. -/
theorem start_of_number? {cs : List Char} {literal : String}
    (h : number? cs = some (literal, rest)) : ∃ c more, cs = c :: more ∧ (c = '-' ∨ isDigit c) := by
  cases cs with
  | nil => cases h
  | cons c more =>
    refine ⟨c, more, rfl, ?_⟩
    by_contra hstart
    rw [not_or] at hstart
    -- No digits, no number.
    have hnone : (digits (c :: more)).1 = [] := by
      simp [digits, List.span_eq_takeWhile_dropWhile, hstart.2]
    unfold number? at h
    split at h
    · next heq => exact hstart.1 (List.cons.inj heq).1
    · unfold magnitude? at h
      simp [hnone] at h

/-- That a literal is a number, and is read whole wherever no number goes on behind it. -/
def IsNumber (literal : String) : Prop :=
  ∀ rest, EndsNumber rest → number? (literal.toList ++ rest) = some (literal, rest)

/-! ## Blanks -/

def Blank (cs : List Char) : Prop := ∀ c ∈ cs, isSpace c

/-- That nothing but blanks stands between the tokens. -/
structure Spacing.Blank (spacing : Spacing) : Prop where
  line : ∀ depth, Json.Blank (spacing.line depth)
  colon : Json.Blank spacing.colon

theorem Spacing.blank_tight : Spacing.tight.Blank where
  line _ _ h := absurd h List.not_mem_nil
  colon _ h := absurd h List.not_mem_nil

theorem Spacing.blank_indented : Spacing.indented.Blank where
  line depth c h := by
    rcases List.mem_cons.1 h with rfl | hblank
    · rfl
    · rw [List.eq_of_mem_replicate hblank]
      rfl
  colon c h := by
    rw [List.mem_singleton.1 h]
    rfl

theorem skipSpaces_append {lead cs : List Char} (h : Blank lead) :
    skipSpaces (lead ++ cs) = skipSpaces cs :=
  List.dropWhile_append_of_pos h

theorem skipSpaces_cons {c : Char} {cs : List Char} (h : isSpace c = false) :
    skipSpaces (c :: cs) = c :: cs :=
  List.dropWhile_cons_of_neg (by simp [h])

/-- A blank stops a number. -/
theorem stopsNumber_of_isSpace {c : Char} (h : isSpace c) : StopsNumber c := by
  unfold isSpace at h
  simp only [Bool.or_eq_true, decide_eq_true_eq] at h
  rcases h with ((rfl | rfl) | rfl) | rfl
  all_goals decide

/-- A number ends in front of blanks. -/
theorem endsNumber_append {lead : List Char} (h : Blank lead) (hrest : EndsNumber rest) :
    EndsNumber (lead ++ rest) := by
  cases lead with
  | nil => exact hrest
  | cons c more =>
    rintro _ ⟨⟩
    have hspace := h c List.mem_cons_self
    exact stopsNumber_of_isSpace hspace

theorem endsNumber_cons {c : Char} {cs : List Char} (h : StopsNumber c) : EndsNumber (c :: cs) := by
  rintro _ ⟨⟩
  exact h

/-! ## Trees -/

/-- That a tree holds nothing but values, and each under a name where it is a member. -/
inductive Writable : Document → Prop where
  | null : Writable .null
  | bool (b : Bool) : Writable (.bool b)
  | number {literal : String} (h : IsNumber literal) : Writable (.number literal)
  | text (s : String) : Writable (.text s)
  | list {items : List Document} (h : ∀ item ∈ items, Writable item) : Writable (.list items)
  | object {members : List (Option String × Document)} (named : ∀ m ∈ members, m.1.isSome)
      (h : ∀ m ∈ members, Writable m.2) : Writable (.object members)

/-- A list can be written if its entries can. -/
@[simp] theorem writable_list_iff {items : List Document} :
    Writable (.list items) ↔ ∀ item ∈ items, Writable item := by
  constructor
  · rintro ⟨⟩
    assumption
  · exact .list

/-- An object can be written if its members have names, and what they hold can be written. -/
@[simp] theorem writable_object_iff {members : List (Option String × Document)} :
    Writable (.object members) ↔ ∀ m ∈ members, m.1.isSome ∧ Writable m.2 := by
  constructor
  · rintro ⟨⟩ m hm
    next named h => exact ⟨named m hm, h m hm⟩
  · intro h
    exact .object (fun m hm => (h m hm).1) fun m hm => (h m hm).2

/-! Nothing in such a tree is at fault, whether it is read or passed over. -/

/-- A list is complete if its entries are. -/
theorem areComplete_iff {items : List Document} :
    Document.areComplete items ↔ ∀ item ∈ items, item.isComplete := by
  induction items with
  | nil => simp [Document.areComplete]
  | cons item items ih => simp [Document.areComplete, ih]

/-- Members are complete if what they hold is. -/
theorem membersAreComplete_iff {members : List (Option String × Document)} :
    Document.membersAreComplete members ↔ ∀ m ∈ members, m.2.isComplete := by
  induction members with
  | nil => simp [Document.membersAreComplete]
  | cons m members ih => simp [Document.membersAreComplete, ih]

/-- A list is readable if its entries are. -/
theorem areReadable_iff {items : List Document} :
    Document.areReadable items ↔ ∀ item ∈ items, item.isReadable := by
  induction items with
  | nil => simp [Document.areReadable]
  | cons item items ih => simp [Document.areReadable, ih]

/-- Members are readable if they have names, and what they hold is readable. -/
theorem membersAreReadable_iff {members : List (Option String × Document)} :
    Document.membersAreReadable members ↔ ∀ m ∈ members, m.1.isSome ∧ m.2.isReadable := by
  induction members with
  | nil => simp [Document.membersAreReadable]
  | cons m members ih => simp [Document.membersAreReadable, ih, and_assoc]

/-- What can be written is complete. -/
theorem Writable.isComplete {d : Document} (h : Writable d) : d.isComplete := by
  induction h with
  | null | bool | number | text => rfl
  | list h ih => exact areComplete_iff.2 ih
  | object named h ih => exact membersAreComplete_iff.2 ih

/-- What can be written is readable. -/
theorem Writable.isReadable {d : Document} (h : Writable d) : d.isReadable := by
  induction h with
  | null | bool | number | text => rfl
  | list h ih => exact areReadable_iff.2 ih
  | object named h ih => exact membersAreReadable_iff.2 fun m hm => ⟨named m hm, ih m hm⟩

variable {spacing : Spacing} {trail : List Char}

/-- A number begins with a character that no blank and no bracket begins with. -/
theorem startsValue_of_number {c : Char} (h : c = '-' ∨ isDigit c) :
    isSpace c = false ∧ c ≠ ']' := by
  rcases h with rfl | hdigit
  · decide
  · constructor
    · exact Bool.eq_false_iff.2 fun hspace => (stopsNumber_of_isSpace hspace).1 hdigit
    · rintro rfl
      exact absurd hdigit (by decide)

/-- What is written for a tree starts with neither a blank nor the end of a list. -/
theorem Writable.start {d : Document} (h : Writable d) (spacing : Spacing) (depth : Nat) :
    ∃ c cs, writeAt spacing depth d = c :: cs ∧ isSpace c = false ∧ c ≠ ']' := by
  cases h with
  | null => exact ⟨'n', _, rfl, rfl, by decide⟩
  | bool b => cases b with
    | true => exact ⟨'t', _, rfl, rfl, by decide⟩
    | false => exact ⟨'f', _, rfl, rfl, by decide⟩
  | text s => exact ⟨'"', _, rfl, rfl, by decide⟩
  | @list items h => cases items with
    | nil => exact ⟨'[', _, rfl, rfl, by decide⟩
    | cons item items => exact ⟨'[', _, rfl, rfl, by decide⟩
  | @object ms named h => cases ms with
    | nil => exact ⟨_, _, rfl, rfl, by decide⟩
    | cons m ms => exact ⟨_, _, rfl, rfl, by decide⟩
  -- A number begins as every number does that is read.
  | number h =>
    have hread := h [] fun _ hc => nomatch hc
    rw [List.append_nil] at hread
    obtain ⟨c, more, heq, hstart⟩ := start_of_number? hread
    exact ⟨c, more, heq, startsValue_of_number hstart⟩

/-- Blanks in front of a value are passed over. -/
theorem value_append {lead : List Char} (h : Blank lead) (fuel : Nat) (cs : List Char) :
    value fuel (lead ++ cs) = value fuel cs := by
  cases fuel with
  | zero => rfl
  | succ fuel => simp only [value, skipSpaces_append h]

/-- A number is no value of another kind. -/
theorem value_of_number? {cs : List Char} {literal : String}
    (h : number? cs = some (literal, rest)) (fuel : Nat) :
    value (fuel + 1) cs = (.number literal, some rest) := by
  obtain ⟨c, more, rfl, hstart⟩ := start_of_number? h
  have hskip : skipSpaces (c :: more) = c :: more :=
    skipSpaces_cons (startsValue_of_number hstart).1
  -- A number is none of the values that are told by their first character.
  have hne (other : Char) (hother : ¬ (other = '-' ∨ isDigit other)) : c ≠ other :=
    fun heq => hother (heq ▸ hstart)
  rw [value, hskip]
  split
  · next heq => exact absurd (List.cons.inj heq).1 (hne 'n' (by decide))
  · next heq => exact absurd (List.cons.inj heq).1 (hne 't' (by decide))
  · next heq => exact absurd (List.cons.inj heq).1 (hne 'f' (by decide))
  · next heq => exact absurd (List.cons.inj heq).1 (hne '"' (by decide))
  · next heq => exact absurd (List.cons.inj heq).1 (hne '[' (by decide))
  · next heq => exact absurd (List.cons.inj heq).1 (hne '{' (by decide))
  · rw [h]

/-- A list is read from what is behind its bracket. -/
theorem value_list {c : Char} {cs more : List Char} {fuel : Nat}
    (hskip : skipSpaces cs = c :: more) (hc : c ≠ ']')
    {found : List Document} {after : Option (List Char)}
    (h : items fuel (c :: more) = (found, after)) :
    value (fuel + 1) ('[' :: cs) = (.list found, after) := by
  rw [value, skipSpaces_cons rfl]
  simp only [hskip]
  split
  · next heq => exact absurd (List.cons.inj heq).1 hc
  · rw [h]

/-- An object is read from what is behind its brace. -/
theorem value_object {c : Char} {cs more : List Char} {fuel : Nat}
    (hskip : skipSpaces cs = c :: more) (hc : c ≠ '}')
    {found : List (Option String × Document)} {after : Option (List Char)}
    (h : members fuel (c :: more) = (found, after)) :
    value (fuel + 1) ('{' :: cs) = (.object found, after) := by
  rw [value, skipSpaces_cons rfl]
  simp only [hskip]
  split
  · next heq => exact absurd (List.cons.inj heq).1 hc
  · rw [h]

/-- Blanks in front of entries are passed over. -/
theorem items_append {lead : List Char} (h : Blank lead) (fuel : Nat) (cs : List Char) :
    items fuel (lead ++ cs) = items fuel cs := by
  cases fuel with
  | zero => rfl
  | succ fuel => simp only [items, value_append h]

theorem members_append {lead : List Char} (h : Blank lead) (fuel : Nat) (cs : List Char) :
    members fuel (lead ++ cs) = members fuel cs := by
  cases fuel with
  | zero => rfl
  | succ fuel => simp only [members, skipSpaces_append h]

/-- That a tree is read from what is written for it, whatever follows, in no more steps than twice
its characters. -/
def ReadsBack (spacing : Spacing) (d : Document) : Prop :=
  ∀ depth fuel rest, 2 * (writeAt spacing depth d).length < fuel → EndsNumber rest →
    value fuel (writeAt spacing depth d ++ rest) = (d, some rest)

/-- To be read back is shown with one step to spare. -/
theorem readsBack_of_value {d : Document}
    (h : ∀ depth fuel rest, 2 * (writeAt spacing depth d).length ≤ fuel → EndsNumber rest →
      value (fuel + 1) (writeAt spacing depth d ++ rest) = (d, some rest)) :
    ReadsBack spacing d := by
  intro depth fuel rest hfuel hends
  cases fuel with
  | zero => omega
  | succ fuel => exact h depth fuel rest (by omega) hends

/-! ### Lists -/

/-- Behind an entry a number ends: there is a comma, or the bracket. -/
theorem endsNumber_writeItems (spacing : Spacing) (htrail : Blank trail) (depth : Nat)
    (more : List Document) (rest : List Char) :
    EndsNumber (writeItems spacing depth more ++ (trail ++ ']' :: rest)) := by
  cases more with
  | nil =>
    rw [writeItems, List.nil_append]
    exact endsNumber_append htrail (endsNumber_cons (by decide))
  | cons next more => exact endsNumber_cons (by decide)

/-- Entries are read back one by one. Induction on those behind the first. -/
theorem items_writeItems (hspacing : spacing.Blank) (htrail : Blank trail) {item : Document}
    {more : List Document} (h : ∀ d ∈ item :: more, ReadsBack spacing d) (depth fuel : Nat)
    (hfuel : 2 * ((writeAt spacing depth item).length + (writeItems spacing depth more).length) + 1
      < fuel) (rest : List Char) :
    items fuel (writeAt spacing depth item ++
      (writeItems spacing depth more ++ (trail ++ ']' :: rest))) = (item :: more, some rest) := by
  induction more generalizing item fuel with
  | nil =>
    obtain ⟨fuel, rfl⟩ : ∃ n, fuel = n + 1 := ⟨fuel - 1, by omega⟩
    have hitem := h item List.mem_cons_self depth fuel _ (by omega)
      (endsNumber_writeItems spacing htrail depth [] rest)
    rw [items, hitem]
    simp only [writeItems, List.nil_append, skipSpaces_append htrail,
      skipSpaces_cons (show isSpace ']' = false from rfl)]
  | cons next more ih =>
    obtain ⟨fuel, rfl⟩ : ∃ n, fuel = n + 1 := ⟨fuel - 1, by omega⟩
    have hitem := h item List.mem_cons_self depth fuel _ (by omega)
      (endsNumber_writeItems spacing htrail depth (next :: more) rest)
    rw [items, hitem]
    -- The comma is taken off, and the items behind it are read with one step less.
    simp only [writeItems, List.length_append, List.length_cons] at hfuel
    have hmore := ih (fun d hd => h d (List.mem_cons_of_mem _ hd)) fuel (by omega)
    simp only [writeItems, List.append_assoc, List.cons_append,
      skipSpaces_cons (show isSpace ',' = false from rfl), items_append (hspacing.line depth),
      hmore]

/-- A list is read back if its entries are. -/
theorem readsBack_list (hspacing : spacing.Blank) {items : List Document}
    (hwritable : ∀ item ∈ items, Writable item) (h : ∀ item ∈ items, ReadsBack spacing item) :
    ReadsBack spacing (.list items) := by
  refine readsBack_of_value fun depth fuel rest hfuel hends => ?_
  cases items with
  | nil => rfl
  | cons item more =>
    simp only [writeAt, List.length_append, List.length_cons] at hfuel
    have hitems := items_writeItems hspacing (hspacing.line depth) h (depth + 1) fuel (by omega)
      rest
    -- Behind the bracket and the blanks the first item starts, so the list does not end there.
    obtain ⟨c, cs, hitem, hspace, hc⟩ :=
      (hwritable item List.mem_cons_self).start spacing (depth + 1)
    rw [hitem, List.cons_append] at hitems
    simp only [writeAt, List.cons_append, List.append_assoc, List.nil_append]
    refine value_list ?_ hc hitems
    rw [skipSpaces_append (hspacing.line (depth + 1)), hitem, List.cons_append,
      skipSpaces_cons hspace]

/-! ### Objects -/

/-- Behind a member a number ends: there is a comma, or the brace. -/
theorem endsNumber_writeMembers (spacing : Spacing) (htrail : Blank trail) (depth : Nat)
    (more : List (Option String × Document)) (rest : List Char) :
    EndsNumber (writeMembers spacing depth more ++ (trail ++ '}' :: rest)) := by
  cases more with
  | nil =>
    rw [writeMembers, List.nil_append]
    exact endsNumber_append htrail (endsNumber_cons (by decide))
  | cons next more => exact endsNumber_cons (by decide)

section Member

variable {fuel depth : Nat} {d : Document} {tail : List Char} {m : Option String × Document}

/-- The last member is followed by the end of the object. -/
theorem members_last (hspacing : spacing.Blank) (hnamed : m.1.isSome)
    (hvalue : value fuel (writeAt spacing depth m.2 ++ tail) = (m.2, some tail))
    (htail : skipSpaces tail = '}' :: rest) :
    members (fuel + 1)
      (quote (m.1.getD "") ++ (':' :: (spacing.colon ++ (writeAt spacing depth m.2 ++ tail))))
        = ([m], some rest) := by
  obtain ⟨_ | name, d⟩ := m
  · cases hnamed
  · simp only [Option.getD_some, quote, List.cons_append, List.append_assoc, List.nil_append,
      members, skipSpaces_cons (show isSpace '"' = false from rfl), text_quoted,
      skipSpaces_cons (show isSpace ':' = false from rfl), value_append hspacing.colon, hvalue,
      htail]

/-- Any other is followed by a comma, and the next one by what is read with one step less. -/
theorem members_comma (hspacing : spacing.Blank) (hnamed : m.1.isSome)
    (hvalue : value fuel (writeAt spacing depth m.2 ++ tail) = (m.2, some tail))
    (htail : skipSpaces tail = ',' :: rest) :
    members (fuel + 1)
      (quote (m.1.getD "") ++ (':' :: (spacing.colon ++ (writeAt spacing depth m.2 ++ tail))))
        = (m :: (members fuel rest).1, (members fuel rest).2) := by
  obtain ⟨_ | name, d⟩ := m
  · cases hnamed
  · simp only [Option.getD_some, quote, List.cons_append, List.append_assoc, List.nil_append,
      members, skipSpaces_cons (show isSpace '"' = false from rfl), text_quoted,
      skipSpaces_cons (show isSpace ':' = false from rfl), value_append hspacing.colon, hvalue,
      htail]

end Member

/-- Members are read back one by one. Induction on those behind the first. -/
theorem members_writeMembers (hspacing : spacing.Blank) (htrail : Blank trail)
    {m : Option String × Document} {more : List (Option String × Document)}
    (hnamed : ∀ m' ∈ m :: more, m'.1.isSome) (h : ∀ m' ∈ m :: more, ReadsBack spacing m'.2)
    (depth fuel : Nat)
    (hfuel : 2 * ((writeAt spacing depth m.2).length + (writeMembers spacing depth more).length) + 1
      < fuel) (rest : List Char) :
    members fuel (quote (m.1.getD "") ++ (':' :: (spacing.colon ++ (writeAt spacing depth m.2 ++
      (writeMembers spacing depth more ++ (trail ++ '}' :: rest)))))) = (m :: more, some rest) := by
  induction more generalizing m fuel with
  | nil =>
    obtain ⟨fuel, rfl⟩ : ∃ n, fuel = n + 1 := ⟨fuel - 1, by omega⟩
    have hvalue := h m List.mem_cons_self depth fuel _ (by omega)
      (endsNumber_writeMembers spacing htrail depth [] rest)
    refine members_last hspacing (hnamed m List.mem_cons_self) hvalue ?_
    rw [writeMembers, List.nil_append, skipSpaces_append htrail, skipSpaces_cons rfl]
  | cons next more ih =>
    obtain ⟨fuel, rfl⟩ : ∃ n, fuel = n + 1 := ⟨fuel - 1, by omega⟩
    have hvalue := h m List.mem_cons_self depth fuel _ (by omega)
      (endsNumber_writeMembers spacing htrail depth (next :: more) rest)
    -- The next member is behind the comma and the spacing.
    have htail : skipSpaces (writeMembers spacing depth (next :: more) ++ (trail ++ '}' :: rest))
        = ',' :: (spacing.line depth ++ (quote (next.1.getD "") ++ (':' :: (spacing.colon ++
          (writeAt spacing depth next.2 ++
            (writeMembers spacing depth more ++ (trail ++ '}' :: rest))))))) := by
      simp only [writeMembers, List.append_assoc, List.cons_append,
        skipSpaces_cons (show isSpace ',' = false from rfl)]
    simp only [writeMembers, List.length_append, List.length_cons] at hfuel
    have hmore := ih (fun m' hm' => hnamed m' (List.mem_cons_of_mem _ hm'))
      (fun m' hm' => h m' (List.mem_cons_of_mem _ hm')) fuel (by omega)
    rw [members_comma hspacing (hnamed m List.mem_cons_self) hvalue htail,
      members_append (hspacing.line depth), hmore]

/-- An object is read back if what its members hold is. -/
theorem readsBack_object (hspacing : spacing.Blank) {ms : List (Option String × Document)}
    (hnamed : ∀ m ∈ ms, m.1.isSome) (h : ∀ m ∈ ms, ReadsBack spacing m.2) :
    ReadsBack spacing (.object ms) := by
  refine readsBack_of_value fun depth fuel rest hfuel hends => ?_
  cases ms with
  | nil => rfl
  | cons m more =>
    simp only [writeAt, List.length_append, List.length_cons] at hfuel
    have hmembers := members_writeMembers hspacing (hspacing.line depth) hnamed h (depth + 1) fuel
      (by omega) rest
    -- Here it is the quote of the first name that starts.
    have hquote (s : String) : quote s = '"' :: (s.toList.flatMap escape ++ ['"']) := rfl
    rw [hquote, List.cons_append] at hmembers
    simp only [writeAt, List.cons_append, List.append_assoc, List.nil_append]
    refine value_object ?_ (by decide) hmembers
    rw [skipSpaces_append (hspacing.line (depth + 1)), hquote, List.cons_append,
      skipSpaces_cons rfl]

/-! ### All trees -/

/-- What can be written is read back. Induction on how it can be written. -/
theorem Writable.readsBack (hspacing : spacing.Blank) {d : Document} (h : Writable d) :
    ReadsBack spacing d := by
  induction h with
  | null => exact readsBack_of_value fun _ _ _ _ _ => rfl
  | bool b =>
    cases b with
    | true => exact readsBack_of_value fun _ _ _ _ _ => rfl
    | false => exact readsBack_of_value fun _ _ _ _ _ => rfl
  | number h =>
    exact readsBack_of_value fun _ fuel rest _ hends => value_of_number? (h rest hends) fuel
  | text s =>
    refine readsBack_of_value fun _ _ _ _ _ => ?_
    simp only [writeAt, quote, List.cons_append, List.append_assoc, List.nil_append, value,
      skipSpaces_cons (show isSpace '"' = false from rfl), text_quoted]
  | list h ih => exact readsBack_list hspacing h ih
  | object named h ih => exact readsBack_object hspacing named ih

/-- **What is written is read back.** The JSON text of a tree is read as that tree, to its end. -/
theorem read_writeAt (hspacing : spacing.Blank) {d : Document} (h : Writable d) :
    read (writeAt spacing 0 d) = (d, true) := by
  have hends : EndsNumber [] := fun _ hc => nomatch hc
  have hvalue := h.readsBack hspacing 0 (2 * (writeAt spacing 0 d).length + 2) [] (by omega) hends
  rw [List.append_nil] at hvalue
  rw [read, hvalue]
  rfl

/-- No two trees have one text. -/
theorem Writable.eq_of_write_eq (hspacing : spacing.Blank) {d d' : Document} (h : Writable d)
    (h' : Writable d') (heq : write spacing d = write spacing d') : d = d' := by
  have hread := read_writeAt hspacing h
  rw [String.ofList_injective heq, read_writeAt hspacing h'] at hread
  exact (Prod.mk.inj hread).1.symm

end InventoryProbe.Json
