import InventoryProbe.Timestamp.Text
import InventoryProbe.Proofs.Document.Codec

/-!
# Timestamps are read as they are written

A moment is written field by field, each as wide as its reader expects at most, with separators that
no number goes on with. So every field is read as it was written, and the fields make the moment
again: an inserted second, written as the sixtieth, is taken back into the second before it.
-/

namespace InventoryProbe

/-! ## Days -/

/-- No month has more than 31 days. -/
theorem daysInMonth_le (year : Int) (month : Nat) : daysInMonth year month ≤ 31 := by
  unfold daysInMonth
  split
  · split <;> decide
  all_goals decide

theorem Date.of?_eq (d : Date) : of? d.year d.month d.day = some d := by
  rw [of?, dif_pos d.year_mem, dif_pos d.month_mem, dif_pos d.day_mem]

namespace Timestamp

open Text (isDigit isBlank trimStart padded numberOf EndsDigits)

variable {rest : List Char}

/-! ## Fields -/

/-- A number is read off where its width ends. -/
theorem number?_padded (width n : Nat) (hwidth : 0 < width) (h : n < 10 ^ width)
    (rest : List Char) : number? width (padded width n ++ rest) = some (n, rest) := by
  have hlength := Text.length_padded hwidth h
  have hds : ((padded width n ++ rest).takeWhile isDigit).take width = padded width n := by
    rw [List.takeWhile_append_of_pos fun c hc => Text.isDigit_of_mem_padded hc,
      List.take_append_of_le_length (Nat.le_of_eq hlength.symm), List.take_of_length_le (by omega)]
  have hne : (padded width n).isEmpty = false := by simpa using Text.padded_ne_nil width n
  unfold number?
  rw [Text.trimStart_padded_append]
  simp only [hds, hne, Text.numberOf_padded, List.drop_left, Bool.false_eq_true, if_false]

/-- Behind a sign, a number is read off where its digits end. -/
theorem signed?_padded (width n : Nat) (hrest : EndsDigits rest) :
    signed? (padded width n ++ rest) = some (n, rest) := by
  have hdigits : ∀ c ∈ padded width n, isDigit c := fun c hc => Text.isDigit_of_mem_padded hc
  have htake := Text.takeWhile_isDigit_append hdigits hrest
  have hne : (padded width n).isEmpty = false := by simpa using Text.padded_ne_nil width n
  have hds : (padded width n).take (padded width n ++ rest).length = padded width n :=
    List.take_of_length_le (by simp)
  rw [signed?, htake, hne, number?, Text.trimStart_padded_append, htake]
  simp only [hds, hne, Text.numberOf_padded, List.drop_left, Bool.false_eq_true, if_false]

/-- Without a sign, a year has four digits at most. -/
theorem year?_of_digit {c : Char} {cs : List Char} (h : isDigit c) :
    year? (c :: cs) = (number? 4 (c :: cs)).map fun (n, r) => ((n : Int), r) := by
  rw [year?, Text.trimStart_cons (Text.isBlank_of_isDigit h)]
  split
  · next heq => cases heq; exact absurd h (by decide)
  · next heq => cases heq; exact absurd h (by decide)
  · rfl

/-- A year is read from what is written for it. -/
theorem year?_yearText (year : Int) (hrest : EndsDigits rest) :
    year? (yearText year ++ rest) = some (year, rest) := by
  unfold yearText
  split
  · next h =>
    have hnumber := number?_padded 4 year.toNat (by decide) (by omega) rest
    obtain ⟨c, more, heq, hdigit⟩ := Text.exists_padded_eq_cons 4 year.toNat
    rw [heq, List.cons_append] at hnumber ⊢
    rw [year?_of_digit hdigit, hnumber]
    simp only [Option.map_some, Int.toNat_of_nonneg h.1]
  split
  · next hpos =>
    -- Behind a sign there may be five digits, or six.
    have hsigned := signed?_padded 4 year.toNat hrest
    rw [List.cons_append, year?, Text.trimStart_cons rfl]
    simp only [hsigned, Option.map_some, Int.toNat_of_nonneg hpos]
  · next hneg =>
    have hsigned := signed?_padded 4 (-year).toNat hrest
    have hyear : -((-year).toNat : Int) = year := by omega
    rw [List.cons_append, year?, Text.trimStart_cons rfl]
    simp only [hsigned, Option.map_some, hyear]

/-- A separator that is there is passed over. -/
theorem separator?_cons {c : Char} (hc : isBlank c = false) (rest : List Char) :
    separator? c (c :: rest) = some rest := by
  rw [separator?, Text.trimStart_cons hc]
  simp

/-- Digits behind a point are read in units of the ninth. -/
theorem fraction?_padded {width n : Nat} (hwidth : 0 < width) (hnine : width ≤ 9)
    (h : n < 10 ^ width) (hrest : EndsDigits rest) :
    fraction? ('.' :: (padded width n ++ rest)) = some (n * 10 ^ (9 - width), rest) := by
  have hlength := Text.length_padded hwidth h
  have hdigits : ∀ c ∈ padded width n, isDigit c := fun c hc => Text.isDigit_of_mem_padded hc
  have hne : (padded width n).isEmpty = false := by simpa using Text.padded_ne_nil width n
  have hkept : (padded width n).take 9 = padded width n := List.take_of_length_le (by omega)
  simp only [fraction?, Text.takeWhile_isDigit_append hdigits hrest,
    Text.dropWhile_isDigit_append hdigits hrest, hne, hkept, Text.numberOf_padded, hlength,
    Bool.false_eq_true, if_false]
  rfl

/-- A fraction of a second is read from what is written for it, also where none is written. -/
theorem fraction?_fractionText {n : Nat} (h : n < 10 ^ 9) (hrest : EndsDigits rest)
    (hpoint : ∀ c ∈ rest.head?, c ≠ '.') : fraction? (fractionText n ++ rest) = some (n, rest) := by
  unfold fractionText
  split
  · next hzero =>
    -- Nothing is written, and what follows is not taken for a fraction.
    rw [hzero, List.nil_append]
    unfold fraction?
    split
    · exact absurd rfl (hpoint '.' rfl)
    · rfl
  split
  · next hmilli =>
    rw [List.cons_append, fraction?_padded (by decide) (by decide) (by omega) hrest]
    congr
    omega
  split
  · next hmicro =>
    rw [List.cons_append, fraction?_padded (by decide) (by decide) (by omega) hrest]
    congr
    omega
  · rw [List.cons_append, fraction?_padded (by decide) (by decide) h hrest, Nat.sub_self,
      Nat.pow_zero, Nat.mul_one]

/-! ## Moments -/

theorem of?_eq (t : Timestamp) : of? t.date t.second t.nanosecond = some t := by
  rw [of?, dif_pos t.second_lt, dif_pos t.nanosecond_lt, dif_pos t.inserted]

/-- At no distance from Greenwich the clock shows the moment itself. -/
theorem ofLocal?_zero (date : Date) {second : Nat} (h : second < 86400) (nanosecond : Nat) :
    ofLocal? date second nanosecond 0 = of? date second nanosecond := by
  unfold ofLocal?
  simp only [Int.zero_mul, Int.sub_zero]
  rw [if_neg (by omega), if_pos (by omega), Int.toNat_natCast]

-- In the form in which `do` writes it.
theorem some_bind {α β : Type} (a : α) (f : α → Option β) : some a >>= f = f a := rfl

/-- What is written for the fields of a moment is read as the moment that they make. -/
theorem parse?_fields (d : Date) (hour minute second fraction : Nat) (hhour : hour < 24)
    (hminute : minute < 60) (hsecond : second ≤ 60) (hfraction : fraction < 10 ^ 9) :
    parse? (String.ofList (yearText d.year ++ '-' :: padded 2 d.month ++ '-' :: padded 2 d.day ++
      'T' :: padded 2 hour ++ ':' :: padded 2 minute ++ ':' :: padded 2 second ++
      fractionText fraction ++ ['Z'])) =
      if second = 60 then of? d (hour * 3600 + minute * 60 + 59) (1000000000 + fraction)
      else of? d (hour * 3600 + minute * 60 + second) fraction := by
  -- All fields but the year fit two digits.
  have hmonth := d.month_mem.2
  have hday := Nat.le_trans d.day_mem.2 (daysInMonth_le d.year d.month)
  have hfractionText : fraction? (fractionText fraction ++ ['Z']) = some (fraction, ['Z']) :=
    fraction?_fractionText hfraction (Text.endsDigits_cons rfl []) (by rintro _ ⟨⟩; decide)
  have hzone : zone? ['Z'] = some (0, []) := by decide
  simp only [parse?, String.toList_ofList, List.append_assoc, List.cons_append,
    year?_yearText d.year (Text.endsDigits_cons (show isDigit '-' = false from rfl) _),
    separator?_cons (show isBlank '-' = false from rfl),
    separator?_cons (show isBlank ':' = false from rfl),
    number?_padded 2 d.month (by decide) (by omega), number?_padded 2 d.day (by decide) (by omega),
    number?_padded 2 hour (by decide) (by omega), number?_padded 2 minute (by decide) (by omega),
    number?_padded 2 second (by decide) (by omega), Date.of?_eq, hfractionText, hzone, some_bind]
  rw [if_pos (.inl trivial), if_pos ⟨hhour, hminute, hsecond, rfl⟩]
  split
  · rw [ofLocal?_zero d (by omega)]
  · rw [ofLocal?_zero d (by omega)]

/-- **Timestamps are read as they are written.** -/
theorem parse?_text (t : Timestamp) : parse? t.text = some t := by
  have hsecond := t.second_lt
  have hnanosecond := t.nanosecond_lt
  have hinserted := t.inserted
  have hfields := parse?_fields t.date (t.second / 3600) (t.second / 60 % 60)
    (t.second % 60 + if t.isInserted then 1 else 0) (t.nanosecond % 1000000000)
    (by omega) (by omega) (by split <;> omega) (by omega)
  refine hfields.trans ?_
  by_cases h : t.isInserted
  · -- The second before the inserted one is the last of its minute.
    have hnano : 1000000000 ≤ t.nanosecond := of_decide_eq_true h
    have hlast := hinserted hnano
    have hsame : t.second / 3600 * 3600 + t.second / 60 % 60 * 60 + 59 = t.second := by omega
    have hnanoSame : 1000000000 + t.nanosecond % 1000000000 = t.nanosecond := by omega
    rw [if_pos h, if_pos (by omega), hsame, hnanoSame, of?_eq]
  · have hnano : ¬ 1000000000 ≤ t.nanosecond := fun hle => h (decide_eq_true hle)
    have hsame : t.second / 3600 * 3600 + t.second / 60 % 60 * 60 + (t.second % 60 + 0)
        = t.second := by omega
    have hnanoSame : t.nanosecond % 1000000000 = t.nanosecond := Nat.mod_eq_of_lt (by omega)
    rw [if_neg h, if_neg (by omega), hsame, hnanoSame, of?_eq]

/-- A moment is read from what is written for it. -/
@[simp] theorem faithful_codec : codec.Faithful := by
  apply Codec.faithful_spelled
  intro t
  rw [parse?_text]

@[simp] theorem faithful_optional : codec.optional.Faithful :=
  faithful_codec.optional fun _ => nofun

end Timestamp

end InventoryProbe
