/-!
# Timestamps

Moments of universal time: a day of the Gregorian calendar, carried on before its introduction and
before the year one, and a time of the day down to nanoseconds. The second after `23:59:59` that is
inserted now and then is told by nanoseconds from `10⁹` on in the second before it.
-/

namespace InventoryProbe

/-! ## Days -/

/-- Whether a year has a twenty-ninth of February. -/
def isLeapYear (year : Int) : Bool := year % 4 == 0 && (year % 100 != 0 || year % 400 == 0)

/-- The number of days of a month. -/
def daysInMonth (year : Int) (month : Nat) : Nat :=
  match month with
  | 2 => if isLeapYear year then 29 else 28
  | 4 | 6 | 9 | 11 => 30
  | _ => 31

/-- A day of the calendar. -/
structure Date where
  year : Int
  month : Nat
  day : Nat
  year_mem : -262143 ≤ year ∧ year ≤ 262142
  month_mem : 1 ≤ month ∧ month ≤ 12
  day_mem : 1 ≤ day ∧ day ≤ daysInMonth year month
  deriving DecidableEq

namespace Date

/-- The day with the given year, month and day of the month, if there is one. -/
def of? (year : Int) (month day : Nat) : Option Date :=
  if hy : -262143 ≤ year ∧ year ≤ 262142 then
    if hm : 1 ≤ month ∧ month ≤ 12 then
      if hd : 1 ≤ day ∧ day ≤ daysInMonth year month then some ⟨year, month, day, hy, hm, hd⟩
      else none
    else none
  else none

/-- The day after. -/
def next? (d : Date) : Option Date :=
  if d.day < daysInMonth d.year d.month then of? d.year d.month (d.day + 1)
  else if d.month < 12 then of? d.year (d.month + 1) 1
  else of? (d.year + 1) 1 1

/-- The day before. -/
def previous? (d : Date) : Option Date :=
  if 1 < d.day then of? d.year d.month (d.day - 1)
  else if 1 < d.month then of? d.year (d.month - 1) (daysInMonth d.year (d.month - 1))
  else of? (d.year - 1) 12 31

/-- The days of a year before its month. -/
def daysBeforeMonth (year : Int) (month : Nat) : Nat :=
  (List.range (month - 1)).foldl (fun days m => days + daysInMonth year (m + 1)) 0

/-- The number of days up to this one, counted from the first day of the year one. -/
def number (d : Date) : Int :=
  let past := d.year - 1
  365 * past + past / 4 - past / 100 + past / 400 + daysBeforeMonth d.year d.month + d.day

end Date

/-! ## Moments -/

/-- A moment of universal time: a day, a second of that day, and nanoseconds, which run on beyond
`10⁹` while an inserted second lasts. -/
structure Timestamp where
  date : Date
  second : Nat
  nanosecond : Nat
  second_lt : second < 86400
  nanosecond_lt : nanosecond < 2000000000
  inserted : 1000000000 ≤ nanosecond → second % 60 = 59
  deriving DecidableEq

namespace Timestamp

/-- The moment with the given day, second and nanosecond, if there is one. -/
def of? (date : Date) (second nanosecond : Nat) : Option Timestamp :=
  if hs : second < 86400 then
    if hn : nanosecond < 2000000000 then
      if hi : 1000000000 ≤ nanosecond → second % 60 = 59 then
        some ⟨date, second, nanosecond, hs, hn, hi⟩
      else none
    else none
  else none

/-- The place of the moment in the order of moments. -/
def place (t : Timestamp) : Int := (t.date.number * 86400 + t.second) * 2000000000 + t.nanosecond

instance : LE Timestamp := ⟨fun a b => a.place ≤ b.place⟩

instance : DecidableLE Timestamp := fun a b => inferInstanceAs (Decidable (a.place ≤ b.place))

instance : LT Timestamp := ⟨fun a b => a.place < b.place⟩

instance : DecidableLT Timestamp := fun a b => inferInstanceAs (Decidable (a.place < b.place))

/-- Whether an inserted second is under way. -/
def isInserted (t : Timestamp) : Bool := 1000000000 ≤ t.nanosecond

/-- The seconds between two times of the day, inserted seconds not counted within the two seconds
themselves: one that is under way at the lower of the two has passed at the higher. -/
def secondsApart (later earlier : Timestamp) : Int :=
  let apart : Int := later.second - earlier.second
  if earlier.second < later.second then apart + (if earlier.isInserted then 1 else 0)
  else if later.second < earlier.second then apart - (if later.isInserted then 1 else 0)
  else apart

/-- The nanoseconds from one moment to another; negative when the other comes first. -/
def nanosecondsSince (later earlier : Timestamp) : Int :=
  ((later.date.number - earlier.date.number) * 86400 + secondsApart later earlier) * 1000000000
    + (later.nanosecond - earlier.nanosecond)

/-- The whole seconds that have passed at one moment since another; none when the other is yet to
come. -/
def secondsSince (later earlier : Timestamp) : Nat :=
  (nanosecondsSince later earlier / 1000000000).toNat

end Timestamp

end InventoryProbe
