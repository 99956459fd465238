import InventoryProbe.Text.Ascii
import InventoryProbe.Timestamp.Basic

/-!
# Dates and times of TOML

What a date or a time looks like in a settings file. Nothing is set by one, so its value is of no
interest: a reader here only finds where it ends, and refuses days and times that do not exist.
-/

namespace InventoryProbe.Toml

open Text (isDigit numberOf)

/-- What follows two digits that write a number in the given range. -/
def skipTwoDigits? (least most : Nat) : List Char → Option (Nat × List Char)
  | a :: b :: rest =>
    let n := numberOf 10 [a, b]
    if isDigit a && isDigit b && least ≤ n && n ≤ most then some (n, rest) else none
  | _ => none

/-- What follows a character that has to come next. -/
def skipChar? (c : Char) : List Char → Option (List Char)
  | d :: rest => if d = c then some rest else none
  | [] => none

/-- What follows a day of the calendar, with its year in four digits. -/
def skipDate? (cs : List Char) : Option (List Char) := do
  let (year, rest) := cs.splitAt 4
  if year.length = 4 ∧ year.all isDigit then
    let (month, rest) ← skipTwoDigits? 1 12 (← skipChar? '-' rest)
    let (_, rest) ← skipTwoDigits? 1 (daysInMonth (numberOf 10 year) month) (← skipChar? '-' rest)
    return rest
  else none

/-- What follows a time of the day, which may be an inserted second and may have a fraction. -/
def skipTime? (cs : List Char) : Option (List Char) := do
  let (_, rest) ← skipTwoDigits? 0 23 cs
  let (_, rest) ← skipTwoDigits? 0 59 (← skipChar? ':' rest)
  let (_, rest) ← skipTwoDigits? 0 60 (← skipChar? ':' rest)
  match rest with
  | '.' :: d :: rest => if isDigit d then return rest.dropWhile isDigit else return '.' :: d :: rest
  | rest => return rest

/-- What follows the zone of a time, if it has one. -/
def skipZone (cs : List Char) : List Char :=
  let numeric (rest : List Char) : Option (List Char) := do
    let (_, rest) ← skipTwoDigits? 0 23 rest
    let (_, rest) ← skipTwoDigits? 0 59 (← skipChar? ':' rest)
    return rest
  match cs with
  | 'Z' :: rest | 'z' :: rest => rest
  | '+' :: rest | '-' :: rest => (numeric rest).getD cs
  | cs => cs

/-- What follows the time that goes with a date, if there is one. -/
def skipTimeOfDate (cs : List Char) : List Char :=
  match cs with
  | c :: rest =>
    if c = 'T' || c = 't' || c = ' ' then ((skipTime? rest).map skipZone).getD cs else cs
  | [] => []

/-- What follows a date, a date with a time, or a time. -/
def skipDateTime? (cs : List Char) : Option (List Char) :=
  (skipDate? cs).map skipTimeOfDate <|> skipTime? cs

end InventoryProbe.Toml
