import InventoryProbe.Timestamp.Basic
import InventoryProbe.Document.Codec
import InventoryProbe.Text.Ascii
import InventoryProbe.Text.Blank

/-!
# Timestamps as text

Moments are written `2026-03-01T12:00:00Z`, with as many groups of three fraction digits as are
needed. Reading is more lenient: fields may have fewer digits, blanks may stand around them, and
the time may be that of another zone.
-/

namespace InventoryProbe.Timestamp

open Text (isDigit isBlank trimStart numberOf asciiLower padded)

/-! ## Writing -/

/-- A year: four digits, and a sign where these do not suffice. -/
def yearText (year : Int) : List Char :=
  if 0 ≤ year ∧ year ≤ 9999 then padded 4 year.toNat
  else if 0 ≤ year then '+' :: padded 4 year.toNat
  else '-' :: padded 4 (-year).toNat

/-- A fraction of a second with as few groups of three digits as write it. -/
def fractionText (nanosecond : Nat) : List Char :=
  if nanosecond = 0 then []
  else if nanosecond % 1000000 = 0 then '.' :: padded 3 (nanosecond / 1000000)
  else if nanosecond % 1000 = 0 then '.' :: padded 6 (nanosecond / 1000)
  else '.' :: padded 9 nanosecond

/-- The text of a moment; an inserted second is the sixtieth. -/
def text (t : Timestamp) : String :=
  let second := t.second % 60 + if t.isInserted then 1 else 0
  String.ofList <|
    yearText t.date.year ++ '-' :: padded 2 t.date.month ++ '-' :: padded 2 t.date.day ++
    'T' :: padded 2 (t.second / 3600) ++ ':' :: padded 2 (t.second / 60 % 60) ++
    ':' :: padded 2 second ++ fractionText (t.nanosecond % 1000000000) ++ ['Z']

/-! ## Reading -/

/-- A number of at most `width` digits, behind any blanks, and what follows it. -/
def number? (width : Nat) (cs : List Char) : Option (Nat × List Char) :=
  let cs := trimStart cs
  let ds := (cs.takeWhile isDigit).take width
  if ds.isEmpty then none else some (numberOf 10 ds, cs.drop ds.length)

/-- A number of any length right behind a sign, and what follows it. -/
def signed? (cs : List Char) : Option (Nat × List Char) :=
  if (cs.takeWhile isDigit).isEmpty then none else number? cs.length cs

/-- A year: up to four digits, or a sign and any number of digits. -/
def year? (cs : List Char) : Option (Int × List Char) :=
  match trimStart cs with
  | '-' :: rest => (signed? rest).map fun (n, r) => (-(n : Int), r)
  | '+' :: rest => (signed? rest).map fun (n, r) => ((n : Int), r)
  | rest => (number? 4 rest).map fun (n, r) => ((n : Int), r)

/-- What follows a separator that blanks may stand in front of. -/
def separator? (c : Char) (cs : List Char) : Option (List Char) :=
  match trimStart cs with
  | d :: rest => if d = c then some rest else none
  | [] => none

/-- The nanoseconds of a fraction, if there is one; digits after the ninth do not count. -/
def fraction? (cs : List Char) : Option (Nat × List Char) :=
  match cs with
  | '.' :: rest =>
    let ds := rest.takeWhile isDigit
    if ds.isEmpty then none
    else
      let kept := ds.take 9
      some (numberOf 10 kept * Nat.pow 10 (9 - kept.length), rest.dropWhile isDigit)
  | _ => some (0, cs)

/-- Two digits, the first of them at most `most`. -/
def twoDigits? (most : Char) (cs : List Char) : Option (Nat × List Char) :=
  match cs with
  | a :: b :: rest =>
    if isDigit a && a ≤ most && isDigit b then some (numberOf 10 [a, b], rest) else none
  | _ => none

/-- The minutes of an offset from universal time, less than a day, with any colons and blanks
between its hours and minutes. -/
def offset? (cs : List Char) : Option (Nat × List Char) := do
  let (hours, rest) ← twoDigits? '9' cs
  let (minutes, rest) ← twoDigits? '5' (rest.dropWhile fun c => c = ':' || isBlank c)
  if hours < 24 then some (hours * 60 + minutes, rest) else none

/-- A zone as its offset from universal time, in minutes. -/
def zone? (cs : List Char) : Option (Int × List Char) :=
  match trimStart cs with
  | '+' :: rest => (offset? rest).map fun (m, r) => ((m : Int), r)
  | '-' :: rest => (offset? rest).map fun (m, r) => (-(m : Int), r)
  | '−' :: rest => (offset? rest).map fun (m, r) => (-(m : Int), r)
  | c :: rest =>
    if asciiLower c = 'z' then some (0, rest)
    else if ((c :: rest).take 3).map asciiLower = ['u', 't', 'c'] then some (0, rest.drop 2)
    else none
  | [] => none

/-- The moment at which a clock that is ahead of universal time by `offset` minutes shows the given
day and time of day. -/
def ofLocal? (date : Date) (second nanosecond : Nat) (offset : Int) : Option Timestamp :=
  let universal : Int := second - offset * 60
  if universal < 0 then do of? (← date.previous?) (universal + 86400).toNat nanosecond
  else if universal < 86400 then of? date universal.toNat nanosecond
  else do of? (← date.next?) (universal - 86400).toNat nanosecond

/-- The moment that a text denotes. -/
def parse? (s : String) : Option Timestamp := do
  let (year, rest) ← year? s.toList
  let (month, rest) ← number? 2 (← separator? '-' rest)
  let (day, rest) ← number? 2 (← separator? '-' rest)
  let date ← Date.of? year month day
  let rest ← match rest with
    | c :: rest => if c = 'T' ∨ c = 't' ∨ c = ' ' then some rest else none
    | [] => none
  let (hour, rest) ← number? 2 rest
  let (minute, rest) ← number? 2 (← separator? ':' rest)
  let (second, rest) ← number? 2 (← separator? ':' rest)
  let (fraction, rest) ← fraction? rest
  let (offset, rest) ← zone? rest
  if hour < 24 ∧ minute < 60 ∧ second ≤ 60 ∧ (trimStart rest).isEmpty then
    let inDay := hour * 3600 + minute * 60
    -- An inserted second prolongs the second in front of it.
    if second = 60 then ofLocal? date (inDay + 59) (1000000000 + fraction) offset
    else ofLocal? date (inDay + second) fraction offset
  else none

def codec : Codec Timestamp :=
  .spelled (fun s => match parse? s with
    | some t => .ok t
    | none => .error .malformed) text

end InventoryProbe.Timestamp
