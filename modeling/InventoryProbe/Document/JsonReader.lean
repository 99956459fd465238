import InventoryProbe.Document.Basic
import InventoryProbe.Text.Ascii

/-!
# Reading JSON

The tree of a JSON text. `Json.read` never fails: a text that is not JSON has a tree that ends in
`broken`, or is followed by more than blanks.
-/

namespace InventoryProbe.Json

open Text (isDigit isHexDigit numberOf)

/-- Whether a character may stand between the tokens. -/
def isSpace (c : Char) : Bool := c = ' ' || c = '\t' || c = '\n' || c = '\r'

/-- The text from the next token on. -/
def skipSpaces (cs : List Char) : List Char := cs.dropWhile isSpace

/-! ## Texts -/

/-- The character that stands for itself or is named behind a backslash, or one unit of sixteen
bits that is not a character on its own. -/
inductive Unit16 where
  | char (c : Char)
  | half (value : Nat)

/-- The unit that four hexadecimal digits name. -/
def Unit16.ofNat (n : Nat) : Unit16 :=
  if 0xD800 ≤ n ∧ n ≤ 0xDFFF then .half n else .char (Char.ofNat n)

/-- The character that a letter behind a backslash names. -/
def escaped? : Char → Option Char
  | '"' => some '"'
  | '\\' => some '\\'
  | '/' => some '/'
  | 'b' => some '\x08'
  | 'f' => some '\x0c'
  | 'n' => some '\n'
  | 'r' => some '\r'
  | 't' => some '\t'
  | _ => none

/-- One more unit in front of the units of a text. -/
def pushUnit (u : Unit16) : Option (List Unit16 × List Char) → Option (List Unit16 × List Char)
  | some (us, rest) => some (u :: us, rest)
  | none => none

/-- The units of a text up to its closing quote, and what follows the quote. -/
def units : List Char → Option (List Unit16 × List Char)
  | [] => none
  | '"' :: rest => some ([], rest)
  | '\\' :: 'u' :: a :: b :: c :: d :: rest =>
    if [a, b, c, d].all isHexDigit then pushUnit (.ofNat (numberOf 16 [a, b, c, d])) (units rest)
    else none
  | '\\' :: e :: rest =>
    match escaped? e with
    | some c => pushUnit (.char c) (units rest)
    | none => none
  | c :: rest => if c < ' ' || c = '\\' then none else pushUnit (.char c) (units rest)

/-- The characters of a text, if every half has its other half beside it. -/
def characters : List Unit16 → Option (List Char)
  | [] => some []
  | .char c :: rest => (characters rest).map (c :: ·)
  | .half high :: .half low :: rest =>
    if high < 0xDC00 ∧ 0xDC00 ≤ low then
      let c := Char.ofNat (0x10000 + (high - 0xD800) * 0x400 + (low - 0xDC00))
      (characters rest).map (c :: ·)
    else none
  | .half _ :: _ => none

/-- A text behind its opening quote: what it denotes, if anything, and what follows it. -/
def text (cs : List Char) : Option (Option String × List Char) :=
  match units cs with
  | some (us, rest) => some ((characters us).map String.ofList, rest)
  | none => none

/-! ## Numbers -/

/-- The digits in front, and what follows them. -/
def digits (cs : List Char) : List Char × List Char := cs.span isDigit

/-- The digits behind a point, if there is one; a point without digits is refused. -/
def fraction? (cs : List Char) : Option (List Char × List Char) :=
  match cs with
  | '.' :: rest =>
    if (digits rest).1.isEmpty then none else some ('.' :: (digits rest).1, (digits rest).2)
  | _ => some ([], cs)

/-- The exponent, if there is one; an exponent without digits is refused. -/
def exponent? (cs : List Char) : Option (List Char × List Char) :=
  match cs with
  | e :: rest =>
    if e = 'e' || e = 'E' then
      let (sign, rest) := match rest with
        | '+' :: r => (['+'], r)
        | '-' :: r => (['-'], r)
        | r => ([], r)
      if (digits rest).1.isEmpty then none
      else some (e :: sign ++ (digits rest).1, (digits rest).2)
    else some ([], cs)
  | [] => some ([], [])

/-- A number without its sign: no zero stands in front of another digit. -/
def magnitude? (cs : List Char) : Option (List Char × List Char) :=
  let (whole, rest) := digits cs
  match whole with
  | [] => none
  | '0' :: _ :: _ => none
  | _ => do
    let (fraction, rest) ← fraction? rest
    let (exponent, rest) ← exponent? rest
    return (whole ++ fraction ++ exponent, rest)

/-- A number, as it is written. -/
def number? (cs : List Char) : Option (String × List Char) :=
  match cs with
  | '-' :: rest =>
    (magnitude? rest).map fun (literal, rest) => (String.ofList ('-' :: literal), rest)
  | _ => (magnitude? cs).map fun (literal, rest) => (String.ofList literal, rest)

/-! ## Values -/

mutual

/-- The value that starts here, and what follows it: `none` if the text is broken within it. -/
def value (fuel : Nat) (cs : List Char) : Document × Option (List Char) :=
  match fuel with
  | 0 => (.broken, none)
  | fuel + 1 =>
    match skipSpaces cs with
    | 'n' :: 'u' :: 'l' :: 'l' :: rest => (.null, some rest)
    | 't' :: 'r' :: 'u' :: 'e' :: rest => (.bool true, some rest)
    | 'f' :: 'a' :: 'l' :: 's' :: 'e' :: rest => (.bool false, some rest)
    | '"' :: rest =>
      match text rest with
      | some (some s, rest) => (.text s, some rest)
      -- A half without its other half: the tree goes on, for nobody may want this text.
      | some (none, rest) => (.unreadable, some rest)
      | none => (.broken, none)
    | '[' :: rest =>
      match skipSpaces rest with
      | ']' :: rest => (.list [], some rest)
      | rest =>
        match items fuel rest with
        | (found, rest) => (.list found, rest)
    | '{' :: rest =>
      match skipSpaces rest with
      | '}' :: rest => (.object [], some rest)
      | rest =>
        match members fuel rest with
        | (found, rest) => (.object found, rest)
    | cs =>
      match number? cs with
      | some (literal, rest) => (.number literal, some rest)
      | none => (.broken, none)

/-- The items of a list from the next item on, and what follows the list. -/
def items (fuel : Nat) (cs : List Char) : List Document × Option (List Char) :=
  match fuel with
  | 0 => ([.broken], none)
  | fuel + 1 =>
    match value fuel cs with
    | (item, none) => ([item], none)
    | (item, some rest) =>
      match skipSpaces rest with
      | ',' :: rest =>
        match items fuel rest with
        | (found, rest) => (item :: found, rest)
      | ']' :: rest => ([item], some rest)
      | _ => ([item, .broken], none)

/-- The members of an object from the next member on, and what follows the object. -/
def members (fuel : Nat) (cs : List Char) :
    List (Option String × Document) × Option (List Char) :=
  match fuel with
  | 0 => ([(none, .broken)], none)
  | fuel + 1 =>
    match skipSpaces cs with
    | '"' :: rest =>
      match text rest with
      | none => ([(none, .broken)], none)
      -- The name is kept even where its value is broken: it may be at fault itself.
      | some (name, rest) =>
        match skipSpaces rest with
        | ':' :: rest =>
          match value fuel rest with
          | (item, none) => ([(name, item)], none)
          | (item, some rest) =>
            match skipSpaces rest with
            | ',' :: rest =>
              match members fuel rest with
              | (found, rest) => ((name, item) :: found, rest)
            | '}' :: rest => ([(name, item)], some rest)
            | _ => ([(name, item), (none, .broken)], none)
        | _ => ([(name, .broken)], none)
    | _ => ([(none, .broken)], none)

end

/-- The tree of a text, and whether nothing but blanks follows it. No value takes more steps than
twice its characters. -/
def read (cs : List Char) : Document × Bool :=
  match value (2 * cs.length + 2) cs with
  | (document, some rest) => (document, (skipSpaces rest).isEmpty)
  | (document, none) => (document, false)

end InventoryProbe.Json
