import InventoryProbe.Binary64.Decimal
import InventoryProbe.Document.Basic

/-!
# Texts and numbers of TOML

The single values of a settings file: four kinds of text, whole numbers to four bases, and numbers
with a fraction or an exponent. Each reader returns what follows the value, and nothing if there is
no such value.
-/

namespace InventoryProbe.Toml

open Text (isDigit isHexDigit numberOf digitValue)

/-! ## Blanks and lines -/

/-- Whether a character is a blank within a line. -/
def isBlank (c : Char) : Bool := c = ' ' || c = '\t'

/-- The text without the blanks in front. -/
def skipBlanks (cs : List Char) : List Char := cs.dropWhile isBlank

/-- Whether a character may stand in a comment or a text: no control character but the tab. -/
def isPlain (c : Char) : Bool := c = '\t' || (' ' ≤ c && c != '\x7f')

/-- What follows a line break. -/
def lineBreak? : List Char → Option (List Char)
  | '\n' :: rest => some rest
  | '\r' :: '\n' :: rest => some rest
  | _ => none

/-- What follows the rest of a line that holds nothing more but blanks and a comment. -/
def lineEnd? (cs : List Char) : Option (List Char) :=
  let rest := match skipBlanks cs with
    | '#' :: rest => rest.dropWhile isPlain
    | rest => rest
  match rest with
  | [] => some []
  | rest => lineBreak? rest

/-- What follows any blanks, line breaks and comments. -/
def skipLines (inComment : Bool) : List Char → List Char
  | [] => []
  | '\n' :: rest => skipLines false rest
  | '\r' :: '\n' :: rest => skipLines false rest
  | c :: rest =>
    if inComment then if isPlain c then skipLines true rest else c :: rest
    else if isBlank c then skipLines false rest
    else if c = '#' then skipLines true rest
    else c :: rest

/-! ## Texts -/

/-- Characters read, and what follows them. -/
abbrev Read := Option (List Char × List Char)

/-- One more character in front. -/
def push (c : Char) : Read → Read
  | some (cs, rest) => some (c :: cs, rest)
  | none => none

/-- The character that hexadecimal digits name, if there is one with that number. -/
def named? (digits : List Char) : Option Char :=
  let n := numberOf 16 digits
  if digits.all isHexDigit && Nat.isValidChar n then some (Char.ofNat n) else none

/-- The character that a letter behind a backslash names. -/
def escaped? : Char → Option Char
  | 'b' => some '\x08'
  | 't' => some '\t'
  | 'n' => some '\n'
  | 'f' => some '\x0c'
  | 'r' => some '\r'
  | '"' => some '"'
  | '\\' => some '\\'
  | _ => none

/-- A text in double quotes, behind the opening quote. -/
def basic : List Char → Read
  | [] => none
  | '"' :: rest => some ([], rest)
  | '\\' :: 'u' :: a :: b :: c :: d :: rest =>
    match named? [a, b, c, d] with
    | some x => push x (basic rest)
    | none => none
  | '\\' :: 'U' :: a :: b :: c :: d :: e :: f :: g :: h :: rest =>
    match named? [a, b, c, d, e, f, g, h] with
    | some x => push x (basic rest)
    | none => none
  | '\\' :: e :: rest =>
    match escaped? e with
    | some x => push x (basic rest)
    | none => none
  | c :: rest => if isPlain c && c != '\\' then push c (basic rest) else none

/-- A text in single quotes, behind the opening quote. -/
def literal : List Char → Read
  | [] => none
  | '\'' :: rest => some ([], rest)
  | c :: rest => if isPlain c then push c (literal rest) else none

/-- A text of several lines in double quotes. Two more quotes may stand right before the closing
ones; behind a backslash at the end of a line, blanks and line breaks do not count. -/
def basicLines (trimming : Bool) : List Char → Read
  | [] => none
  | '"' :: '"' :: '"' :: '"' :: '"' :: rest => some (['"', '"'], rest)
  | '"' :: '"' :: '"' :: '"' :: rest => some (['"'], rest)
  | '"' :: '"' :: '"' :: rest => some ([], rest)
  | '\\' :: 'u' :: a :: b :: c :: d :: rest =>
    match named? [a, b, c, d] with
    | some x => push x (basicLines false rest)
    | none => none
  | '\\' :: 'U' :: a :: b :: c :: d :: e :: f :: g :: h :: rest =>
    match named? [a, b, c, d, e, f, g, h] with
    | some x => push x (basicLines false rest)
    | none => none
  | '\\' :: e :: rest =>
    match escaped? e with
    | some x => push x (basicLines false rest)
    | none =>
      if (lineBreak? (skipBlanks (e :: rest))).isSome then
        if e = '\r' || e = '\n' || isBlank e then basicLines true rest else none
      else none
  | '\r' :: '\n' :: rest =>
    if trimming then basicLines true rest else push '\n' (basicLines false rest)
  | '\n' :: rest => if trimming then basicLines true rest else push '\n' (basicLines false rest)
  | c :: rest =>
    if trimming && isBlank c then basicLines true rest
    else if isPlain c && c != '\\' then push c (basicLines false rest)
    else none

/-- A text of several lines in single quotes. -/
def literalLines : List Char → Read
  | [] => none
  | '\'' :: '\'' :: '\'' :: '\'' :: '\'' :: rest => some (['\'', '\''], rest)
  | '\'' :: '\'' :: '\'' :: '\'' :: rest => some (['\''], rest)
  | '\'' :: '\'' :: '\'' :: rest => some ([], rest)
  | '\r' :: '\n' :: rest => push '\n' (literalLines rest)
  | '\n' :: rest => push '\n' (literalLines rest)
  | c :: rest => if isPlain c then push c (literalLines rest) else none

/-- The text without a line break right behind its opening quotes. -/
def skipFirstBreak (cs : List Char) : List Char := (lineBreak? cs).getD cs

/-- A text of any kind. -/
def text? : List Char → Read
  | '"' :: '"' :: '"' :: rest => basicLines false (skipFirstBreak rest)
  | '"' :: rest => basic rest
  | '\'' :: '\'' :: '\'' :: rest => literalLines (skipFirstBreak rest)
  | '\'' :: rest => literal rest
  | _ => none

/-! ## Numbers -/

/-- The digits behind the first, in which an underscore may stand between two digits. -/
def moreDigits (isBaseDigit : Char → Bool) : List Char → List Char × List Char
  | '_' :: d :: rest =>
    if isBaseDigit d then
      let (ds, rest) := moreDigits isBaseDigit rest
      (d :: ds, rest)
    else ([], '_' :: d :: rest)
  | d :: rest =>
    if isBaseDigit d then
      let (ds, rest) := moreDigits isBaseDigit rest
      (d :: ds, rest)
    else ([], d :: rest)
  | [] => ([], [])

/-- Digits, at least one, without their underscores. -/
def digits? (isBaseDigit : Char → Bool) : List Char → Read
  | d :: rest =>
    if isBaseDigit d then
      let (ds, rest) := moreDigits isBaseDigit rest
      some (d :: ds, rest)
    else none
  | [] => none

/-- Decimal digits; a zero in front stands alone. -/
def decimal? : List Char → Read
  | '0' :: rest => some (['0'], rest)
  | cs => digits? isDigit cs

/-- A sign, if there is one. -/
def sign : List Char → List Char × List Char
  | '+' :: rest => ([], rest)
  | '-' :: rest => (['-'], rest)
  | rest => ([], rest)

/-- The exponent of a number, if there is one. -/
def exponent? (cs : List Char) : Read :=
  match cs with
  | e :: rest =>
    if e = 'e' || e = 'E' then do
      let (minus, rest) := sign rest
      let (ds, rest) ← digits? isDigit rest
      return ('e' :: minus ++ ds, rest)
    else some ([], cs)
  | [] => some ([], [])

/-- What follows a word. -/
def word? (word cs : List Char) : Option (List Char) :=
  if word.isPrefixOf cs then some (cs.drop word.length) else none

/-- A number with a fraction or an exponent; one beyond the range to the positive side is refused,
and one beyond it to the negative side is infinite. -/
def fractional? (cs : List Char) : Option (Document × List Char) := do
  let (minus, rest) := sign cs
  let (whole, rest) ← decimal? rest
  let (fraction, rest) ← match rest with
    | '.' :: rest => (digits? isDigit rest).map fun (ds, rest) => ('.' :: ds, rest)
    | rest => some ([], rest)
  let (exponent, rest) ← exponent? rest
  if fraction.isEmpty && exponent.isEmpty then none
  else
    let spelled := minus ++ whole ++ fraction ++ exponent
    match ← Binary64.parse? spelled with
    | .infinite false => none
    | .infinite true => return (.number "-inf", rest)
    | _ => return (.number (String.ofList spelled), rest)

/-- An infinity, or what is no number. -/
def special? (cs : List Char) : Option (Document × List Char) :=
  let (minus, rest) := sign cs
  match word? ['i', 'n', 'f'] rest with
  | some rest => some (.number (String.ofList (minus ++ ['i', 'n', 'f'])), rest)
  | none => (word? ['n', 'a', 'n'] rest).map fun rest => (.number "nan", rest)

/-- A whole number in the range of 64 binary digits with a sign. -/
def inRange? (n : Int) (rest : List Char) : Option (Document × List Char) :=
  if -9223372036854775808 ≤ n ∧ n ≤ 9223372036854775807 then some (.number (toString n), rest)
  else none

/-- A whole number to the base of two, eight or sixteen. -/
def based? (base : Nat) (cs : List Char) : Option (Document × List Char) := do
  let (ds, rest) ← digits? (fun c => isHexDigit c && digitValue c < base) cs
  inRange? (numberOf base ds) rest

/-- A whole number. -/
def whole? : List Char → Option (Document × List Char)
  | '0' :: 'x' :: rest => based? 16 rest
  | '0' :: 'o' :: rest => based? 8 rest
  | '0' :: 'b' :: rest => based? 2 rest
  | cs => do
    let (minus, rest) := sign cs
    let (ds, rest) ← decimal? rest
    inRange? (if minus.isEmpty then numberOf 10 ds else -(numberOf 10 ds)) rest

/-- A number of any kind. -/
def number? (cs : List Char) : Option (Document × List Char) :=
  special? cs <|> fractional? cs <|> whole? cs

end InventoryProbe.Toml
