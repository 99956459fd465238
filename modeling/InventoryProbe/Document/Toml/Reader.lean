import InventoryProbe.Document.Toml.DateTime
import InventoryProbe.Document.Toml.Scalar
import InventoryProbe.Document.Toml.Table

/-!
# Reading TOML

The tree of a settings file. Keys of many parts are refused, and so are values that lie deep within
one another.
-/

namespace InventoryProbe.Toml

/-! ## Keys -/

/-- Whether a character may stand in a key without quotes. -/
def isKeyChar (c : Char) : Bool :=
  ('a' ≤ c && c ≤ 'z') || ('A' ≤ c && c ≤ 'Z') || Text.isDigit c || c = '_' || c = '-'

/-- One part of a key. -/
def keyPart? (cs : List Char) : Option (String × List Char) :=
  match cs with
  | '"' :: rest => (basic rest).map fun (key, rest) => (String.ofList key, rest)
  | '\'' :: rest => (literal rest).map fun (key, rest) => (String.ofList key, rest)
  | cs =>
    let key := cs.takeWhile isKeyChar
    if key.isEmpty then none else some (String.ofList key, cs.dropWhile isKeyChar)

/-- The most levels that a file may have: parts of one key, and lists and tables that lie within one
another. -/
def mostLevels : Nat := 79

/-- Parts of a key with dots between them, no more than a number of them: the parts in front, the
last part, and what follows. -/
def keyParts? (most : Nat) (cs : List Char) : Option (List String × String × List Char) :=
  match most with
  | 0 => none
  | most + 1 => do
    let (part, rest) ← keyPart? (skipBlanks cs)
    match skipBlanks rest with
    | '.' :: rest =>
      let (path, last, rest) ← keyParts? most rest
      return (part :: path, last, rest)
    | rest => return ([], part, rest)

/-- A key: the parts in front, the last part, and what follows. -/
def key? (cs : List Char) : Option (List String × String × List Char) := keyParts? mostLevels cs

/-! ## Values -/

/-- A value that no other lies within. -/
def scalar? (cs : List Char) : Option (Document × List Char) :=
  match cs with
  | '"' :: _ | '\'' :: _ => (text? cs).map fun (s, rest) => (.text (String.ofList s), rest)
  | 't' :: rest => (word? ['r', 'u', 'e'] rest).map fun rest => (.bool true, rest)
  | 'f' :: rest => (word? ['a', 'l', 's', 'e'] rest).map fun rest => (.bool false, rest)
  | cs => (skipDateTime? cs).map (Document.unreadable, ·) <|> number? cs

mutual

/-- A value, within which no more than a number of levels may lie. -/
def value? (fuel levels : Nat) (cs : List Char) : Option (Document × List Char) :=
  match fuel with
  | 0 => none
  | fuel + 1 =>
    match levels, cs with
    | levels + 1, '[' :: rest => do
      let (items, rest) ← items? fuel levels (skipLines false rest)
      return (.list items, rest)
    | levels + 1, '\x7b' :: rest =>
      match skipBlanks rest with
      | '\x7d' :: rest => some (.object [], rest)
      | rest => do
        let (entries, rest) ← pairs? fuel levels [] rest
        return (.object (membersOf entries), rest)
    | _, cs => scalar? cs

/-- The items of a list from here on; the last may have a comma behind it. -/
def items? (fuel levels : Nat) (cs : List Char) : Option (List Document × List Char) :=
  match fuel with
  | 0 => none
  | fuel + 1 =>
    match cs with
    | ']' :: rest => some ([], rest)
    | cs => do
      let (item, rest) ← value? fuel levels cs
      match skipLines false rest with
      | ',' :: rest => do
        let (items, rest) ← items? fuel levels (skipLines false rest)
        return (item :: items, rest)
      | ']' :: rest => return ([item], rest)
      | _ => none

/-- The entries of a table in one line, added to those found before. -/
def pairs? (fuel levels : Nat) (entries : Entries) (cs : List Char) :
    Option (Entries × List Char) :=
  match fuel with
  | 0 => none
  | fuel + 1 => do
    let (path, key, rest) ← key? cs
    match rest with
    | '=' :: rest => do
      let (value, rest) ← value? fuel levels (skipBlanks rest)
      let entries ← insert path key value entries
      match skipBlanks rest with
      | ',' :: rest => pairs? fuel levels entries rest
      | '\x7d' :: rest => return (entries, rest)
      | _ => none
    | _ => none

end

/-! ## Lines -/

/-- A key with its value. -/
structure Pair where
  path : List String
  key : String
  value : Document

/-- What a header opens. -/
inductive Header where
  /-- The file itself, whose pairs stand in front of the first header. -/
  | file
  | table (path : List String) (key : String)
  | tables (path : List String) (key : String)

/-- A line that says something. -/
inductive Line where
  | pair (pair : Pair)
  | header (header : Header)

/-- The lines of a text. -/
def lines? (fuel : Nat) (cs : List Char) : Option (List Line) :=
  match fuel with
  | 0 => none
  | fuel + 1 =>
    match skipLines false cs with
    | [] => some []
    | '[' :: '[' :: rest => do
      let (path, key, rest) ← key? rest
      let rest ← word? [']', ']'] rest
      return .header (.tables path key) :: (← lines? fuel (← lineEnd? rest))
    | '[' :: rest => do
      let (path, key, rest) ← key? rest
      let rest ← word? [']'] rest
      return .header (.table path key) :: (← lines? fuel (← lineEnd? rest))
    | rest => do
      let (path, key, rest) ← key? rest
      let rest ← word? ['='] rest
      let (value, rest) ← value? fuel mostLevels (skipBlanks rest)
      return .pair ⟨path, key, value⟩ :: (← lines? fuel (← lineEnd? rest))

/-! ## Sections -/

/-- A header and the pairs under it. -/
structure Section where
  header : Header
  pairs : List Pair

/-- The sections of lines, the first of which goes on with what was found under `header`. -/
def sections (header : Header) (found : List Pair) : List Line → List Section
  | [] => [⟨header, found.reverse⟩]
  | .pair pair :: rest => sections header (pair :: found) rest
  | .header next :: rest => ⟨header, found.reverse⟩ :: sections next [] rest

/-- The entries of a table with those of pairs. -/
def fill (pairs : List Pair) (entries : Entries) : Option Entries :=
  pairs.foldlM (fun entries pair => insert pair.path pair.key pair.value entries) entries

/-- The entries of a file with those of one more section. -/
def addSection (root : Entries) (s : Section) : Option Entries :=
  match s.header with
  | .file => fill s.pairs root
  | .table path key => openTable path key (fill s.pairs) root
  | .tables path key => appendTable path key (fill s.pairs) root

/-- The tree of a text, if it is a settings file. A mark of the byte order in front does not
count. -/
def read (cs : List Char) : Option Document := do
  let cs := match cs with
    | '\uFEFF' :: rest => rest
    | cs => cs
  let lines ← lines? (cs.length + 1) cs
  let root ← (sections .file [] lines).foldlM addSection []
  return .object (membersOf root)

end InventoryProbe.Toml
