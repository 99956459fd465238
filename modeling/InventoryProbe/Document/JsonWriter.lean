import InventoryProbe.Document.Basic

/-!
# Writing JSON

The JSON text of a tree, in one line or indented.
-/

namespace InventoryProbe.Json

/-- What stands between the tokens: the line break in front of an item at a depth, and the blank
behind a colon. -/
structure Spacing where
  line : Nat → List Char
  colon : List Char

/-- Everything in one line, without blanks. -/
def Spacing.tight : Spacing := ⟨fun _ => [], []⟩

/-- An item a line, two blanks deeper than what holds it. -/
def Spacing.indented : Spacing := ⟨fun depth => '\n' :: List.replicate (2 * depth) ' ', [' ']⟩

/-- A hexadecimal digit, as a small letter from ten on. -/
def hexDigit (n : Nat) : Char :=
  if n < 10 then Char.ofNat ('0'.toNat + n) else Char.ofNat ('a'.toNat + (n - 10))

/-- A character within a text: quotes, backslashes and control characters are escaped. -/
def escape (c : Char) : List Char :=
  if c = '"' then ['\\', '"']
  else if c = '\\' then ['\\', '\\']
  else if c = '\x08' then ['\\', 'b']
  else if c = '\t' then ['\\', 't']
  else if c = '\n' then ['\\', 'n']
  else if c = '\x0c' then ['\\', 'f']
  else if c = '\r' then ['\\', 'r']
  else if c < ' ' then ['\\', 'u', '0', '0', hexDigit (c.toNat / 16), hexDigit (c.toNat % 16)]
  else [c]

/-- A text between its quotes. -/
def quote (s : String) : List Char := '"' :: s.toList.flatMap escape ++ ['"']

mutual

/-- The text of a tree at a depth. What was not read whole is written as `null`. -/
def writeAt (spacing : Spacing) (depth : Nat) : Document → List Char
  | .null => "null".toList
  | .bool true => "true".toList
  | .bool false => "false".toList
  | .number literal => literal.toList
  | .text s => quote s
  | .list [] => ['[', ']']
  | .list (item :: items) =>
    '[' :: spacing.line (depth + 1) ++ writeAt spacing (depth + 1) item
      ++ writeItems spacing (depth + 1) items ++ spacing.line depth ++ [']']
  | .object [] => ['\x7b', '\x7d']
  | .object ((name, value) :: members) =>
    '\x7b' :: spacing.line (depth + 1) ++ quote (name.getD "") ++ ':' :: spacing.colon
      ++ writeAt spacing (depth + 1) value
      ++ writeMembers spacing (depth + 1) members ++ spacing.line depth ++ ['\x7d']
  | .unreadable => "null".toList
  | .broken => "null".toList

/-- The items behind the first, each with the comma in front of it. -/
def writeItems (spacing : Spacing) (depth : Nat) : List Document → List Char
  | [] => []
  | item :: items =>
    ',' :: spacing.line depth ++ writeAt spacing depth item ++ writeItems spacing depth items

/-- The members behind the first, each with the comma in front of it. -/
def writeMembers (spacing : Spacing) (depth : Nat) : List (Option String × Document) → List Char
  | [] => []
  | (name, value) :: members =>
    ',' :: spacing.line depth ++ quote (name.getD "") ++ ':' :: spacing.colon
      ++ writeAt spacing depth value ++ writeMembers spacing depth members

end

/-- The text of a tree. -/
def write (spacing : Spacing) (document : Document) : String :=
  String.ofList (writeAt spacing 0 document)

end InventoryProbe.Json
