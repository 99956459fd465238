/-!
# Documents

The tree that a structured text denotes, whichever format it is written in. A text that breaks off
or goes wrong somewhere still has a tree: what was read up to that place, and `broken` where it
ends. A reader of records goes through the tree in document order and so meets whichever comes
first, a fault of content or the place where the text itself is at fault.
-/

namespace InventoryProbe

/-- The value of a document, or of a part of it. A member's name is `none` where the text of the
name denotes no characters. -/
inductive Document where
  | null
  | bool (value : Bool)
  | number (literal : String)
  | text (value : String)
  /-- A value that is well formed but never read: a text in which half of a surrogate pair stands
  alone, so that it denotes no characters, or a date. -/
  | unreadable
  | list (items : List Document)
  | object (members : List (Option String × Document))
  /-- The place from which on the text is not a document. -/
  | broken
  deriving Inhabited

namespace Document

mutual

/-- Whether the text of the value was well formed up to its end. -/
def isComplete : Document → Bool
  | .broken => false
  | .list items => areComplete items
  | .object members => membersAreComplete members
  | _ => true

/-- Whether every item is complete. -/
def areComplete : List Document → Bool
  | [] => true
  | item :: items => isComplete item && areComplete items

/-- Whether every member's value is complete. -/
def membersAreComplete : List (Option String × Document) → Bool
  | [] => true
  | (_, value) :: members => isComplete value && membersAreComplete members

end

mutual

/-- Whether the value is complete and all its texts denote characters. -/
def isReadable : Document → Bool
  | .broken | .unreadable => false
  | .list items => areReadable items
  | .object members => membersAreReadable members
  | _ => true

/-- Whether every item is readable. -/
def areReadable : List Document → Bool
  | [] => true
  | item :: items => isReadable item && areReadable items

/-- Whether every member's name and value are readable. -/
def membersAreReadable : List (Option String × Document) → Bool
  | [] => true
  | (name, value) :: members => name.isSome && isReadable value && membersAreReadable members

end

/-- The value of the first member with the given name. -/
def member? (members : List (Option String × Document)) (name : String) : Option Document :=
  match members with
  | [] => none
  | (key, value) :: rest => if key = some name then some value else member? rest name

end Document

end InventoryProbe
