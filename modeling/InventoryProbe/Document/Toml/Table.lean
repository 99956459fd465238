import InventoryProbe.Document.Basic

/-!
# Tables of TOML

The tables that a settings file builds up line by line. Each table remembers how it came about,
since that decides what may be added to it: a table with a header is written in one place only, a
table that dotted keys brought about grows by dotted keys, and one that was merely on the way to
another may still get a header of its own.
-/

namespace InventoryProbe.Toml

/-- How a table came about. -/
inductive Origin where
  /-- By a header of its own. -/
  | header
  /-- On the way to a table with a header. -/
  | implied
  /-- On the way to a value with a dotted key. -/
  | dotted
  deriving DecidableEq, Repr

/-- What a key stands for. -/
inductive Item where
  | value (document : Document)
  | table (origin : Origin) (entries : List (String × Item))
  /-- The tables written under one repeated header, the latest first. -/
  | tables (latest : List (String × Item)) (earlier : List (List (String × Item)))

/-- The entries of a table, in the order in which their keys appeared. -/
abbrev Entries := List (String × Item)

/-- The item of a key. -/
def find? (key : String) (entries : Entries) : Option Item :=
  (entries.find? (·.1 == key)).map (·.2)

/-- The entries with an item for a key. -/
def put (key : String) (item : Item) : Entries → Entries
  | [] => [(key, item)]
  | (k, old) :: rest => if k = key then (k, item) :: rest else (k, old) :: put key item rest

/-- The entries with something done to the table at the end of a path, which is brought about where
it is missing. Of tables under a repeated header the latest is meant; otherwise dotted keys lead
into no table that has a header. -/
def within (byDots : Bool) (path : List String) (origin : Origin) (entries : Entries)
    (change : Origin → Entries → Option Entries) : Option Entries :=
  match path with
  | [] => change origin entries
  | key :: path =>
    match find? key entries with
    | none => do
      let origin := if byDots then .dotted else .implied
      let inner ← within byDots path origin [] change
      return put key (.table origin inner) entries
    | some (.value _) => none
    | some (.table origin inner) =>
      if byDots && origin = .header then none
      else do
        let inner ← within byDots path origin inner change
        return put key (.table origin inner) entries
    | some (.tables latest earlier) => do
      let latest ← within byDots path .header latest change
      return put key (.tables latest earlier) entries

/-- The entries with a value under a dotted key. The key must be new, and the table that it lies in
must have come about by dots itself. -/
def insert (path : List String) (key : String) (value : Document) (entries : Entries) :
    Option Entries :=
  within true path .header entries fun origin inner =>
    -- Without a path the table is the one that the header in front has just opened.
    if !path.isEmpty && origin != .dotted then none
    else if (find? key inner).isSome then none
    else some (put key (.value value) inner)

/-- The entries with a table under a header, filled by `fill`. A table that was on the way to
another keeps what it has; any other use of the key is refused. -/
def openTable (path : List String) (key : String) (fill : Entries → Option Entries)
    (entries : Entries) : Option Entries :=
  within false path .header entries fun _ inner => do
    let start ← match find? key inner with
      | none => some []
      | some (.table .implied held) => some held
      | some _ => none
    return put key (.table .header (← fill start)) inner

/-- The entries with one more table under a repeated header, filled by `fill`. -/
def appendTable (path : List String) (key : String) (fill : Entries → Option Entries)
    (entries : Entries) : Option Entries :=
  within false path .header entries fun _ inner => do
    let earlier ← match find? key inner with
      | none => some []
      | some (.tables latest earlier) => some (latest :: earlier)
      | some _ => none
    return put key (.tables (← fill []) earlier) inner

mutual

/-- The document of an item. -/
def Item.document : Item → Document
  | .value document => document
  | .table _ entries => .object (membersOf entries)
  | .tables latest earlier => .list (objectsOf earlier [.object (membersOf latest)])

/-- The members of a table. -/
def membersOf : List (String × Item) → List (Option String × Document)
  | [] => []
  | (key, item) :: rest => (some key, item.document) :: membersOf rest

/-- The objects of tables that are given latest first, in front of those found already. -/
def objectsOf : List (List (String × Item)) → List Document → List Document
  | [], found => found
  | entries :: rest, found => objectsOf rest (.object (membersOf entries) :: found)

end

end InventoryProbe.Toml
