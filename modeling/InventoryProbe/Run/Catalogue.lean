import InventoryProbe.Check.Build
import InventoryProbe.Run.Error

/-!
# Catalogues

Checks that can be asked for by name, with what they are about and how they are built. A name is
given once and keeps its meaning.
-/

namespace InventoryProbe

open Std (ExtTreeMap)

/-- A check that can be asked for: what it is about, and how it is built from settings. -/
structure CatalogueEntry where
  description : String
  build : Settings → Except SettingError Check

/-- Checks by name. -/
structure Catalogue where
  entries : ExtTreeMap String CatalogueEntry

namespace Catalogue

/-- No checks. -/
def empty : Catalogue := ⟨∅⟩

/-- What a call gives that registers a check: its answer, and the catalogue after it. A name that is taken is
refused, and then nothing is changed. -/
def tryRegister (c : Catalogue) (name : String) (entry : CatalogueEntry) :
    Except CatalogueError Unit × Catalogue :=
  if c.entries.contains name then (.error (.alreadyRegistered name), c)
  else (.ok (), ⟨c.entries.insert name entry⟩)

/-- The catalogue with one more check, for those who go no further when a call is refused. -/
def register (c : Catalogue) (name : String) (entry : CatalogueEntry) :
    Except CatalogueError Catalogue :=
  match c.tryRegister name entry with
  | (.ok _, next) => .ok next
  | (.error e, _) => .error e

/-- The names, in ascending order. -/
def names (c : Catalogue) : List String := c.entries.keys

/-- The names with what the checks are about, in ascending order. -/
def descriptions (c : Catalogue) : List (String × String) :=
  c.entries.toList.map fun (name, entry) => (name, entry.description)

/-- The number of checks. -/
def size (c : Catalogue) : Nat := c.entries.size

/-- The check of a name, built from settings. -/
def build (c : Catalogue) (name : String) (s : Settings) : Except RunError Check :=
  match c.entries[name]? with
  | some entry => (entry.build s).mapError .setting
  | none => .error (.catalogue (.unknown name c.names))

/-- The entry of one of the twelve checks. -/
def entryOf (n : CheckName) : CatalogueEntry := ⟨n.description, n.build⟩

/-- The twelve checks in the order in which they are registered. -/
def registered : List CheckName :=
  [.datastoreUsage, .hostMemory, .hostCpu, .snapshotAge, .snapshotCount, .snapshotSize, .uptime,
    .tools, .diskConsolidation, .alarms, .hardwareVersion, .pairings]

/-- Registers the twelve checks one after the other. -/
def create : Except CatalogueError Catalogue :=
  registered.foldlM (fun c n => c.register n.text (entryOf n)) empty

/-- The catalogue of the twelve checks; none of them is refused. -/
def standard : Catalogue :=
  match create with
  | .ok c => c
  | .error _ => empty

end Catalogue

end InventoryProbe
