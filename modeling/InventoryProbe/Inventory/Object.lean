import InventoryProbe.Document.Layout
import InventoryProbe.Text.Blank

/-!
# Objects

The kinds of inventory object that a check judges, references to such objects, and the entity types
and statuses that alarms carry. Everything that sets or tables are keyed by is ordered here.
-/

namespace InventoryProbe

/-! ## Kinds -/

/-- The kind of an inventory object that can be judged. -/
inductive ObjectKind where
  | host
  | datastore
  | virtualMachine
  | resourcePool
  | alarm
  deriving DecidableEq, Repr, Inhabited

namespace ObjectKind

/-- Every kind, in the order in which inventories list their objects. -/
def all : List ObjectKind := [.host, .datastore, .virtualMachine, .resourcePool, .alarm]

/-- The place in that order. -/
def rank : ObjectKind → Nat
  | .host => 0
  | .datastore => 1
  | .virtualMachine => 2
  | .resourcePool => 3
  | .alarm => 4

/-- No two of them share a place. -/
theorem eq_of_rank_eq {a b : ObjectKind} (h : a.rank = b.rank) : a = b := by
  cases a <;> cases b <;> simp_all [rank]

instance : Ord ObjectKind := ⟨compareOn rank⟩

instance : Std.TransOrd ObjectKind := inferInstanceAs (Std.TransCmp (compareOn rank))

instance : Std.LawfulEqOrd ObjectKind := ⟨fun h => eq_of_rank_eq (Nat.compare_eq_eq.1 h)⟩

/-- The word for a kind in a sentence. -/
def text : ObjectKind → String
  | .host => "host"
  | .datastore => "datastore"
  | .virtualMachine => "vm"
  | .resourcePool => "resource pool"
  | .alarm => "alarm"

/-- The name of a kind in documents. -/
def documentName : ObjectKind → String
  | .host => "host"
  | .datastore => "datastore"
  | .virtualMachine => "virtual_machine"
  | .resourcePool => "resource_pool"
  | .alarm => "alarm"

def codec : Codec ObjectKind := .choice all documentName

end ObjectKind

/-! ## References -/

/-- What names an object in a report: its kind, its identifier and the name it is known by. -/
structure ObjectRef where
  kind : ObjectKind
  id : String
  name : String
  deriving DecidableEq, Repr, Inhabited

namespace ObjectRef

/-- References are ordered by kind, then by identifier, then by name. -/
instance : Ord ObjectRef :=
  ⟨compareLex (compareOn kind) (compareLex (compareOn id) (compareOn name))⟩

instance : Std.TransOrd ObjectRef :=
  inferInstanceAs
    (Std.TransCmp (compareLex (compareOn kind) (compareLex (compareOn id) (compareOn name))))

instance : Std.LawfulEqOrd ObjectRef where
  eq_of_compare {a b} h := by
    have h : (compare a.kind b.kind).then
        ((compare a.id b.id).then (compare a.name b.name)) = .eq := h
    rw [Ordering.then_eq_eq, Ordering.then_eq_eq] at h
    obtain ⟨hkind, hid, hname⟩ := h
    cases a
    cases b
    simp_all

/-- The reference in a sentence. -/
def text (object : ObjectRef) : String :=
  object.kind.text ++ " '" ++ object.name ++ "' (" ++ object.id ++ ")"

def layout : Layout ObjectRef ObjectRef :=
  Layout.start ObjectRef.mk
    |>.required "kind" ObjectKind.codec kind
    |>.required "id" .text id
    |>.required "name" .text name

def codec : Codec ObjectRef := layout.codec .skipped

end ObjectRef

/-! ## Alarms -/

/-- The type of the entity that an alarm was triggered on. -/
inductive EntityType where
  | datacenter
  | computeCluster
  | host
  | datastore
  | virtualMachine
  | resourcePool
  | network
  | folder
  deriving DecidableEq, Repr, Inhabited

namespace EntityType

/-- Every entity type, in ascending order. -/
def all : List EntityType :=
  [.datacenter, .computeCluster, .host, .datastore, .virtualMachine, .resourcePool, .network,
    .folder]

/-- The place in that order. -/
def rank : EntityType → Nat
  | .datacenter => 0
  | .computeCluster => 1
  | .host => 2
  | .datastore => 3
  | .virtualMachine => 4
  | .resourcePool => 5
  | .network => 6
  | .folder => 7

/-- No two of them share a place. -/
theorem eq_of_rank_eq {a b : EntityType} (h : a.rank = b.rank) : a = b := by
  cases a <;> cases b <;> simp_all [rank]

instance : Ord EntityType := ⟨compareOn rank⟩

instance : Std.TransOrd EntityType := inferInstanceAs (Std.TransCmp (compareOn rank))

instance : Std.LawfulEqOrd EntityType := ⟨fun h => eq_of_rank_eq (Nat.compare_eq_eq.1 h)⟩

/-- The name by which inventory services know the type. -/
def text : EntityType → String
  | .datacenter => "Datacenter"
  | .computeCluster => "ClusterComputeResource"
  | .host => "HostSystem"
  | .datastore => "Datastore"
  | .virtualMachine => "VirtualMachine"
  | .resourcePool => "ResourcePool"
  | .network => "Network"
  | .folder => "Folder"

/-- The type that an operator names, in any case and with blanks around it. -/
def parse (s : String) : Except String EntityType :=
  match all.find? fun t => Text.equalIgnoringAsciiCase t.text.toList (Text.trim s.toList) with
  | some t => .ok t
  | none =>
    .error ("unknown managed entity type '" ++ s ++ "' (valid: "
      ++ String.intercalate ", " (all.map text) ++ ")")

def codec : Codec EntityType := .choice all text

end EntityType

/-- The status that a triggered alarm has. -/
inductive AlarmStatus where
  | gray
  | green
  | yellow
  | red
  deriving DecidableEq, Repr, Inhabited

namespace AlarmStatus

/-- Every status, in ascending order. -/
def all : List AlarmStatus := [.gray, .green, .yellow, .red]

/-- The place in that order. -/
def rank : AlarmStatus → Nat
  | .gray => 0
  | .green => 1
  | .yellow => 2
  | .red => 3

/-- No two of them share a place. -/
theorem eq_of_rank_eq {a b : AlarmStatus} (h : a.rank = b.rank) : a = b := by
  cases a <;> cases b <;> simp_all [rank]

instance : Ord AlarmStatus := ⟨compareOn rank⟩

instance : Std.TransOrd AlarmStatus := inferInstanceAs (Std.TransCmp (compareOn rank))

instance : Std.LawfulEqOrd AlarmStatus := ⟨fun h => eq_of_rank_eq (Nat.compare_eq_eq.1 h)⟩

/-- The word for a status. -/
def text : AlarmStatus → String
  | .gray => "gray"
  | .green => "green"
  | .yellow => "yellow"
  | .red => "red"

/-- The status that an operator names, in any case and with blanks around it; gray has a second
spelling. -/
def parse (s : String) : Except String AlarmStatus :=
  let word := String.ofList ((Text.trim s.toList).map Text.asciiLower)
  if word = "grey" then .ok .gray
  else match all.find? (·.text == word) with
    | some status => .ok status
    | none =>
      .error ("unknown alarm status '" ++ word ++ "' (valid: "
        ++ String.intercalate ", " (all.map text) ++ ")")

def codec : Codec AlarmStatus := .choice all text

end AlarmStatus

end InventoryProbe
