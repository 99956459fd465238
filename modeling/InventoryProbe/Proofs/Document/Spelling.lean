import InventoryProbe.Proofs.Document.Layout
import InventoryProbe.Proofs.Failure
import Mathlib.Data.List.Nodup
import Mathlib.Logic.Relation

/-!
# Records in other spellings

A record can be spelled in many ways: its members in any order, members of other names between
them, a field left out or written with the value that it has when it is left out. A shape says where
the records are in a value and what their fields are; it knows nothing of how they are read.

* **`Shape.Respells`**: one change of spelling to one record, however deep in the value it is.
* **`scan_eq_ok_iff`**: members are let in one by one, whatever their order.
* **`Layout.steady`**: where a layout has the fields of a shape, no change of spelling alters what is
  read, and so no number of changes does (**`Codec.Steady.read_of_reflTransGen`**).
-/

namespace InventoryProbe

open Relation (ReflTransGen)

/-! ## Shapes -/

/-- What is known of a field: its name, how the value is spelled that it has when it is left out, if
it may be, and the shape of its values. -/
structure FieldShape (σ : Type) where
  name : String
  absent : Option Document
  shape : σ

/-- Where the records are in a value. -/
inductive Shape where
  /-- There are none. -/
  | plain
  | list (item : Shape)
  | record (fields : List (FieldShape Shape))

namespace FieldShape

/-- A field that must not be left out. -/
@[simp] def required (name : String) : FieldShape Shape := ⟨name, none, .plain⟩

/-- A field that must not be left out and holds other fields. -/
@[simp] def nested (name : String) (shape : Shape) : FieldShape Shape := ⟨name, none, shape⟩

/-- A field that may be left out, with the value that it then has. -/
@[simp] def defaulted (name : String) (absent : Document) : FieldShape Shape :=
  ⟨name, some absent, .plain⟩

/-- A field that is absent where it is left out. -/
@[simp] def optional (name : String) : FieldShape Shape := defaulted name .null

/-- A number that is zero where it is left out. -/
@[simp] def amount (name : String) : FieldShape Shape := defaulted name (.number "0")

/-- A list that is empty where it is left out. -/
@[simp] def many (name : String) (item : Shape) : FieldShape Shape :=
  ⟨name, some (.list []), .list item⟩

end FieldShape

/-- One change of spelling to one record in a value: its members are put in another order, a member
is inserted that no field is named after, a member is removed that says no more than its absence, or
such a member is added. The record may be anywhere: in a list, in a field of another record, or in
another record that is written as a list of its fields. -/
inductive Shape.Respells : Shape → Document → Document → Prop where
  | reorder {fields : List (FieldShape Shape)} {ms ms' : List (Option String × Document)}
      (h : ms.Perm ms') : Respells (.record fields) (.object ms) (.object ms')
  | insert {fields : List (FieldShape Shape)} {front back : List (Option String × Document)}
      {name : String} {value : Document} (hname : ∀ s ∈ fields, s.name ≠ name)
      (hvalue : value.isComplete) :
      Respells (.record fields) (.object (front ++ back))
        (.object (front ++ (some name, value) :: back))
  | remove {fields : List (FieldShape Shape)} {front back : List (Option String × Document)}
      {s : FieldShape Shape} {absent : Document} (hs : s ∈ fields) (habsent : s.absent = some absent) :
      Respells (.record fields) (.object (front ++ (some s.name, absent) :: back))
        (.object (front ++ back))
  | add {fields : List (FieldShape Shape)} {front back : List (Option String × Document)}
      {s : FieldShape Shape} {absent : Document} (hs : s ∈ fields) (habsent : s.absent = some absent)
      (hmissing : some s.name ∉ (front ++ back).map Prod.fst) :
      Respells (.record fields) (.object (front ++ back))
        (.object (front ++ (some s.name, absent) :: back))
  | member {fields : List (FieldShape Shape)} {front back : List (Option String × Document)}
      {s : FieldShape Shape} {d d' : Document} (hs : s ∈ fields) (h : Respells s.shape d d') :
      Respells (.record fields) (.object (front ++ (some s.name, d) :: back))
        (.object (front ++ (some s.name, d') :: back))
  | place {fields : List (FieldShape Shape)} {front back : List Document} {s : FieldShape Shape}
      {d d' : Document} (hs : fields[front.length]? = some s) (h : Respells s.shape d d') :
      Respells (.record fields) (.list (front ++ d :: back)) (.list (front ++ d' :: back))
  | item {shape : Shape} {front back : List Document} {d d' : Document} (h : Respells shape d d') :
      Respells (.list shape) (.list (front ++ d :: back)) (.list (front ++ d' :: back))

/-! ## Lists -/

namespace Codec

variable {α : Type} {c : Codec α} {shape : Shape}

/-- That no change of spelling alters what is read. -/
def Steady (c : Codec α) (shape : Shape) : Prop :=
  ∀ d d' a, shape.Respells d d' → c.read .streamed d = .ok a → c.read .streamed d' = .ok a

/-- What is spelled in one way only is read alike. -/
@[simp] theorem steady_plain (c : Codec α) : c.Steady .plain := by
  intro d d' a hrespells
  cases hrespells

/-- A list is read alike if its entries are. -/
@[simp] theorem Steady.list (h : c.Steady shape) : c.list.Steady (.list shape) := by
  intro d d' as hrespells hread
  cases hrespells with
  | item hitem => exact mapM_replace (fun a => h _ _ a hitem) hread

/-- Any number of changes of spelling leaves what is read as it is. Induction on the changes. -/
theorem Steady.read_of_reflTransGen (h : c.Steady shape) {d d' : Document}
    (hrespelled : ReflTransGen shape.Respells d d') {a : α} (hread : c.read .streamed d = .ok a) :
    c.read .streamed d' = .ok a := by
  induction hrespelled with
  | refl => exact hread
  | tail _ hstep ih => exact h _ _ a hstep ih

/-- A text is read if it is a whole document, and the document is read. -/
theorem readJson_eq_ok_iff {source : String} {a : α} :
    c.readJson source = .ok a ↔
      ∃ d, Json.read source.toList = (d, true) ∧ c.read .streamed d = .ok a := by
  unfold readJson
  obtain ⟨d, ended⟩ := Json.read source.toList
  simp only [bind_eq_ok_iff, Prod.mk.injEq]
  cases ended with
  | true =>
    constructor
    · rintro ⟨a', hread, ⟨⟩⟩
      exact ⟨d, ⟨rfl, rfl⟩, hread⟩
    · rintro ⟨_, ⟨rfl, -⟩, hread⟩
      exact ⟨a, hread, rfl⟩
  -- A text that goes on behind the document is refused.
  | false =>
    constructor
    · rintro ⟨a', hread, hend⟩
      cases hend
    · rintro ⟨_, ⟨-, hend⟩, -⟩
      cases hend

end Codec

/-! ## Fields -/

namespace FieldShape

/-- What one change of spelling can do to what is found under the name of a field: nothing, or it
comes, goes, or is respelled itself. -/
inductive Alike (s : FieldShape Shape) : Option Document → Option Document → Prop where
  | same (found : Option Document) : Alike s found found
  | added {absent : Document} (h : s.absent = some absent) : Alike s none (some absent)
  | removed {absent : Document} (h : s.absent = some absent) : Alike s (some absent) none
  | changed {d d' : Document} (h : s.shape.Respells d d') : Alike s (some d) (some d')

end FieldShape

namespace Field

variable {ρ α : Type} {f : Field ρ α} {s : FieldShape Shape}

/-- The value that a field has, given what is found for it. -/
def value (f : Field ρ α) (form : Form) : Option Document → Except ReadError α
  | some d => f.codec.read form d
  | none =>
    match f.absent with
    | some a => .ok a
    | none => .error (.missingField f.name)

/-- That a field has a shape: its name, the value without which it may be left out, and values that
are read in every spelling. -/
structure Shaped (f : Field ρ α) (s : FieldShape Shape) : Prop where
  name_eq : f.name = s.name
  absent : ∀ d ∈ s.absent, ∃ a ∈ f.absent, f.codec.read .streamed d = .ok a
  steady : f.codec.Steady s.shape

/-- A field has the same value of members that are alike. -/
theorem Shaped.value_of_alike (h : f.Shaped s) {found found' : Option Document}
    (halike : s.Alike found found') {a : α} (hvalue : f.value .streamed found = .ok a) :
    f.value .streamed found' = .ok a := by
  cases halike with
  | same => exact hvalue
  | added habsent =>
    -- What is added reads as the value that the field had without it.
    obtain ⟨a', ha', hread⟩ := h.absent _ habsent
    simp only [value, Option.mem_def.1 ha'] at hvalue
    cases hvalue
    exact hread
  | removed habsent =>
    obtain ⟨a', ha', hread⟩ := h.absent _ habsent
    have hsame : a' = a := Except.ok.inj (hread.symm.trans hvalue)
    simp only [value, Option.mem_def.1 ha', hsame]
  | changed hrespells => exact h.steady _ _ a hrespells hvalue

end Field

namespace Layout

variable {ρ α κ : Type} {layout : Layout ρ κ} {form : Form} {shapes : List (FieldShape Shape)}

/-- That the fields of a layout have the shapes of a list, in order. -/
def Shaped {κ : Type} : Layout ρ κ → List (FieldShape Shape) → Prop
  | .start _, shapes => shapes = []
  | .field before f, shapes =>
    before.Shaped shapes.dropLast ∧ ∃ s, shapes.getLast? = some s ∧ f.Shaped s

/-- The shapes of a layout are those of its fields, in order. -/
theorem shaped_field_iff {before : Layout ρ (α → κ)} {f : Field ρ α} :
    (before.field f).Shaped shapes ↔
      ∃ front s, shapes = front ++ [s] ∧ before.Shaped front ∧ f.Shaped s := by
  rw [Shaped]
  constructor
  · rintro ⟨hbefore, s, hlast, hf⟩
    obtain ⟨front, rfl⟩ := List.getLast?_eq_some_iff.1 hlast
    rw [List.dropLast_concat] at hbefore
    exact ⟨front, s, rfl, hbefore, hf⟩
  · rintro ⟨front, s, rfl, hbefore, hf⟩
    rw [List.dropLast_concat, List.getLast?_concat]
    exact ⟨hbefore, s, rfl, hf⟩

theorem names_eq_of_shaped (h : layout.Shaped shapes) : layout.names = shapes.map (·.name) := by
  induction layout generalizing shapes with
  | start make =>
    rw [Shaped] at h
    rw [h]
    rfl
  | field before f ih =>
    obtain ⟨front, s, rfl, hbefore, hf⟩ := shaped_field_iff.1 h
    rw [names, ih hbefore, hf.name_eq, List.map_append]
    rfl

/-! ## Gathering

What is read of a record hangs on what is found for each of its fields. -/

/-- A record is gathered field by field. -/
theorem gather_field_eq_ok_iff {before : Layout ρ (α → κ)} {f : Field ρ α}
    {find : String → Option Document} {k : κ} :
    (before.field f).gather form find = .ok k ↔
      ∃ g a, before.gather form find = .ok g ∧ f.value form (find f.name) = .ok a ∧ g a = k := by
  rw [gather, bind_eq_ok_iff]
  unfold Field.value
  cases find f.name with
  | some d => simp [bind_eq_ok_iff, pure, Except.pure]
  | none =>
    cases f.absent with
    | some a => simp [pure, Except.pure]
    | none => simp

/-- The same record is gathered of members that are alike. Induction on the fields. -/
theorem gather_of_alike (h : layout.Shaped shapes) {find find' : String → Option Document}
    (halike : ∀ s ∈ shapes, s.Alike (find s.name) (find' s.name)) {k : κ}
    (hgather : layout.gather .streamed find = .ok k) : layout.gather .streamed find' = .ok k := by
  induction layout generalizing shapes with
  | start make => exact hgather
  | field before f ih =>
    obtain ⟨front, s, rfl, hbefore, hf⟩ := shaped_field_iff.1 h
    obtain ⟨g, a, hg, ha, rfl⟩ := gather_field_eq_ok_iff.1 hgather
    have hlast := halike s (List.mem_append_right _ (List.mem_singleton.2 rfl))
    rw [← hf.name_eq] at hlast
    have hfront := ih hbefore (fun s' hs' => halike s' (List.mem_append_left _ hs')) hg
    exact gather_field_eq_ok_iff.2 ⟨g, a, hfront, hf.value_of_alike hlast ha, rfl⟩

/-! ## Taking

In a list that stands for a record, each field finds its value at its own place. -/

/-- Entries of a list are taken field by field, the next one for the next field. -/
theorem take_field_eq_ok_iff {before : Layout ρ (α → κ)} {f : Field ρ α} {items rest : List Document}
    {k : κ} :
    (before.field f).take form items = .ok (k, rest) ↔
      ∃ g a left, before.take form items = .ok (g, left) ∧ f.value form left.head? = .ok a ∧
        g a = k ∧ left.tail = rest := by
  rw [take, bind_eq_ok_iff]
  constructor
  · rintro ⟨⟨g, left⟩, hg, hrest⟩
    unfold Field.value
    cases left with
    | cons d left =>
      obtain ⟨a, ha, hpure⟩ := bind_eq_ok_iff.1 hrest
      cases hpure
      exact ⟨g, a, _, hg, ha, rfl, rfl⟩
    -- Behind the last entry only fields that have a default can be taken.
    | nil =>
      cases habsent : f.absent with
      | some a =>
        simp only [habsent] at hrest
        cases hrest
        exact ⟨g, a, [], hg, by simp, rfl, rfl⟩
      | none => simp [habsent] at hrest
  · rintro ⟨g, a, left, hg, ha, rfl, rfl⟩
    refine ⟨(g, left), hg, ?_⟩
    unfold Field.value at ha
    cases left with
    | cons d left => exact bind_eq_ok_iff.2 ⟨a, ha, rfl⟩
    | nil =>
      cases habsent : f.absent with
      | some a' =>
        simp only [List.head?_nil, habsent] at ha ⊢
        cases ha
        rfl
      | none => simp [habsent] at ha

/-- The same record is taken of entries that are alike. Induction on the fields. -/
theorem take_of_alike (h : layout.Shaped shapes) {items items' rest : List Document}
    (halike : ∀ (i : Nat) (s : FieldShape Shape), shapes[i]? = some s → s.Alike items[i]? items'[i]?)
    {k : κ}
    (htake : layout.take .streamed items = .ok (k, rest)) :
    rest = items.drop shapes.length ∧
      layout.take .streamed items' = .ok (k, items'.drop shapes.length) := by
  -- Along the fields: how far the values have been used up is how many fields there were.
  induction layout generalizing shapes rest with
  | start make =>
    rw [Shaped] at h
    subst h
    cases htake
    exact ⟨rfl, rfl⟩
  | field before f ih =>
    obtain ⟨front, s, rfl, hbefore, hf⟩ := shaped_field_iff.1 h
    obtain ⟨g, a, left, hg, ha, rfl, rfl⟩ := take_field_eq_ok_iff.1 htake
    have hfront : ∀ (i : Nat) (s' : FieldShape Shape), front[i]? = some s' →
        s'.Alike items[i]? items'[i]? := by
      intro i s' hs'
      obtain ⟨hlt, -⟩ := List.getElem?_eq_some_iff.1 hs'
      exact halike i s' (by rw [List.getElem?_append_left hlt, hs'])
    obtain ⟨hleft, hg'⟩ := ih hbefore hfront hg
    -- The last field finds what stands behind the places of the fields before.
    have hlast := halike front.length s (by simp)
    rw [hleft, List.head?_drop] at ha
    rw [List.length_append, List.length_singleton]
    constructor
    · rw [hleft, List.tail_drop]
    · refine take_field_eq_ok_iff.2 ⟨g, a, _, hg', ?_, rfl, List.tail_drop⟩
      rw [List.head?_drop]
      exact hf.value_of_alike hlast ha

/-! ## Scanning

Members are let in one by one. Only that no field is given twice is a matter of them all. -/

/-- That a member holds a value of its field, or is well formed if there is no such field. -/
def LetsIn (layout : Layout ρ κ) (form : Form) (m : Option String × Document) : Prop :=
  ∃ name, m.1 = some name ∧ (layout.admits? form name m.2 = some (.ok ()) ∨
    layout.admits? form name m.2 = none ∧ m.2.isComplete)

/-- The fields that members give, in the order of the members. -/
def given (layout : Layout ρ κ) (ms : List (Option String × Document)) : List String :=
  ms.filterMap fun m => m.1.filter (· ∈ layout.names)

/-- A member with the name of a field counts as given. -/
theorem given_cons_of_mem {name : String} (h : name ∈ layout.names) (d : Document)
    (ms : List (Option String × Document)) :
    layout.given ((some name, d) :: ms) = name :: layout.given ms :=
  List.filterMap_cons_some (by simp [h])

/-- A stranger does not. -/
theorem given_cons_of_not_mem {name : String} (h : name ∉ layout.names) (d : Document)
    (ms : List (Option String × Document)) :
    layout.given ((some name, d) :: ms) = layout.given ms :=
  List.filterMap_cons_none (by simp [h])

/-- A field is given if there is a member with its name. -/
theorem mem_given_iff {ms : List (Option String × Document)} {name : String} :
    name ∈ layout.given ms ↔ name ∈ layout.names ∧ some name ∈ ms.map Prod.fst := by
  unfold given
  simp only [List.mem_filterMap, Option.filter_eq_some_iff, decide_eq_true_eq, List.mem_map]
  constructor
  · rintro ⟨m, hm, hname, hknown⟩
    exact ⟨hknown, m, hm, hname⟩
  · rintro ⟨hknown, m, hm, hname⟩
    exact ⟨m, hm, hname, hknown⟩

/-- Members are scanned to the end exactly if each of them is let in and no field is given twice. -/
theorem scan_eq_ok_iff {seen : List String} {ms : List (Option String × Document)} :
    layout.scan .skipped form seen ms = .ok () ↔
      (∀ m ∈ ms, layout.LetsIn form m) ∧ (layout.given ms).Nodup ∧
        ∀ name ∈ layout.given ms, name ∉ seen := by
  -- Along the members, for any names seen before, since each known name joins those seen.
  induction ms generalizing seen with
  | nil => simp [scan, given]
  | cons m rest ih =>
    obtain ⟨key, d⟩ := m
    rw [List.forall_mem_cons]
    cases key with
    | none => simp [scan, LetsIn]
    | some name =>
      unfold LetsIn
      cases hadmits : layout.admits? form name d with
      | none =>
        rw [given_cons_of_not_mem (admits?_eq_none_iff.1 hadmits)]
        by_cases hcomplete : d.isComplete
        · simp [scan, hadmits, hcomplete, ih, LetsIn]
        · simp [scan, hadmits, hcomplete]
      | some admitted =>
        have hknown : name ∈ layout.names := by
          by_contra hnot
          rw [admits?_eq_none_iff.2 hnot] at hadmits
          cases hadmits
        rw [given_cons_of_mem hknown]
        by_cases hseen : name ∈ seen
        · simp [scan, hadmits, hseen]
        · simp only [scan, hadmits, hseen, if_false]
          rw [bind_eq_ok_iff, List.nodup_cons, List.forall_mem_cons]
          constructor
          · rintro ⟨⟨⟩, rfl, hrest⟩
            obtain ⟨hlets, hnodup, hunseen⟩ := ih.1 hrest
            -- What comes behind was scanned with this name among those seen.
            refine ⟨⟨⟨name, rfl, .inl hadmits⟩, hlets⟩, ⟨fun hmem => ?_, hnodup⟩, hseen,
              fun other hother hin => ?_⟩
            · exact hunseen name hmem List.mem_cons_self
            · exact hunseen other hother (List.mem_cons_of_mem _ hin)
          · rintro ⟨⟨⟨_, ⟨⟩, hin⟩, hlets⟩, ⟨hnew, hnodup⟩, -, hunseen⟩
            rcases hin with hin | ⟨hin, -⟩
            · rw [hadmits] at hin
              cases hin
              refine ⟨(), rfl, ih.2 ⟨hlets, hnodup, fun other hother hmem => ?_⟩⟩
              rcases List.mem_cons.1 hmem with rfl | hmem
              · exact hnew hother
              · exact hunseen other hother hmem
            · rw [hadmits] at hin
              cases hin

/-! ## Objects -/

/-- An object is read if all its members are let in, no field is given twice, and the record is gathered. -/
theorem read_object_eq_ok_iff {ms : List (Option String × Document)} {k : κ} :
    layout.read .skipped form (.object ms) = .ok k ↔
      (∀ m ∈ ms, layout.LetsIn form m) ∧ (layout.given ms).Nodup ∧
        layout.gather form (Document.member? ms) = .ok k := by
  rw [read, bind_eq_ok_iff, ← and_assoc]
  constructor
  · rintro ⟨⟨⟩, hscan, hgather⟩
    obtain ⟨hlets, hnodup, -⟩ := scan_eq_ok_iff.1 hscan
    exact ⟨⟨hlets, hnodup⟩, hgather⟩
  · rintro ⟨⟨hlets, hnodup⟩, hgather⟩
    exact ⟨(), scan_eq_ok_iff.2 ⟨hlets, hnodup, fun _ _ => List.not_mem_nil⟩, hgather⟩

/-- Where no field is given twice, what is found for a field is what is given for it. -/
theorem member?_eq_some_iff {ms : List (Option String × Document)}
    (hnodup : (layout.given ms).Nodup) {name : String} (hname : name ∈ layout.names) {d : Document} :
    Document.member? ms name = some d ↔ (some name, d) ∈ ms := by
  induction ms with
  | nil => simp [Document.member?]
  | cons m rest ih =>
    obtain ⟨key, value⟩ := m
    rw [Document.member?, List.mem_cons]
    by_cases hkey : key = some name
    · subst hkey
      rw [given_cons_of_mem hname, List.nodup_cons, mem_given_iff] at hnodup
      -- Nothing behind the first member of this name bears it again.
      have hnot : (some name, d) ∉ rest := fun hmem =>
        hnodup.1 ⟨hname, List.mem_map_of_mem (f := Prod.fst) hmem⟩
      simp [hnot, eq_comm]
    · have hrest : (layout.given rest).Nodup :=
        hnodup.sublist ((List.sublist_cons_self _ _).filterMap _)
      rw [if_neg hkey, ih hrest]
      simp [Ne.symm hkey]

/-- In any order of the members the same is found under the name of a field, for no field is given twice. -/
theorem member?_eq_of_perm {ms ms' : List (Option String × Document)} (h : ms.Perm ms')
    (hnodup : (layout.given ms).Nodup) {name : String} (hname : name ∈ layout.names) :
    Document.member? ms name = Document.member? ms' name := by
  have hnodup' : (layout.given ms').Nodup := (h.filterMap _).nodup_iff.1 hnodup
  apply Option.ext
  intro d
  rw [member?_eq_some_iff hnodup hname, member?_eq_some_iff hnodup' hname, h.mem_iff]

/-- Nothing is found under a name that no member has. -/
theorem member?_eq_none {ms : List (Option String × Document)} {name : String}
    (h : some name ∉ ms.map Prod.fst) : Document.member? ms name = none := by
  have hbehind := @Document.member?_append_of_not_mem ms [] name h
  rwa [List.append_nil] at hbehind

/-- The name of a shape is that of a field. -/
theorem name_mem_names (h : layout.Shaped shapes) {s : FieldShape Shape} (hs : s ∈ shapes) :
    s.name ∈ layout.names := by
  rw [names_eq_of_shaped h]
  exact List.mem_map_of_mem hs

/-- Members in another order are read as the same record. -/
theorem read_object_of_perm (h : layout.Shaped shapes) {ms ms' : List (Option String × Document)}
    (hperm : ms.Perm ms') {k : κ} (hread : layout.read .skipped .streamed (.object ms) = .ok k) :
    layout.read .skipped .streamed (.object ms') = .ok k := by
  obtain ⟨hlets, hnodup, hgather⟩ := read_object_eq_ok_iff.1 hread
  have hnodup' : (layout.given ms').Nodup := (hperm.filterMap _).nodup_iff.1 hnodup
  refine read_object_eq_ok_iff.2 ⟨fun m hm => hlets m (hperm.mem_iff.2 hm), hnodup', ?_⟩
  refine gather_of_alike h (fun s hs => ?_) hgather
  rw [member?_eq_of_perm hperm hnodup (name_mem_names h hs)]
  exact .same _

/-- A member that no field is named after is passed over. -/
theorem read_object_of_stranger (h : layout.Shaped shapes) {name : String} {value : Document}
    (hname : ∀ s ∈ shapes, s.name ≠ name) (hvalue : value.isComplete)
    {ms : List (Option String × Document)} {k : κ}
    (hread : layout.read .skipped .streamed (.object ms) = .ok k) :
    layout.read .skipped .streamed (.object ((some name, value) :: ms)) = .ok k := by
  have hstranger : name ∉ layout.names := by
    rw [names_eq_of_shaped h]
    simpa using hname
  obtain ⟨hlets, hnodup, hgather⟩ := read_object_eq_ok_iff.1 hread
  rw [read_object_eq_ok_iff, List.forall_mem_cons, given_cons_of_not_mem hstranger]
  refine ⟨⟨⟨name, rfl, .inr ⟨admits?_eq_none_iff.2 hstranger, hvalue⟩⟩, hlets⟩, hnodup, ?_⟩
  -- The stranger is not what any field is gathered of.
  refine gather_of_alike h (fun s hs => ?_) hgather
  rw [Document.member?, if_neg fun heq => hname s hs (Option.some.inj heq).symm]
  exact .same _

/-- Behind each shape there is a field, whose members are those that it reads. -/
theorem exists_field_of_shaped (h : layout.Shaped shapes) (hnodup : (shapes.map (·.name)).Nodup)
    {s : FieldShape Shape} (hs : s ∈ shapes) :
    ∃ (α : Type) (f : Field ρ α), f.Shaped s ∧ ∀ d,
      layout.LetsIn .streamed (some s.name, d) ↔ ∃ a, f.codec.read .streamed d = .ok a := by
  suffices hfield : ∃ (α : Type) (f : Field ρ α), f.Shaped s ∧ ∀ d,
      layout.admits? .streamed s.name d = some ((f.codec.read .streamed d).map fun _ => ()) by
    obtain ⟨α, f, hf, hadmits⟩ := hfield
    refine ⟨α, f, hf, fun d => ?_⟩
    unfold LetsIn
    simp [hadmits, map_eq_ok_iff]
  induction layout generalizing shapes with
  | start make =>
    rw [Shaped] at h
    subst h
    cases hs
  | @field α κ before f ih =>
    obtain ⟨front, last, rfl, hbefore, hf⟩ := shaped_field_iff.1 h
    rw [List.map_append, List.nodup_append] at hnodup
    obtain ⟨hnodup, -, hnew⟩ := hnodup
    rcases List.mem_append.1 hs with hs | hs
    · obtain ⟨α', f', hf', hadmits⟩ := ih hbefore hnodup hs
      refine ⟨α', f', hf', fun d => ?_⟩
      -- The last field has another name.
      have hne : f.name ≠ s.name := by
        rw [hf.name_eq]
        exact (hnew s.name (List.mem_map_of_mem hs) last.name (by simp)).symm
      rw [admits?, if_neg hne, hadmits]
    · rw [List.mem_singleton.1 hs]
      exact ⟨α, f, hf, fun d => by rw [admits?, if_pos hf.name_eq]⟩

/-- What comes to be found for a field is let in if what was found before was. -/
theorem letsIn_of_alike (h : layout.Shaped shapes) (hnodup : (shapes.map (·.name)).Nodup)
    {s : FieldShape Shape} (hs : s ∈ shapes) {found found' : Option Document}
    (halike : s.Alike found found') (hfound : ∀ d ∈ found, layout.LetsIn .streamed (some s.name, d)) :
    ∀ d ∈ found', layout.LetsIn .streamed (some s.name, d) := by
  obtain ⟨α, f, hf, hlets⟩ := exists_field_of_shaped h hnodup hs
  cases halike with
  | same => exact hfound
  -- What is added is what would be read without it.
  | @added absent habsent =>
    rintro _ ⟨⟩
    obtain ⟨a, -, hread⟩ := hf.absent absent habsent
    exact (hlets absent).2 ⟨a, hread⟩
  | removed => exact fun _ hd => nomatch hd
  | @changed d d' hrespells =>
    rintro _ ⟨⟩
    obtain ⟨a, hread⟩ := (hlets d).1 (hfound d rfl)
    exact (hlets d').2 ⟨a, hf.steady d d' a hrespells hread⟩

/-! ### The member of one field

By reordering, the member that changes is brought to the front. -/

/-- The members with what is found for a field in front of them. -/
def headed (name : String) (found : Option Document) (ms : List (Option String × Document)) :
    List (Option String × Document) :=
  (found.map (some name, ·)).toList ++ ms

variable {name : String} {ms : List (Option String × Document)}

/-- Something is true of all members if it is true of the one in front, should there be one,
and of the others. -/
theorem forall_mem_headed_iff {found : Option Document} {P : Option String × Document → Prop} :
    (∀ m ∈ headed name found ms, P m) ↔ (∀ d ∈ found, P (some name, d)) ∧ ∀ m ∈ ms, P m := by
  cases found with
  | none => simp [headed]
  | some d =>
    show (∀ m ∈ (some name, d) :: ms, P m) ↔ _
    rw [List.forall_mem_cons]
    simp

/-- A member in front, of a name that no other has, gives no field twice. -/
theorem nodup_given_headed_iff (hmissing : some name ∉ ms.map Prod.fst)
    (found : Option Document) :
    (layout.given (headed name found ms)).Nodup ↔ (layout.given ms).Nodup := by
  cases found with
  | none => rfl
  | some d =>
    show (layout.given ((some name, d) :: ms)).Nodup ↔ _
    by_cases hname : name ∈ layout.names
    · rw [given_cons_of_mem hname, List.nodup_cons, mem_given_iff]
      simp only [hmissing, and_false, not_false_eq_true, true_and]
    · rw [given_cons_of_not_mem hname]

/-- A member in front is what is found under its name. -/
theorem member?_headed_self (hmissing : some name ∉ ms.map Prod.fst) (found : Option Document) :
    Document.member? (headed name found ms) name = found := by
  cases found with
  | none => exact member?_eq_none hmissing
  | some d => exact if_pos rfl

/-- Under other names the others are found. -/
theorem member?_headed_of_ne {other : String} (h : other ≠ name) (found : Option Document) :
    Document.member? (headed name found ms) other = Document.member? ms other := by
  cases found with
  | none => rfl
  | some d => exact if_neg fun heq => h (Option.some.inj heq).symm

/-- An object is read alike if the member in front is replaced by one that is alike, be it by none. -/
theorem read_headed_of_alike (h : layout.Shaped shapes) (hnodup : (shapes.map (·.name)).Nodup)
    {s : FieldShape Shape} (hs : s ∈ shapes) (hmissing : some s.name ∉ ms.map Prod.fst)
    {found found' : Option Document} (halike : s.Alike found found') {k : κ}
    (hread : layout.read .skipped .streamed (.object (headed s.name found ms)) = .ok k) :
    layout.read .skipped .streamed (.object (headed s.name found' ms)) = .ok k := by
  obtain ⟨hlets, honce, hgather⟩ := read_object_eq_ok_iff.1 hread
  rw [forall_mem_headed_iff] at hlets
  rw [nodup_given_headed_iff hmissing] at honce
  rw [read_object_eq_ok_iff, forall_mem_headed_iff, nodup_given_headed_iff hmissing]
  refine ⟨⟨letsIn_of_alike h hnodup hs halike hlets.1, hlets.2⟩, honce, ?_⟩
  refine gather_of_alike h (fun s' hs' => ?_) hgather
  by_cases hsame : s'.name = s.name
  · -- Names tell shapes apart, so this is the field that changes.
    obtain rfl : s' = s := List.inj_on_of_nodup_map hnodup hs' hs hsame
    rwa [member?_headed_self hmissing, member?_headed_self hmissing]
  · rw [member?_headed_of_ne hsame, member?_headed_of_ne hsame]
    exact .same _

/-- In an accepted record the member of a field is the only one of its name. -/
theorem missing_of_read {front back : List (Option String × Document)} {d : Document}
    (hname : name ∈ layout.names) {k : κ}
    (hread : layout.read .skipped form (.object ((some name, d) :: (front ++ back))) = .ok k) :
    some name ∉ (front ++ back).map Prod.fst := by
  obtain ⟨-, honce, -⟩ := read_object_eq_ok_iff.1 hread
  rw [given_cons_of_mem hname, List.nodup_cons, mem_given_iff] at honce
  exact fun hmem => honce.1 ⟨hname, hmem⟩

/-! ## Lists that stand for records -/

/-- A list is read if all its entries are taken. -/
theorem read_list_eq_ok_iff {items : List Document} {k : κ} :
    layout.read .skipped .streamed (.list items) = .ok k ↔
      layout.take .streamed items = .ok (k, []) := by
  rw [read, bind_eq_ok_iff]
  constructor
  · rintro ⟨⟨r, rest⟩, htake, hend⟩
    cases rest with
    | nil =>
      cases hend
      exact htake
    -- Entries that are left over are refused.
    | cons d rest => cases hend
  · intro htake
    exact ⟨(k, []), htake, rfl⟩

/-- A list is read alike if one entry is spelled in another way. -/
theorem read_list_of_place (h : layout.Shaped shapes) {front back : List Document}
    {s : FieldShape Shape} (hs : shapes[front.length]? = some s) {d d' : Document}
    (hrespells : s.shape.Respells d d') {k : κ}
    (hread : layout.read .skipped .streamed (.list (front ++ d :: back)) = .ok k) :
    layout.read .skipped .streamed (.list (front ++ d' :: back)) = .ok k := by
  rw [read_list_eq_ok_iff] at hread ⊢
  have halike : ∀ (i : Nat) (s' : FieldShape Shape), shapes[i]? = some s' →
      s'.Alike (front ++ d :: back)[i]? (front ++ d' :: back)[i]? := by
    intro i s' hs'
    by_cases hi : i = front.length
    · subst hi
      rw [hs] at hs'
      cases hs'
      simpa using .changed hrespells
    · -- At any other place stands what stood there before.
      have heq : (front ++ d :: back)[i]? = (front ++ d' :: back)[i]? := by
        grind
      rw [heq]
      exact .same _
  obtain ⟨hrest, htake⟩ := take_of_alike h halike hread
  have hlength : (front ++ d' :: back).length ≤ shapes.length := by
    have hlength := List.drop_eq_nil_iff.1 hrest.symm
    simpa using hlength
  rwa [List.drop_eq_nil_of_le hlength] at htake

/-! ## All changes -/

/-- **A record is read alike in every spelling** of which its fields are read alike. -/
theorem steady {layout : Layout ρ ρ} (h : layout.Shaped shapes)
    (hnodup : (shapes.map (·.name)).Nodup) : (layout.codec .skipped).Steady (.record shapes) := by
  intro d d' r hrespells hread
  -- Each change but the first is made at the front, and the order put back afterwards.
  cases hrespells with
  | reorder hperm => exact read_object_of_perm h hperm hread
  | insert hname hvalue =>
    have hfront := read_object_of_stranger h hname hvalue hread
    exact read_object_of_perm h List.perm_middle.symm hfront
  | remove hs habsent =>
    have hfront := read_object_of_perm h List.perm_middle hread
    have hmissing := missing_of_read (name_mem_names h hs) hfront
    exact read_headed_of_alike h hnodup hs hmissing (.removed habsent) hfront
  | add hs habsent hmissing =>
    have hfront := read_headed_of_alike h hnodup hs hmissing (.added habsent) hread
    exact read_object_of_perm h List.perm_middle.symm hfront
  | member hs hmember =>
    have hfront := read_object_of_perm h List.perm_middle hread
    have hmissing := missing_of_read (name_mem_names h hs) hfront
    have hchanged := read_headed_of_alike h hnodup hs hmissing (.changed hmember) hfront
    exact read_object_of_perm h List.perm_middle.symm hchanged
  | place hs hplace => exact read_list_of_place h hs hplace hread

end Layout

end InventoryProbe
