import InventoryProbe.Proofs.Document.Codec
import Mathlib.Data.List.Nodup

/-!
# Records are read from what is written for them

The members that a layout writes are named after its fields, one member for each. Where no two
fields share a name, each member is let in as one of its field, and each field finds its own member
again.

* **`Holds.scan`**: no member that was written is at fault, nor is any that is passed over.
* **`gather_members`**: every field has the value that was written for it.
* **`Holds.read`**, **`Holds.of_perm`**: so the values of the fields are read back, whatever else the object
  holds, such as the members of another record.
* **`Lossless.faithful`**: so is a record that is made of its own fields.
-/

namespace InventoryProbe

/-! ## Finding members -/

namespace Document

variable {front back : List (Option String × Document)} {name : String}

/-- A member is looked for behind those that have another name. -/
theorem member?_append_of_not_mem (h : some name ∉ front.map Prod.fst) :
    member? (front ++ back) name = member? back name := by
  induction front with
  | nil => rfl
  | cons m rest ih =>
    rw [List.map_cons, List.mem_cons, not_or] at h
    rw [List.cons_append, member?, if_neg (Ne.symm h.1), ih h.2]

/-- Each member is found by its name, where no two share one. -/
theorem member?_of_mem {ms : List (Option String × Document)} {d : Document}
    (hnodup : (ms.map Prod.fst).Nodup) (h : (some name, d) ∈ ms) : member? ms name = some d := by
  obtain ⟨front, back, rfl⟩ := List.append_of_mem h
  rw [List.map_append, List.map_cons, List.nodup_append] at hnodup
  have hfront : some name ∉ front.map Prod.fst := fun hmem =>
    hnodup.2.2 _ hmem _ List.mem_cons_self rfl
  rw [member?_append_of_not_mem hfront]
  exact if_pos rfl

end Document

namespace Layout

open Json (Writable)

variable {ρ α κ : Type}

/-! ## Fields -/

/-- That every field is read from what is written for it. -/
def Faithful {κ : Type} : Layout ρ κ → Prop
  | .start _ => True
  | .field before f => before.Faithful ∧ f.codec.Faithful

/-- A layout without fields is faithful. -/
@[simp] theorem faithful_start (make : κ) : (start make : Layout ρ κ).Faithful := trivial

/-- A layout is faithful if its fields are. -/
@[simp] theorem faithful_required {before : Layout ρ (α → κ)} {name : String} {c : Codec α}
    {get : ρ → α} : (before.required name c get).Faithful ↔ before.Faithful ∧ c.Faithful := Iff.rfl

/-- A default for a field takes no part in being faithful. -/
@[simp] theorem faithful_defaulted {before : Layout ρ (α → κ)} {name : String} {c : Codec α}
    {absent : α} {get : ρ → α} :
    (before.defaulted name c absent get).Faithful ↔ before.Faithful ∧ c.Faithful := Iff.rfl

/-- A field that may be missing must be told from one that is. -/
@[simp] theorem faithful_optional {before : Layout ρ (Option α → κ)} {name : String} {c : Codec α}
    {get : ρ → Option α} :
    (before.optional name c get).Faithful ↔ before.Faithful ∧ c.optional.Faithful := Iff.rfl

/-- That every field of a record is read from what is written for it. -/
def Recovers {κ : Type} (record : ρ) : Layout ρ κ → Prop
  | .start _ => True
  | .field before f => before.Recovers record ∧ f.codec.Recovers (f.get record)

/-- A layout without fields reads back everything. -/
@[simp] theorem recovers_start {record : ρ} (make : κ) : (start make : Layout ρ κ).Recovers record :=
  trivial

/-- A record is read back if each of its fields is. -/
@[simp] theorem recovers_required {record : ρ} {before : Layout ρ (α → κ)} {name : String}
    {c : Codec α} {get : ρ → α} :
    (before.required name c get).Recovers record ↔ before.Recovers record ∧ c.Recovers (get record) :=
  Iff.rfl

/-- A faithful layout reads back every record. Induction on the fields. -/
theorem Faithful.recovers {layout : Layout ρ κ} (h : layout.Faithful) (record : ρ) :
    layout.Recovers record := by
  induction layout with
  | start make => trivial
  | field before f ih => exact ⟨ih h.1, h.2.recovers _⟩

/-- That whatever is written for a field can be written as text. -/
def Legible {κ : Type} : Layout ρ κ → Prop
  | .start _ => True
  | .field before f => before.Legible ∧ f.codec.Legible

/-- A layout without fields can be written down. -/
@[simp] theorem legible_start (make : κ) : (start make : Layout ρ κ).Legible := trivial

/-- A layout can be written down if its fields can. -/
@[simp] theorem legible_required {before : Layout ρ (α → κ)} {name : String} {c : Codec α}
    {get : ρ → α} : (before.required name c get).Legible ↔ before.Legible ∧ c.Legible := Iff.rfl

/-- A field that may be missing can be written down if what it holds can. -/
@[simp] theorem legible_optional {before : Layout ρ (Option α → κ)} {name : String} {c : Codec α}
    {get : ρ → Option α} :
    (before.optional name c get).Legible ↔ before.Legible ∧ c.optional.Legible := Iff.rfl

/-- A faithful layout can be written down. Induction on the fields. -/
theorem Faithful.legible {layout : Layout ρ κ} (h : layout.Faithful) : layout.Legible := by
  induction layout with
  | start make => trivial
  | field before f ih => exact ⟨ih h.1, h.2.legible⟩

/-- What a layout makes of the fields of a record. -/
def value {κ : Type} (record : ρ) : Layout ρ κ → κ
  | .start make => make
  | .field before f => before.value record (f.get record)

/-- The members of a record have the names of the fields, in order. -/
theorem map_fst_members (record : ρ) (layout : Layout ρ κ) :
    (layout.members record).map Prod.fst = layout.names.map some := by
  induction layout with
  | start make => rfl
  | field before f ih =>
    rw [members, names, List.map_append, List.map_append, ih]
    rfl

/-- Each member has the name of a field. -/
theorem exists_name_of_mem_members {record : ρ} {layout : Layout ρ κ}
    {m : Option String × Document} (h : m ∈ layout.members record) :
    ∃ name ∈ layout.names, m.1 = some name := by
  have hname := List.mem_map_of_mem (f := Prod.fst) h
  rw [map_fst_members] at hname
  obtain ⟨name, hmem, heq⟩ := List.mem_map.1 hname
  exact ⟨name, hmem, heq.symm⟩

/-- The members of a record have names, and can be written down. -/
theorem writable_members {layout : Layout ρ κ} (h : layout.Legible) (record : ρ) :
    ∀ m ∈ layout.members record, m.1.isSome ∧ Writable m.2 := by
  induction layout with
  | start make => exact fun m hm => nomatch hm
  | field before f ih =>
    intro m hm
    rcases List.mem_append.1 hm with hbefore | hlast
    · exact ih h.1 m hbefore
    · rw [List.mem_singleton.1 hlast]
      exact ⟨rfl, h.2 _⟩

/-! ## Scanning -/

/-- Every member that is written for a record is one of its own field. -/
theorem admits?_of_mem_members {layout : Layout ρ κ} {record : ρ} (h : layout.Recovers record)
    (hnodup : layout.names.Nodup) {name : String} {d : Document}
    (hm : (some name, d) ∈ layout.members record) (form : Form) :
    layout.admits? form name d = some (.ok ()) := by
  induction layout with
  | start make => cases hm
  | field before f ih =>
    rw [names, List.nodup_append] at hnodup
    obtain ⟨hnodup, -, hnew⟩ := hnodup
    rcases List.mem_append.1 hm with hbefore | hlast
    · -- The member is of a field before, so the last field has another name.
      obtain ⟨own, hown, heq⟩ := exists_name_of_mem_members hbefore
      cases heq
      rw [admits?, if_neg (hnew name hown f.name (List.mem_singleton.2 rfl)).symm]
      exact ih h.1 hnodup hbefore
    · cases List.mem_singleton.1 hlast
      rw [admits?, if_pos rfl, h.2 form]
      rfl

/-- A member is a stranger exactly if no field has its name. -/
theorem admits?_eq_none_iff {layout : Layout ρ κ} {form : Form} {name : String} {d : Document} :
    layout.admits? form name d = none ↔ name ∉ layout.names := by
  induction layout with
  | start make => simp [admits?, names]
  | field before f ih =>
    rw [admits?, names, List.mem_append, List.mem_singleton]
    by_cases hname : f.name = name
    · simp [hname]
    · rw [if_neg hname, ih]
      simp [Ne.symm hname]

/-- Members that are let in or passed over, of which no two have one name, are scanned to the end. -/
theorem scan_of_admits? {layout : Layout ρ κ} {strangers : Strangers} {form : Form}
    {ms : List (Option String × Document)} {seen : List String}
    (hms : ∀ m ∈ ms, ∃ name, m.1 = some name ∧ name ∉ seen ∧
      (layout.admits? form name m.2 = some (.ok ()) ∨
        layout.admits? form name m.2 = none ∧ strangers ≠ .refused ∧ Writable m.2))
    (hnodup : (ms.map Prod.fst).Nodup) : layout.scan strangers form seen ms = .ok () := by
  induction ms generalizing seen with
  | nil => rfl
  | cons m rest ih =>
    obtain ⟨key, d⟩ := m
    obtain ⟨name, rfl, hunseen, hadmits⟩ := hms _ List.mem_cons_self
    rw [List.map_cons, List.nodup_cons] at hnodup
    obtain ⟨hnew, hnodup⟩ := hnodup
    have hrest (later : List String) (hlater : ∀ x ∈ later, x = name ∨ x ∈ seen) :
        layout.scan strangers form later rest = .ok () := by
      refine ih (fun m hm => ?_) hnodup
      obtain ⟨other, hother, hunseen', hadmits'⟩ := hms m (List.mem_cons_of_mem _ hm)
      refine ⟨other, hother, fun hmem => ?_, hadmits'⟩
      rcases hlater other hmem with rfl | hseen
      · -- The name that was just seen does not come again.
        exact hnew (List.mem_map.2 ⟨m, hm, hother⟩)
      · exact hunseen' hseen
    rcases hadmits with hadmits | ⟨hnone, hpassed, hwritable⟩
    · simp only [scan, hadmits, hunseen, if_false]
      exact hrest (name :: seen) fun x hx => List.mem_cons.1 hx
    · have hseen := hrest seen fun x hx => .inr hx
      cases strangers with
      | skipped => simp only [scan, hnone, hwritable.isComplete, if_true, hseen]
      | kept => simp only [scan, hnone, hwritable.isReadable, if_true, hseen]
      | refused => exact absurd rfl hpassed

/-- That an object holds the members of a record, each name once, and beside them nothing that is at fault
where it is passed over. -/
structure Holds (ms : List (Option String × Document)) (layout : Layout ρ κ) (strangers : Strangers)
    (record : ρ) : Prop where
  nodup : (ms.map Prod.fst).Nodup
  members : ∀ m ∈ layout.members record, m ∈ ms
  others : ∀ m ∈ ms, m ∈ layout.members record ∨
    (∃ name ∉ layout.names, m.1 = some name) ∧ strangers ≠ .refused ∧ Writable m.2

section Holds

variable {ms : List (Option String × Document)} {layout : Layout ρ κ} {strangers : Strangers}
  {record : ρ}

/-- Members that hold a record pass the scan, in any order and with strangers among them. -/
theorem Holds.scan (hms : Holds ms layout strangers record) (h : layout.Recovers record)
    (hnodup : layout.names.Nodup) (form : Form) : layout.scan strangers form [] ms = .ok () := by
  refine scan_of_admits? (fun m hm => ?_) hms.nodup
  -- A member belongs to a field, or is a stranger and has a name that no field has.
  rcases hms.others m hm with hown | ⟨⟨name, hname, hkey⟩, hother⟩
  · obtain ⟨name, -, hkey⟩ := exists_name_of_mem_members hown
    obtain ⟨key, d⟩ := m
    cases hkey
    exact ⟨name, rfl, List.not_mem_nil, .inl (admits?_of_mem_members h hnodup hown form)⟩
  · exact ⟨name, hkey, List.not_mem_nil, .inr ⟨admits?_eq_none_iff.2 hname, hother⟩⟩

/-! ## Gathering -/

/-- Each field finds its own member. -/
theorem gather_members {find : String → Option Document} (h : layout.Recovers record) (form : Form)
    (hfind : ∀ name d, (some name, d) ∈ layout.members record → find name = some d) :
    layout.gather form find = .ok (layout.value record) := by
  induction layout with
  | start make => rfl
  | field before f ih =>
    -- The fields are read in front to back, the last one beside those before it.
    have hbefore := ih h.1 fun name d hmem => hfind name d (List.mem_append_left _ hmem)
    have hlast := hfind f.name _ (List.mem_append_right _ (List.mem_singleton.2 rfl))
    rw [gather, hlast, hbefore]
    have hread := h.2 form
    simp only [hread]
    rfl

/-- The values of the fields are read back from their members, whatever else the object holds. -/
theorem Holds.read (hms : Holds ms layout strangers record) (h : layout.Recovers record)
    (hnodup : layout.names.Nodup) (form : Form) :
    layout.read strangers form (.object ms) = .ok (layout.value record) := by
  have hgather := gather_members h form fun name d hmem =>
    Document.member?_of_mem hms.nodup (hms.members _ hmem)
  simp only [Layout.read, hms.scan h hnodup form]
  exact hgather

/-- The members that are written for a record hold it. -/
theorem holds_members (layout : Layout ρ κ) (hnodup : layout.names.Nodup) (strangers : Strangers)
    (record : ρ) : Holds (layout.members record) layout strangers record where
  nodup := by
    rw [map_fst_members]
    exact hnodup.map fun _ _ => Option.some.inj
  members _ hm := hm
  others _ hm := .inl hm

/-- The members of another record are passed over. -/
theorem Holds.of_perm {σ κ' : Type} {other : Layout σ κ'} {beside : σ}
    (hms : ms.Perm (layout.members record ++ other.members beside))
    (hnodup : (layout.names ++ other.names).Nodup) (hother : other.Legible)
    (hpassed : strangers ≠ .refused) : Holds ms layout strangers record where
  -- The names of both layouts differ, so that no member of the one is taken for one of the other.
  nodup := by
    rw [(hms.map Prod.fst).nodup_iff, List.map_append, map_fst_members, map_fst_members,
      ← List.map_append]
    exact hnodup.map fun _ _ => Option.some.inj
  members m hm := hms.mem_iff.2 (List.mem_append_left _ hm)
  others m hm := by
    rcases List.mem_append.1 (hms.mem_iff.1 hm) with hown | hforeign
    · exact .inl hown
    · obtain ⟨name, hname, hkey⟩ := exists_name_of_mem_members hforeign
      have hnot : name ∉ layout.names := fun hmem => List.disjoint_of_nodup_append hnodup hmem hname
      exact .inr ⟨⟨name, hnot, hkey⟩, hpassed, (writable_members hother beside m hforeign).2⟩

end Holds

/-! ## Records -/

/-- That the fields of a record have names of their own, are read from what is written for them,
and make the record. -/
structure Lossless (layout : Layout ρ ρ) : Prop where
  fields : layout.Faithful
  nodup : layout.names.Nodup
  value : ∀ record, layout.value record = record

theorem legible_codec {layout : Layout ρ ρ} (h : layout.Legible) (strangers : Strangers) :
    (layout.codec strangers).Legible :=
  fun record => Json.writable_object_iff.2 (writable_members h record)

/-- A lossless layout makes a faithful codec. -/
theorem Lossless.faithful {layout : Layout ρ ρ} (h : layout.Lossless) (strangers : Strangers) :
    (layout.codec strangers).Faithful where
  read_write form record := by
    have hread := (holds_members layout h.nodup strangers record).read (h.fields.recovers record)
      h.nodup form
    rwa [h.value] at hread
  writable := legible_codec h.fields.legible strangers

end Layout

end InventoryProbe
