import InventoryProbe.Proofs.Binary64.Literal
import InventoryProbe.Proofs.Document.Layout
import InventoryProbe.Proofs.HardwareVersion
import InventoryProbe.Proofs.Timestamp
import InventoryProbe.Report.Format

/-!
# Judgements are read from reports

A finding is written as one object that holds its identifier beside the members of its judgement, and an
observation in it as a tag beside a value, whatever kind of value that is. The tag tells which kind to
read, and the names of the members tell the judgement from the identifier, so that a judgement on finite
numbers is read back from the report that it stands in.

* **`Observation.recovers_codec`**: observations of finite numbers are read from what is written for them.
* **`Finding.read_id`**, **`Finding.read_judgement`**: neither part of a finding is in the way of the other.
* **`Report.recovers_judgement`**: a judgement is read from the text of a report, and no other is written
  alike.
-/

namespace InventoryProbe

open Json (Writable)

/-! ## Kinds and severities -/

/-- A severity is read from its name. -/
@[simp] theorem Severity.faithful_codec : Severity.codec.Faithful :=
  Codec.faithful_choice fun a => by cases a <;> decide

/-- The kind of an object is read from its name. -/
@[simp] theorem ObjectKind.faithful_codec : ObjectKind.codec.Faithful :=
  Codec.faithful_choice fun a => by cases a <;> decide

theorem ObjectRef.lossless_layout : ObjectRef.layout.Lossless where
  fields := by simp [layout]
  nodup := by decide
  value _ := rfl

/-- An object is read from what is written for it. -/
@[simp] theorem ObjectRef.faithful_codec : ObjectRef.codec.Faithful := lossless_layout.faithful .skipped

/-! ## Observations -/

namespace Observation

variable {o : Observation}

/-- That no number is observed that is infinite or `nan`. -/
def IsFinite : Observation → Prop
  | .percent x | .days x | .gigabytes x => x.isFinite
  | .count _ | .version _ | .key _ | .status _ | .absent => True

theorem Tag.faithful_codec : Tag.codec.Faithful :=
  Codec.faithful_choice fun a => by cases a <;> decide

/-- The tag tells how the value is read. -/
theorem observation_tag (h : o.IsFinite) {value : Document} (hvalue : o.value? = some value)
    (form : Form) : o.tag.observation form value = .ok o := by
  cases o with
  | percent x | days x | gigabytes x =>
    rw [← Option.some.inj hvalue, tag, Tag.observation, Codec.recovers_number h form]
    rfl
  | count n =>
    rw [← Option.some.inj hvalue, tag, Tag.observation, Codec.faithful_word64.read_write]
    rfl
  | version v =>
    rw [← Option.some.inj hvalue, tag, Tag.observation, HardwareVersion.faithful_codec.read_write]
    rfl
  | key s | status s =>
    rw [← Option.some.inj hvalue]
    rfl
  -- Nothing is written beside the tag of what is absent.
  | absent => cases hvalue

/-- Only of what is absent no value is written. -/
theorem eq_absent_of_value? (h : o.value? = none) : o = .absent := by
  cases o with
  | absent => rfl
  | percent | count | days | gigabytes | version | key | status => cases h

/-- A tag in front is kept until the value comes. -/
theorem readAll_tag (form : Form) (t : Tag) (rest : List (Option String × Document)) :
    Draft.nothing.readAll form ((some "type", .text t.text) :: rest) = (Draft.tag t).readAll form rest := by
  have htag : Tag.codec.read form (.text t.text) = .ok t := Tag.faithful_codec.read_write form t
  simp only [Draft.readAll, Draft.read, htag]
  rfl

/-- An observation of a finite number is read from what is written for it. -/
theorem recovers_codec (h : o.IsFinite) : codec.Recovers o := by
  intro form
  unfold codec
  simp only [readAll_tag]
  cases hvalue : o.value? with
  | none =>
    cases eq_absent_of_value? hvalue
    rfl
  | some value =>
    simp only [Option.map_some, Option.toList_some, Draft.readAll, Draft.read,
      observation_tag h hvalue form]
    rfl

/-- The value of an observation can be written down. -/
theorem writable_of_value? {value : Document} (h : o.value? = some value) : Writable value := by
  cases o with
  | percent x | days x | gigabytes x => exact Option.some.inj h ▸ Codec.legible_number x
  | count n => exact Option.some.inj h ▸ Codec.faithful_word64.legible n
  | version v => exact Option.some.inj h ▸ HardwareVersion.faithful_codec.legible v
  | key s | status s => exact Option.some.inj h ▸ .text s
  | absent => cases h

/-- An observation can be written down, whatever was observed. -/
@[simp] theorem legible_codec : codec.Legible := by
  intro o
  refine Json.writable_object_iff.2 (List.forall_mem_cons.2 ⟨⟨rfl, .text _⟩, fun m hm => ?_⟩)
  obtain ⟨value, hvalue, rfl⟩ := Option.map_eq_some_iff.1 (Option.mem_toList.1 hm)
  exact ⟨rfl, writable_of_value? hvalue⟩

end Observation

/-! ## Judgements -/

namespace Judgement

variable {j : Judgement}

/-- A judgement on a finite number is read back field by field. -/
theorem recovers_layout (h : j.observed.IsFinite) : layout.Recovers j := by
  simp [layout, Observation.recovers_codec h, Codec.Faithful.recovers]

/-- Whatever was observed, a judgement can be written down. -/
theorem legible_layout : layout.Legible := by
  simp [layout, Codec.Faithful.legible]

theorem nodup_names_layout : layout.names.Nodup := by decide

/-- A judgement on a finite number is read from what is written for it. -/
theorem recovers_codec (h : j.observed.IsFinite) : codec.Recovers j :=
  (Layout.holds_members layout nodup_names_layout .skipped j).read (recovers_layout h) nodup_names_layout

theorem legible_codec : codec.Legible := Layout.legible_codec legible_layout .skipped

end Judgement

/-! ## Findings -/

namespace Finding

variable {f : Finding}

/-- The members that are written for a finding. -/
def members (f : Finding) : List (Option String × Document) :=
  idLayout.members f ++ Judgement.layout.members f.judgement

theorem legible_idLayout : idLayout.Legible := by simp [idLayout, Codec.Faithful.legible]

theorem legible_codec : codec.Legible := fun f =>
  Json.writable_object_iff.2 <| List.forall_mem_append.2
    ⟨Layout.writable_members legible_idLayout f,
      Layout.writable_members Judgement.legible_layout f.judgement⟩

/-- The identifier is read from the members of a finding. -/
theorem read_id (form : Form) (f : Finding) : idLayout.read .kept form (.object f.members) = .ok f.id := by
  have hholds : Layout.Holds f.members idLayout .kept f :=
    .of_perm (.refl _) (by decide) Judgement.legible_layout (by decide)
  exact hholds.read (by simp [idLayout, Codec.Faithful.recovers]) (by decide) form

theorem read_judgement (h : f.judgement.observed.IsFinite) (form : Form) :
    Judgement.codec.read form (.object f.members) = .ok f.judgement := by
  have hholds : Layout.Holds f.members Judgement.layout .skipped f.judgement :=
    .of_perm List.perm_append_comm (by decide) legible_idLayout (by decide)
  exact hholds.read (Judgement.recovers_layout h) Judgement.nodup_names_layout form

/-- A finding of a finite number is read from what is written for it. -/
theorem recovers_codec (h : f.judgement.observed.IsFinite) : codec.Recovers f := by
  intro form
  -- Both readers go through all members of the finding.
  show (idLayout.read .kept form (.object f.members)).bind (fun id =>
    (Judgement.codec.read .held (.object f.members)).map (⟨id, ·⟩)) = .ok f
  rw [read_id, read_judgement h]
  rfl

end Finding

/-! ## Reports -/

namespace Judgement

/-- Among the members of an object, those that are named after a field of judgements. -/
def ownMembers (ms : List (Option String × Document)) : List (Option String × Document) :=
  ms.filter fun m => m.1 ∈ layout.names.map some

/-- The members that are named as fields of a judgement are those of the judgement. -/
theorem ownMembers_members (f : Finding) : ownMembers f.members = layout.members f.judgement := by
  have hid : ownMembers (Finding.idLayout.members f) = [] := rfl
  have hown : ownMembers (layout.members f.judgement) = layout.members f.judgement := rfl
  unfold Finding.members
  rw [ownMembers, List.filter_append]
  exact (congrArg₂ _ hid hown).trans (List.nil_append _)

end Judgement

namespace Report

theorem legible_codec : codec.Legible :=
  Layout.legible_codec (by simp [layout, Codec.Faithful.legible, Codec.legible_count,
    Finding.legible_codec.list]) .skipped

/-- The members of the finding at a place of a report's text. -/
def findingMembers? (source : String) (i : Nat) : Option (List (Option String × Document)) :=
  match Json.read source.toList with
  | (.object members, true) =>
    match Document.member? members "findings" with
    | some (.list findings) =>
      match findings[i]? with
      | some (.object ms) => some ms
      | _ => none
    | _ => none
  | _ => none

/-- The text of a report is a document. -/
theorem read_json (r : Report) : Json.read r.json.toList = (codec.write r, true) := by
  unfold json Json.write
  rw [String.toList_ofList]
  exact Json.read_writeAt Json.Spacing.blank_indented (legible_codec r)

/-- Each finding is found at its place in the text of a report. -/
theorem findingMembers?_json (r : Report) (i : Nat) :
    findingMembers? r.json i = r.findings[i]?.map Finding.members := by
  have hfindings : Document.member? (layout.members r) "findings"
      = some (.list (r.findings.map Finding.codec.write)) := rfl
  unfold findingMembers?
  rw [read_json]
  simp only [codec, Layout.codec, hfindings, List.getElem?_map]
  cases r.findings[i]? with
  | none => rfl
  | some f => rfl

/-- **A judgement is read back from the report that it stands in.** As long as no number was observed that
is not finite, the members of a finding that are named after a judgement's fields are read as that
judgement, in whatever form they are at hand, and the finding as a whole is read as that finding. So
judgements that differ are never written alike, in this report or in two. Numbers are read as
`Codec.number` reads them, to the last digit: a reader that does not give a finite double back as it was
written gives back another observation. -/
theorem recovers_judgement (r : Report) {i : Nat} {f : Finding} (hf : r.findings[i]? = some f)
    (hfinite : f.judgement.observed.IsFinite) :
    ∃ ms, findingMembers? r.json i = some ms ∧
      (Judgement.ownMembers ms).map Prod.fst
        = [some "object", some "observed", some "severity", some "reason"] ∧
      (∀ form, Judgement.codec.read form (.object (Judgement.ownMembers ms)) = .ok f.judgement) ∧
      (∀ form, Finding.codec.read form (.object ms) = .ok f) ∧
      ∀ (s : Report) {k : Nat} {g : Finding} {ms' : List (Option String × Document)},
        s.findings[k]? = some g → g.judgement.observed.IsFinite → findingMembers? s.json k = some ms' →
        Json.write .indented (.object (Judgement.ownMembers ms'))
          = Json.write .indented (.object (Judgement.ownMembers ms)) → g.judgement = f.judgement := by
  have hms (r : Report) {i : Nat} {f : Finding} (hf : r.findings[i]? = some f) :
      findingMembers? r.json i = some f.members := by
    rw [findingMembers?_json, hf]
    rfl
  have hown (f : Finding) :
      Document.object (Judgement.ownMembers f.members) = Judgement.codec.write f.judgement :=
    congrArg Document.object (Judgement.ownMembers_members f)
  have hread := Judgement.recovers_codec hfinite
  refine ⟨f.members, hms r hf, rfl, ?_, Finding.recovers_codec hfinite, ?_⟩
  · rw [hown]
    exact hread
  · intro s k g ms' hg hgfinite hms' halike
    cases (hms s hg).symm.trans hms'
    rw [hown, hown] at halike
    have hwritten := (Judgement.legible_codec g.judgement).eq_of_write_eq Json.Spacing.blank_indented
      (Judgement.legible_codec f.judgement) halike
    -- One text is read as either of them.
    have hreadg := Judgement.recovers_codec hgfinite .whole
    rw [hwritten, hread] at hreadg
    exact (Except.ok.inj hreadg).symm

/-- A number that is not finite is written as nothing is, and so is no number to its reader. -/
example : Observation.codec.read .whole (Observation.codec.write (.percent .nan)) = .error .malformed :=
  rfl

/-! ## A datastore of which two thirds are used -/

/-- A datastore of which two thirds are used. -/
def usedDatastore : Judgement :=
  ⟨⟨.percent (.percentage 2 3), .warning, "usage 66.67%"⟩, ⟨.datastore, "ds-1", "ssd"⟩⟩

/-- The report on it alone. -/
def usageReport : Report where
  check := "datastore-usage"
  state := .warning
  summary := "1 warning of 1 objects evaluated by check 'datastore-usage'"
  collectedAt := none
  evaluated := 1
  findings := [⟨FindingId.of "datastore-usage" usedDatastore.object, usedDatastore⟩]

/-- Two thirds have no end in decimals, and are read back. -/
theorem usageReport_recovers :
    ∃ ms, findingMembers? usageReport.json 0 = some ms ∧
      ∀ form, Judgement.codec.read form (.object (Judgement.ownMembers ms)) = .ok usedDatastore := by
  have hfinite : (Binary64.percentage 2 3).isFinite := by decide +kernel
  obtain ⟨ms, hms, -, hread, -⟩ := recovers_judgement usageReport (i := 0) rfl hfinite
  exact ⟨ms, hms, hread⟩

end Report

end InventoryProbe
