import InventoryProbe.Proofs.Report.Accounts
import InventoryProbe.Proofs.Text.Lines

/-!
# The lines of a report

The text of a report is meant to have one line for each item, by which a supervisor reads it. Names,
identifiers and reasons are put into it as an inventory gives them, and those that have a line feed break
the lines.

* **`LinePerItem`**: that a text has the lines that it is meant to have.
* **`Outcome.quoted`**: the texts that go into a report unchanged.
* **`linePerItem_ofOutcome_iff`**: the lines are as they should be exactly if no quoted text has a line
  feed, and every line feed in them makes one more line.
-/

namespace InventoryProbe

open Text (feeds feeds_append)

/-! ## Quoted texts -/

/-- The texts that are quoted for an observation. -/
def Observation.quoted : Observation → List String
  | .key k => [k]
  | .status s => [s]
  | .percent _ | .count _ | .days _ | .gigabytes _ | .version _ | .absent => []

/-- The texts that are quoted for a judgement. -/
def Judgement.quoted (j : Judgement) : List String :=
  j.object.name :: j.object.id :: j.reason :: j.observed.quoted

/-- The texts that are quoted in the report of an outcome: its check, and those for the judgements that it
shows. -/
def Outcome.quoted (o : Outcome) : List String :=
  o.check :: (o.judgements.filter (·.severity ≠ .ok)).flatMap Judgement.quoted

/-- The line feeds in the quoted texts. -/
def Outcome.quotedFeeds (o : Outcome) : Nat := (o.quoted.map feeds).sum

/-- An outcome quotes no line feed exactly if none of the texts that it quotes has one. -/
theorem Outcome.quotedFeeds_eq_zero_iff {o : Outcome} :
    o.quotedFeeds = 0 ↔ ∀ s ∈ o.quoted, '\n' ∉ s.toList := by
  unfold quotedFeeds
  rw [List.sum_eq_zero_iff_forall_eq_nat, List.forall_mem_map]
  simp only [Text.feeds_eq_zero_iff]

/-! ## Line feeds of a text

What is not quoted is written without a line feed. -/

/-- The name of a severity takes one line. -/
@[simp] theorem feeds_severity (s : Severity) : feeds s.text = 0 := by
  cases s <;> decide

/-- The name of a kind takes one line. -/
@[simp] theorem feeds_kind (kind : ObjectKind) : feeds kind.text = 0 := by
  cases kind <;> decide

/-- An object brings the line feeds of its name and of its identifier. -/
theorem feeds_object (object : ObjectRef) :
    feeds object.text = feeds object.name + feeds object.id := by
  have hopen : feeds " '" = 0 := by decide
  have hid : feeds "' (" = 0 := by decide
  have hclose : feeds ")" = 0 := by decide
  unfold ObjectRef.text
  simp only [feeds_append, feeds_kind, hopen, hid, hclose, Nat.zero_add, Nat.add_zero]

/-- An observation brings those of the text it quotes, if it quotes any. -/
theorem feeds_observation (observed : Observation) :
    feeds observed.text = (observed.quoted.map feeds).sum := by
  cases observed with
  | percent x =>
    have hunit : feeds "%" = 0 := by decide
    simp [Observation.text, Observation.quoted, hunit]
  | count n => simp [Observation.text, Observation.quoted]
  | days x =>
    have hunit : feeds " days" = 0 := by decide
    simp [Observation.text, Observation.quoted, hunit]
  | gigabytes x =>
    have hunit : feeds " GB" = 0 := by decide
    simp [Observation.text, Observation.quoted, hunit]
  | version v => simp [Observation.text, Observation.quoted]
  | key k =>
    have hopen : feeds "key '" = 0 := by decide
    have hclose : feeds "'" = 0 := by decide
    simp [Observation.text, Observation.quoted, hopen, hclose]
  | status s => simp [Observation.text, Observation.quoted]
  | absent => decide

/-- A judgement brings those of everything that it quotes. -/
theorem feeds_judgement (j : Judgement) : feeds j.text = (j.quoted.map feeds).sum := by
  have hopen : feeds "[" = 0 := by decide
  have hseverity : feeds "] " = 0 := by decide
  have hobject : feeds ": " = 0 := by decide
  have hobserved : feeds " (observed: " = 0 := by decide
  have hclose : feeds ")" = 0 := by decide
  unfold Judgement.text Judgement.quoted
  simp only [feeds_append, feeds_severity, feeds_object, feeds_observation, hopen, hseverity, hobject,
    hobserved, hclose, List.map_cons, List.sum_cons]
  omega

namespace Report

variable {o : Outcome}

/-- Of a summary only the name of the check may have any. -/
theorem feeds_summarize (o : Outcome) : feeds (summarize o) = feeds o.check := by
  have hof : feeds " of " = 0 := by decide
  have hcheck : feeds " objects evaluated by check '" = 0 := by decide
  have hclose : feeds "'" = 0 := by decide
  have hwell : feeds "' are within thresholds" = 0 := by decide
  -- The counts are numbers and names of severities with commas between them.
  have hcounts : feeds (String.intercalate ", " (countTexts o)) = 0 := by
    have hcomma : feeds ", " = 0 := by decide
    have hblank : feeds " " = 0 := by decide
    rw [Text.feeds_intercalate, hcomma, Nat.mul_zero, Nat.zero_add, List.sum_eq_zero_iff_forall_eq_nat]
    unfold countTexts
    rw [List.map_map, List.forall_mem_map]
    intro s _
    simp [hblank]
  unfold summarize
  split <;> simp [hof, hcheck, hclose, hwell, hcounts]

/-- The order in which findings are shown makes no difference to their line feeds. -/
theorem sum_feeds_findings (o : Outcome) :
    ((findingsOf o).map fun f => feeds ("* " ++ f.judgement.text)).sum
      = (((o.judgements.filter (·.severity ≠ .ok)).flatMap Judgement.quoted).map feeds).sum := by
  have hstar : feeds "* " = 0 := by decide
  have hlines : (findingsOf o).map (fun f => feeds ("* " ++ f.judgement.text))
      = ((findingsOf o).map (·.judgement)).map fun j => (j.quoted.map feeds).sum := by
    rw [List.map_map]
    apply List.map_congr_left
    intro f _
    rw [feeds_append, hstar, Nat.zero_add, feeds_judgement]
    rfl
  -- The findings stand in another order than the judgements, which makes no difference to a sum.
  rw [hlines, ((shows_findingsOf o).perm.map _).sum_nat, List.map_flatMap, List.flatMap_def,
    List.sum_flatten, List.map_map]
  rfl

/-! ## Lines -/

/-- That the text of a report has a line for each item and no other: the state with the summary, the
findings in their order, each behind its severity, and if any object was judged, the number of those that
are well. -/
def LinePerItem (r : Report) : Prop :=
  ∃ items : List String,
    Text.lines r.text
      = (r.state.text ++ ": " ++ r.summary) :: items
        ++ (if r.evaluated = 0 then []
            else [toString (r.evaluated - r.findings.length) ++ " object(s) OK"]) ∧
    List.Forall₂ (fun line f => ∃ rest, line = "* [" ++ f.judgement.severity.text ++ "]" ++ rest)
      items r.findings

/-- The number of items that a report has a line for. -/
def items (r : Report) : Nat := 1 + r.findings.length + if r.evaluated = 0 then 0 else 1

/-- With a line for each item there are as many lines as items. -/
theorem LinePerItem.length_lines {r : Report} (h : r.LinePerItem) :
    (Text.lines r.text).length = r.items := by
  obtain ⟨lines, hlines, hitems⟩ := h
  have hlength := hitems.length_eq
  rw [hlines, items, List.length_append, List.length_cons, hlength, apply_ite List.length,
    List.length_nil, List.length_singleton, Nat.add_comm 1]

/-- A report of an outcome has the lines of its items, before they are joined. -/
theorem lines_ofOutcome (o : Outcome) (collectedAt : Timestamp) :
    (ofOutcome o collectedAt).lines
      = (o.overall.text ++ ": " ++ summarize o)
        :: (findingsOf o).map (fun f => "* " ++ f.judgement.text)
        ++ (if o.judgements.length = 0 then []
            else [toString (o.judgements.length - (findingsOf o).length) ++ " object(s) OK"]) := by
  -- Where nothing was judged there is no finding either, so that one of the two conditions is enough.
  have hlast : ((findingsOf o).isEmpty && o.judgements.length == 0) = true
      ↔ o.judgements.length = 0 := by
    rw [Bool.and_eq_true, beq_iff_eq, and_iff_right_iff_imp, List.isEmpty_iff]
    intro hzero
    rw [← List.length_eq_zero_iff, length_findingsOf, length_findings,
      List.eq_nil_of_length_eq_zero hzero]
    rfl
  unfold lines
  show _ ++ (if ((findingsOf o).isEmpty && o.judgements.length == 0) = true then _ else _) = _
  simp only [hlast]
  rfl

/-- All line feeds within the lines of a report are quoted ones. -/
theorem sum_feeds_lines (o : Outcome) (collectedAt : Timestamp) :
    ((ofOutcome o collectedAt).lines.map feeds).sum = o.quotedFeeds := by
  have hcolon : feeds ": " = 0 := by decide
  have hwell : feeds " object(s) OK" = 0 := by decide
  have hlast : ((if o.judgements.length = 0 then []
      else [toString (o.judgements.length - (findingsOf o).length) ++ " object(s) OK"]).map
        feeds).sum = 0 := by
    split <;> simp [hwell]
  rw [lines_ofOutcome, List.map_append, List.sum_append, hlast, List.map_cons, List.sum_cons,
    List.map_map, Nat.add_zero]
  unfold Outcome.quotedFeeds Outcome.quoted
  rw [List.map_cons, List.sum_cons, ← sum_feeds_findings, feeds_append, feeds_append, feeds_summarize,
    hcolon, feeds_severity, Nat.zero_add]
  rfl

/-- Every line feed in a quoted text makes one more line. -/
theorem length_lines_ofOutcome (o : Outcome) (collectedAt : Timestamp) :
    (Text.lines (ofOutcome o collectedAt).text).length
      = (ofOutcome o collectedAt).items + o.quotedFeeds := by
  have hlength : (ofOutcome o collectedAt).lines.length = (ofOutcome o collectedAt).items := by
    rw [lines_ofOutcome, List.length_append, List.length_cons, List.length_map, apply_ite List.length,
      List.length_nil, List.length_singleton, Nat.add_comm (findingsOf o).length]
    rfl
  have hfeed : feeds "\n" = 1 := by decide
  have hpositive : 0 < (ofOutcome o collectedAt).items := by
    unfold items
    omega
  -- Between the lines there is a line feed, and the other ones are quoted.
  unfold text
  rw [Text.length_lines, Text.feeds_intercalate, hfeed, sum_feeds_lines, hlength]
  omega

/-- Where none is quoted there is a line for each item. -/
theorem linePerItem_of_quotedFeeds (h : o.quotedFeeds = 0) (collectedAt : Timestamp) :
    (ofOutcome o collectedAt).LinePerItem := by
  have hfeeds : ∀ line ∈ (ofOutcome o collectedAt).lines, feeds line = 0 := by
    rw [← sum_feeds_lines o collectedAt, List.sum_eq_zero_iff_forall_eq_nat, List.forall_mem_map] at h
    exact h
  have hne : (ofOutcome o collectedAt).lines ≠ [] := by
    rw [lines_ofOutcome]
    exact List.cons_ne_nil _ _
  refine ⟨(findingsOf o).map fun f => "* " ++ f.judgement.text, ?_, ?_⟩
  · -- Nothing within a line breaks it.
    unfold text
    rw [Text.lines_intercalate hne hfeeds]
    exact lines_ofOutcome o collectedAt
  · show List.Forall₂ _ _ (findingsOf o)
    rw [List.forall₂_map_left_iff, List.forall₂_same]
    intro f _
    have hopen : "* [" = "* " ++ "[" := by decide
    have hclose : "] " = "]" ++ " " := by decide
    refine ⟨" " ++ (f.judgement.object.text ++ ": " ++ f.judgement.reason ++ " (observed: "
      ++ f.judgement.observed.text ++ ")"), ?_⟩
    unfold Judgement.text
    rw [hopen, hclose]
    simp only [String.append_assoc]

/-- **One line for each item, unless a quoted text has a line feed.** The text of a report has the lines that it
is meant to have, and no other, exactly if there is no line feed in the name of the check, nor in a name, an
identifier, a reason, a key or a status that is quoted for a finding; and each of those line feeds makes one more
line. -/
theorem linePerItem_ofOutcome_iff (o : Outcome) (collectedAt : Timestamp) :
    ((ofOutcome o collectedAt).LinePerItem ↔ ∀ s ∈ o.quoted, '\n' ∉ s.toList) ∧
    (Text.lines (ofOutcome o collectedAt).text).length
      = (ofOutcome o collectedAt).items + o.quotedFeeds := by
  have hlength := length_lines_ofOutcome o collectedAt
  refine ⟨?_, hlength⟩
  rw [← Outcome.quotedFeeds_eq_zero_iff]
  constructor
  · -- Their number alone shows that there is no line too many.
    intro h
    have hitems := h.length_lines
    omega
  · intro hquoted
    exact linePerItem_of_quotedFeeds hquoted collectedAt

/-! ## A forged line

The name of an alarm goes on after a line feed as the text of a run that found nothing. -/

/-- An alarm whose name goes on in a second line, as if all were well. -/
def forgedSite : Inventory :=
  { PreparedRun.pairedSite with
    alarms :=
      [⟨"alarm-1", "disk\nOK: all well", "", none, ⟨.host, "host-1", "esx-1"⟩, .red, false, none⟩] }

/-- The name is quoted twice, so that two lines too many are printed for an alarm. -/
theorem forgedSite_not_linePerItem :
    forgedSite.validate = .ok () ∧
    ∃ o history, PreparedRun.execute ⟨.initial, Check.alarms⟩ forgedSite = .ok o ∧
      (Tally.after CheckName.alarms.text history).close = .ok o ∧
      ¬ (ofOutcome o forgedSite.collectedAt).LinePerItem ∧
      (Text.lines (ofOutcome o forgedSite.collectedAt).text).length
        = (ofOutcome o forgedSite.collectedAt).items + 2 := by
  have hrun : (PreparedRun.execute ⟨.initial, Check.alarms⟩ forgedSite).map (·.quotedFeeds)
      = .ok 2 := by
    decide +kernel
  obtain ⟨o, hexecute, hfeeds⟩ := map_eq_ok_iff.1 hrun
  obtain ⟨history, hclose⟩ := PreparedRun.exists_close_of_execute hexecute
  have hlength := length_lines_ofOutcome o forgedSite.collectedAt
  rw [hfeeds] at hlength
  refine ⟨by decide, o, history, hexecute, hclose, fun h => ?_, hlength⟩
  -- A line for each item would leave no line over.
  have hitems := h.length_lines
  omega

end Report

end InventoryProbe
