import InventoryProbe.CommandLine.Arguments
import InventoryProbe.Proofs.Settings.Parts

/-!
# Settings in many layers

Settings are made by laying one call over another. Layers about different parts do not see each
other, so each part ends by the rules for its options, and only the order of the layers about one
part matters.

* **`Settings.Layered`**: how settings end under layers, part by part.
* **`Settings.layered_iff`**: layers make the settings that these rules tell, and no others.
* **`Settings.addLayers_congr`**: the layers about each part may be told apart from the others.
* **`Settings.addLayers_lawful`**: all this, and what follows for a command line.
-/

namespace InventoryProbe

open Std (ExtTreeMap)

/-! ## Boundaries for one check -/

namespace ThresholdSettings

/-- Nothing is set in a layer above another only if nothing is set in either. -/
theorem above_eq_unset_iff {t base : ThresholdSettings} :
    t.above base = .unset ↔ t = .unset ∧ base = .unset := by
  obtain ⟨_ | _, _ | _⟩ := t <;> obtain ⟨_ | _, _ | _⟩ := base <;> simp [above, unset]

end ThresholdSettings

namespace Settings

variable {s : Settings} {check : String}

/-- A check that is not mentioned has no boundaries, and one that is has those under its name. -/
theorem getElem?_thresholds_eq (s : Settings) (check : String) :
    s.thresholds[check]? = if check ∈ s.thresholds then some (s.thresholdsFor check) else none := by
  unfold thresholdsFor
  split
  · next hmem =>
    rw [ExtTreeMap.getElem?_eq_some_getElem hmem]
    rfl
  · next hmem => exact ExtTreeMap.getElem?_eq_none hmem

/-- A check for which boundaries are set has an entry. -/
theorem mem_thresholds_of_thresholdsFor (h : s.thresholdsFor check ≠ .unset) :
    check ∈ s.thresholds := by
  by_contra hmem
  apply h
  unfold thresholdsFor
  rw [ExtTreeMap.getElem?_eq_none hmem]
  rfl

/-- A layer of boundaries changes the entry of its check, unless nothing would be set there. -/
theorem getElem?_thresholds_withThresholds (s : Settings) (check other : String)
    (t : ThresholdSettings) :
    (s.withThresholds check t).thresholds[other]?
      = if check = other ∧ t.above (s.thresholdsFor other) ≠ .unset then
          some (t.above (s.thresholdsFor other))
        else s.thresholds[other]? := by
  unfold withThresholds
  simp only
  split
  · -- Nothing would be set, so that the entry stays, or stays missing.
    next hunset =>
    rw [if_neg]
    rintro ⟨rfl, hset⟩
    exact hset hunset
  · next hset =>
    rw [ExtTreeMap.getElem?_insert]
    by_cases hsame : check = other
    · subst hsame
      rw [if_pos Std.ReflCmp.compare_self, if_pos ⟨rfl, hset⟩]
    · rw [if_neg fun heq => hsame (Std.LawfulEqCmp.compare_eq_iff_eq.1 heq),
        if_neg fun h => hsame h.1]

/-- The boundaries of its check are merged, and those of another check stay. -/
theorem thresholdsFor_withThresholds (s : Settings) (check other : String) (t : ThresholdSettings) :
    (s.withThresholds check t).thresholdsFor other
      = if check = other then t.above (s.thresholdsFor other) else s.thresholdsFor other := by
  have hentry := getElem?_thresholds_withThresholds s check other t
  by_cases hsame : check = other
  · by_cases hunset : t.above (s.thresholdsFor other) = .unset
    · -- Nothing is given, and nothing was there before.
      have hbefore := (ThresholdSettings.above_eq_unset_iff.1 hunset).2
      rw [if_neg fun h => h.2 hunset] at hentry
      rw [if_pos hsame, hunset, thresholdsFor, hentry]
      exact hbefore
    · rw [if_pos ⟨hsame, hunset⟩] at hentry
      rw [if_pos hsame, thresholdsFor, hentry]
      rfl
  · rw [if_neg fun h => hsame h.1] at hentry
    rw [if_neg hsame, thresholdsFor, hentry]
    rfl

/-- Its check gets an entry if it sets something. -/
theorem mem_thresholds_withThresholds (s : Settings) (check other : String)
    (t : ThresholdSettings) :
    other ∈ (s.withThresholds check t).thresholds ↔
      other ∈ s.thresholds ∨ check = other ∧ t ≠ .unset := by
  have hentry := getElem?_thresholds_withThresholds s check other t
  rw [ExtTreeMap.mem_iff_isSome_getElem?, hentry]
  by_cases hset : check = other ∧ t.above (s.thresholdsFor other) ≠ .unset
  · rw [if_pos hset]
    refine iff_of_true rfl ?_
    by_cases ht : t = .unset
    · -- What is set was there before.
      left
      exact mem_thresholds_of_thresholdsFor fun hbefore =>
        hset.2 (ThresholdSettings.above_eq_unset_iff.2 ⟨ht, hbefore⟩)
    · exact .inr ⟨hset.1, ht⟩
  · rw [if_neg hset, ← ExtTreeMap.mem_iff_isSome_getElem?]
    refine (or_iff_left ?_).symm
    rintro ⟨hsame, ht⟩
    exact hset ⟨hsame, fun hunset => ht (ThresholdSettings.above_eq_unset_iff.1 hunset).1⟩

end Settings

/-! ## Layers -/

/-- One call that lays something over settings. -/
inductive Layer where
  | timeout (seconds : Option UInt64)
  | criteria (c : Criteria)
  | thresholds (check : String) (t : ThresholdSettings)
  | pairing (p : PairingSettings)
  | version (v : VersionSettings)

/-- A part of the settings that a layer can be about. -/
inductive Part where
  | timeout
  | criteria
  | thresholds (check : String)
  | pairing
  | version
  deriving DecidableEq, Repr

namespace Layer

/-- The part that a layer is about. -/
def part : Layer → Part
  | .timeout _ => .timeout
  | .criteria _ => .criteria
  | .thresholds check _ => .thresholds check
  | .pairing _ => .pairing
  | .version _ => .version

/-! What a layer gives for one part. -/

/-- What a layer gives for the timeout. -/
def timeout? : Layer → Option UInt64
  | .timeout seconds => seconds
  | _ => none

/-- The criteria that it gives. -/
def criteria? : Layer → Option Criteria
  | .criteria c => some c
  | _ => none

/-- The boundaries that it gives for a check. -/
def thresholds? (check : String) : Layer → Option ThresholdSettings
  | .thresholds other t => if other = check then some t else none
  | _ => none

/-- The options for pairing that it gives. -/
def pairing? : Layer → Option PairingSettings
  | .pairing p => some p
  | _ => none

/-- The options for versions that it gives. -/
def version? : Layer → Option VersionSettings
  | .version v => some v
  | _ => none

/-! A layer about another part gives nothing for this one. -/

/-- Only a layer of the timeout gives a timeout. -/
theorem timeout?_of_part {l : Layer} (h : l.part ≠ .timeout) : l.timeout? = none := by
  cases l with
  | timeout => exact absurd rfl h
  | criteria | thresholds | pairing | version => rfl

/-- Only one of criteria gives criteria. -/
theorem criteria?_of_part {l : Layer} (h : l.part ≠ .criteria) : l.criteria? = none := by
  cases l with
  | criteria => exact absurd rfl h
  | timeout | thresholds | pairing | version => rfl

/-- Only one of boundaries for a check gives boundaries for it. -/
theorem thresholds?_of_part {l : Layer} {check : String} (h : l.part ≠ .thresholds check) :
    l.thresholds? check = none := by
  cases l with
  | thresholds other t => exact if_neg fun hsame => h (congrArg Part.thresholds hsame)
  | timeout | criteria | pairing | version => rfl

/-- Only one of pairing gives options for pairing. -/
theorem pairing?_of_part {l : Layer} (h : l.part ≠ .pairing) : l.pairing? = none := by
  cases l with
  | pairing => exact absurd rfl h
  | timeout | criteria | thresholds | version => rfl

/-- Only one of versions gives options for versions. -/
theorem version?_of_part {l : Layer} (h : l.part ≠ .version) : l.version? = none := by
  cases l with
  | version => exact absurd rfl h
  | timeout | criteria | thresholds | pairing => rfl

end Layer

namespace Settings

/-- The settings with one layer over them. -/
def addLayer (s : Settings) : Layer → Settings
  | .timeout seconds => s.withTimeout seconds
  | .criteria c => s.withCriteria c
  | .thresholds check t => s.withThresholds check t
  | .pairing p => s.withPairing p
  | .version v => s.withVersion v

/-- The settings with layers over them, each over those before it. -/
def addLayers (s : Settings) (layers : List Layer) : Settings := layers.foldl addLayer s

/-- That settings end as the rules for their options tell from what they were and from what all
layers gave, part by part. -/
structure Layered (start : Settings) (layers : List Layer) (finish : Settings) : Prop where
  timeout : finish.timeout = (layers.filterMap Layer.timeout?).getLast?.getD start.timeout
  criteria : start.criteria.Layered (layers.filterMap Layer.criteria?) finish.criteria
  thresholds : ∀ check, (start.thresholdsFor check).Layered
    (layers.filterMap (Layer.thresholds? check)) (finish.thresholdsFor check)
  /-- Checks are mentioned that were before, and those for which a boundary is given. -/
  mentioned : ∀ check, check ∈ finish.thresholds ↔
    check ∈ start.thresholds ∨ ∃ t ∈ layers.filterMap (Layer.thresholds? check), t ≠ .unset
  pairing : start.pairing.Layered (layers.filterMap Layer.pairing?) finish.pairing
  version : start.version.Layered (layers.filterMap Layer.version?) finish.version

/-! ### One layer, and then all of them -/

/-- A part of the settings changes only by what layers give for it. -/
theorem part_addLayers {σ : Type} (get : Settings → σ) (give : Layer → Option σ) (merge : σ → σ → σ)
    (h : ∀ s l, get (addLayer s l) = (give l).elim (get s) (merge (get s))) (s : Settings)
    (layers : List Layer) :
    get (s.addLayers layers) = (layers.filterMap give).foldl merge (get s) := by
  induction layers generalizing s with
  | nil => rfl
  | cons l rest ih =>
    have hrest : get (s.addLayers (l :: rest))
        = (rest.filterMap give).foldl merge (get (s.addLayer l)) :=
      ih (s.addLayer l)
    rw [hrest, h, List.filterMap_cons]
    -- The first layer is merged, or says nothing of this part.
    cases give l with
    | none => rfl
    | some g => rfl

/-- Boundaries change nothing but the boundaries. -/
theorem withThresholds_eq (s : Settings) (check : String) (t : ThresholdSettings) :
    s.withThresholds check t = { s with thresholds := (s.withThresholds check t).thresholds } := by
  unfold withThresholds
  simp only
  split
  · rfl
  · rfl

/-- A timeout that is given takes the place of the one before. -/
theorem timeout_addLayer (s : Settings) (l : Layer) :
    (s.addLayer l).timeout = l.timeout?.elim s.timeout id := by
  cases l with
  | timeout seconds => cases seconds <;> rfl
  | criteria | pairing | version => rfl
  | thresholds check t => rw [addLayer, withThresholds_eq]; rfl

/-- Criteria that are given are joined with those before. -/
theorem criteria_addLayer (s : Settings) (l : Layer) :
    (s.addLayer l).criteria = l.criteria?.elim s.criteria s.criteria.union := by
  cases l with
  | timeout | criteria | pairing | version => rfl
  | thresholds check t => rw [addLayer, withThresholds_eq]; rfl

/-- Options for pairing go above those before. -/
theorem pairing_addLayer (s : Settings) (l : Layer) :
    (s.addLayer l).pairing = l.pairing?.elim s.pairing (·.above s.pairing) := by
  cases l with
  | timeout | criteria | pairing | version => rfl
  | thresholds check t => rw [addLayer, withThresholds_eq]; rfl

theorem version_addLayer (s : Settings) (l : Layer) :
    (s.addLayer l).version = l.version?.elim s.version (·.above s.version) := by
  cases l with
  | timeout | criteria | pairing | version => rfl
  | thresholds check t => rw [addLayer, withThresholds_eq]; rfl

theorem thresholdsFor_addLayer (s : Settings) (l : Layer) (check : String) :
    (s.addLayer l).thresholdsFor check
      = (l.thresholds? check).elim (s.thresholdsFor check) (·.above (s.thresholdsFor check)) := by
  cases l with
  | timeout | criteria | pairing | version => rfl
  | thresholds other t =>
    have hstep := thresholdsFor_withThresholds s other check t
    rw [addLayer, hstep, Layer.thresholds?]
    split
    · rfl
    · rfl

/-- A layer adds an entry for a check if it sets boundaries for it. -/
theorem mem_thresholds_addLayer (s : Settings) (l : Layer) (check : String) :
    check ∈ (s.addLayer l).thresholds ↔
      check ∈ s.thresholds ∨ ∃ t, l.thresholds? check = some t ∧ t ≠ .unset := by
  cases l with
  | timeout | criteria | pairing | version => exact (or_iff_left (by simp [Layer.thresholds?])).symm
  | thresholds other t =>
    have hstep := mem_thresholds_withThresholds s other check t
    rw [addLayer, hstep, Layer.thresholds?]
    split
    · next hsame => simp [hsame]
    · next hother => simp [hother]

/-- A check has an entry after all if it had one, or some layer sets boundaries for it.
Induction on the layers. -/
theorem mem_thresholds_addLayers (s : Settings) (layers : List Layer) (check : String) :
    check ∈ (s.addLayers layers).thresholds ↔
      check ∈ s.thresholds ∨ ∃ t ∈ layers.filterMap (Layer.thresholds? check), t ≠ .unset := by
  induction layers generalizing s with
  | nil => simp [addLayers]
  | cons l rest ih =>
    have hrest := ih (s.addLayer l)
    rw [mem_thresholds_addLayer, or_assoc] at hrest
    refine hrest.trans (or_congr_right ?_)
    simp only [List.mem_filterMap, List.mem_cons]
    -- The layer that sets boundaries is the first one or a later one.
    constructor
    · rintro (⟨t, hl, ht⟩ | ⟨t, ⟨l', hl', ht'⟩, ht⟩)
      · exact ⟨t, ⟨l, .inl rfl, hl⟩, ht⟩
      · exact ⟨t, ⟨l', .inr hl', ht'⟩, ht⟩
    · rintro ⟨t, ⟨l', rfl | hl', ht'⟩, ht⟩
      · exact .inl ⟨t, ht', ht⟩
      · exact .inr ⟨t, ⟨l', hl', ht'⟩, ht⟩

/-- Layers that are added one by one lead to what is said of them all. -/
theorem layered_addLayers (s : Settings) (layers : List Layer) :
    s.Layered layers (s.addLayers layers) where
  timeout := by
    rw [part_addLayers (·.timeout) Layer.timeout? (fun _ seconds => seconds) timeout_addLayer s
      layers]
    exact foldl_last _ _
  criteria := by
    rw [part_addLayers (·.criteria) Layer.criteria? Criteria.union criteria_addLayer s layers]
    exact Criteria.layered_foldl _ _
  thresholds check := by
    rw [part_addLayers (·.thresholdsFor check) (Layer.thresholds? check)
      (fun base t => t.above base) (fun s l => thresholdsFor_addLayer s l check) s layers]
    exact ThresholdSettings.layered_foldl _ _
  mentioned := mem_thresholds_addLayers s layers
  pairing := by
    rw [part_addLayers (·.pairing) Layer.pairing? (fun base p => p.above base) pairing_addLayer s
      layers]
    exact PairingSettings.layered_foldl _ _
  version := by
    rw [part_addLayers (·.version) Layer.version? (fun base v => v.above base) version_addLayer s
      layers]
    exact VersionSettings.layered_foldl _ _

/-- Only one result fits this. -/
theorem Layered.unique {start a b : Settings} {layers : List Layer} (ha : start.Layered layers a)
    (hb : start.Layered layers b) : a = b := by
  -- Entries are equal check by check: both are there or neither, with the same boundaries.
  have hthresholds : a.thresholds = b.thresholds := by
    apply ExtTreeMap.ext_getElem?
    intro check
    have hmem := (ha.mentioned check).trans (hb.mentioned check).symm
    have hsame := (ha.thresholds check).unique (hb.thresholds check)
    rw [getElem?_thresholds_eq, getElem?_thresholds_eq, hsame]
    simp only [hmem]
  cases a
  cases b
  rw [mk.injEq]
  exact ⟨ha.timeout.trans hb.timeout.symm, ha.criteria.unique hb.criteria, hthresholds,
    ha.pairing.unique hb.pairing, ha.version.unique hb.version⟩

/-- The rules tell everything about the settings that layers make. -/
theorem layered_iff {s finish : Settings} {layers : List Layer} :
    s.Layered layers finish ↔ finish = s.addLayers layers := by
  constructor
  · intro h
    exact h.unique (layered_addLayers s layers)
  · rintro rfl
    exact layered_addLayers s layers

/-! ### The order of layers -/

/-- What is given for one part hangs on the layers about it and on their order. -/
theorem filterMap_give_congr {σ : Type} {give : Layer → Option σ} {p : Part}
    (hgive : ∀ l : Layer, l.part ≠ p → give l = none) {layers layers' : List Layer}
    (h : layers.filter (·.part = p) = layers'.filter (·.part = p)) :
    layers.filterMap give = layers'.filterMap give := by
  have hown (ls : List Layer) : ls.filterMap give = (ls.filter (·.part = p)).filterMap give := by
    rw [List.filterMap_filter]
    refine List.filterMap_congr fun l _ => ?_
    by_cases hp : l.part = p
    · simp [hp]
    · simp [hp, hgive l hp]
  rw [hown layers, hown layers', h]

/-- Layers make the same settings in any order that keeps the layers about each part in order. -/
theorem addLayers_congr {s : Settings} {layers layers' : List Layer}
    (h : ∀ p : Part, layers.filter (·.part = p) = layers'.filter (·.part = p)) :
    s.addLayers layers = s.addLayers layers' := by
  obtain ⟨htimeout, hcriteria, hthresholds, hmentioned, hpairing, hversion⟩ :=
    layered_addLayers s layers
  -- Each part of the result is read off the layers that concern it.
  have hchecks (check : String) : layers.filterMap (Layer.thresholds? check)
      = layers'.filterMap (Layer.thresholds? check) :=
    filterMap_give_congr (fun _ => Layer.thresholds?_of_part) (h (.thresholds check))
  rw [filterMap_give_congr (fun _ => Layer.timeout?_of_part) (h .timeout)] at htimeout
  rw [filterMap_give_congr (fun _ => Layer.criteria?_of_part) (h .criteria)] at hcriteria
  rw [filterMap_give_congr (fun _ => Layer.pairing?_of_part) (h .pairing)] at hpairing
  rw [filterMap_give_congr (fun _ => Layer.version?_of_part) (h .version)] at hversion
  simp only [hchecks] at hthresholds hmentioned
  exact layered_iff.1 ⟨htimeout, hcriteria, hthresholds, hmentioned, hpairing, hversion⟩

/-- Two neighbours that concern different parts can change places. -/
theorem filter_part_swap {a b : Layer} (h : a.part ≠ b.part) (front back : List Layer) (p : Part) :
    (front ++ a :: b :: back).filter (·.part = p)
      = (front ++ b :: a :: back).filter (·.part = p) := by
  by_cases ha : a.part = p
  · have hb : b.part ≠ p := fun hb => h (ha.trans hb.symm)
    simp [ha, hb]
  · simp [List.filter_cons, ha]

/-- Two layers about different parts may be laid over settings in either order. -/
theorem addLayers_swap {a b : Layer} (h : a.part ≠ b.part) (s : Settings)
    (front back : List Layer) :
    s.addLayers (front ++ a :: b :: back) = s.addLayers (front ++ b :: a :: back) :=
  addLayers_congr (filter_part_swap h front back)

/-! ### The same layer again -/

/-- A layer that is added once more changes nothing. -/
theorem addLayer_again (s : Settings) (l : Layer) : (s.addLayer l).addLayer l = s.addLayer l := by
  cases l with
  | timeout seconds => cases seconds <;> rfl
  | criteria c =>
    have hcriteria : (s.criteria.union c).union c = s.criteria.union c :=
      Criteria.union_union_self _ _
    show (s.withCriteria c).withCriteria c = s.withCriteria c
    unfold withCriteria
    rw [hcriteria]
  | pairing p =>
    have hpairing : p.above (p.above s.pairing) = p.above s.pairing := p.above_above_self s.pairing
    show (s.withPairing p).withPairing p = s.withPairing p
    unfold withPairing
    rw [hpairing]
  | version v =>
    have hversion : v.above (v.above s.version) = v.above s.version := v.above_above_self s.version
    show (s.withVersion v).withVersion v = s.withVersion v
    unfold withVersion
    rw [hversion]
  | thresholds check t =>
    have hthresholds : ((s.withThresholds check t).withThresholds check t).thresholds
        = (s.withThresholds check t).thresholds := by
      apply ExtTreeMap.ext_getElem?
      intro other
      rw [getElem?_thresholds_withThresholds, getElem?_thresholds_withThresholds s,
        thresholdsFor_withThresholds]
      -- For another check the entry has not been touched at all.
      by_cases hsame : check = other
      · rw [if_pos hsame, ThresholdSettings.above_above_self]
        split
        · rfl
        · rfl
      · simp [hsame]
    show (s.withThresholds check t).withThresholds check t = s.withThresholds check t
    rw [withThresholds_eq, hthresholds]

theorem addLayers_again (s : Settings) (front back : List Layer) (l : Layer) :
    s.addLayers (front ++ l :: l :: back) = s.addLayers (front ++ l :: back) := by
  unfold addLayers
  rw [List.foldl_append, List.foldl_append, List.foldl_cons, List.foldl_cons, List.foldl_cons,
    addLayer_again]

/-- A layer may be laid over settings before layers about other parts. -/
theorem addLayer_addLayers {l : Layer} {layers : List Layer}
    (h : ∀ other ∈ layers, other.part ≠ l.part) (s : Settings) :
    (s.addLayers layers).addLayer l = (s.addLayer l).addLayers layers := by
  induction layers generalizing s with
  | nil => rfl
  | cons other rest ih =>
    have hswap := addLayers_swap (h other List.mem_cons_self) s [] []
    have hrest := ih (fun l' hl' => h l' (List.mem_cons_of_mem _ hl')) (s.addLayer other)
    exact hrest.trans (congrArg (·.addLayers rest) hswap)

/-- Layers about different parts, laid over settings twice, change nothing the second time. -/
theorem addLayers_twice {layers : List Layer} (h : (layers.map Layer.part).Nodup) (s : Settings) :
    (s.addLayers layers).addLayers layers = s.addLayers layers := by
  induction layers generalizing s with
  | nil => rfl
  | cons l rest ih =>
    rw [List.map_cons, List.nodup_cons] at h
    obtain ⟨hnew, hnodup⟩ := h
    -- The first layer can be moved behind the others, for they concern other parts.
    have hothers : ∀ other ∈ rest, other.part ≠ l.part := fun other hmem heq =>
      hnew (heq ▸ List.mem_map_of_mem hmem)
    calc (s.addLayers (l :: rest)).addLayers (l :: rest)
        = (((s.addLayer l).addLayers rest).addLayer l).addLayers rest := rfl
      _ = (((s.addLayer l).addLayer l).addLayers rest).addLayers rest := by
          rw [addLayer_addLayers hothers]
      _ = ((s.addLayer l).addLayers rest).addLayers rest := by rw [addLayer_again]
      _ = s.addLayers (l :: rest) := ih hnodup (s.addLayer l)

end Settings

/-! ## Command lines -/

namespace CommandLine.Arguments

variable (a : Arguments)

/-- The layers that a command line lays over settings. -/
def layers (a : Arguments) : List Layer :=
  [.timeout a.timeout, .criteria a.criteria, .pairing a.pairing, .version a.version]
    ++ (a.check.map fun check => .thresholds check a.thresholds).toList

/-- Arguments are applied as the layers that they stand for. -/
theorem applyTo_eq_addLayers (s : Settings) : a.applyTo s = s.addLayers a.layers := by
  unfold applyTo layers
  cases a.check with
  | none => rfl
  | some check => rfl

/-- No two of these concern the same part. -/
theorem nodup_parts_layers : (a.layers.map Layer.part).Nodup := by
  unfold layers
  cases a.check with
  | none => simp [Layer.part]
  | some check => simp [Layer.part]

/-- Arguments that are applied once more change nothing. -/
theorem applyTo_twice (s : Settings) : a.applyTo (a.applyTo s) = a.applyTo s := by
  simp only [applyTo_eq_addLayers]
  exact Settings.addLayers_twice a.nodup_parts_layers s

theorem filterMap_thresholds?_layers {check : String} (h : a.check ≠ some check) :
    a.layers.filterMap (Layer.thresholds? check) = [] := by
  unfold layers
  cases hcheck : a.check with
  | none => rfl
  | some own =>
    have hother : own ≠ check := fun heq => h (by rw [hcheck, heq])
    simp [Layer.thresholds?, hother]

/-- The boundaries of a check that a command line is not about stay as they are. -/
theorem getElem?_thresholds_applyTo {check : String} (h : a.check ≠ some check) (s : Settings) :
    (a.applyTo s).thresholds[check]? = s.thresholds[check]? := by
  have hlayered := Settings.layered_addLayers s a.layers
  have hmentioned := hlayered.mentioned check
  have hfor := hlayered.thresholds check
  rw [filterMap_thresholds?_layers a h] at hmentioned hfor
  have hsame := hfor.unique (ThresholdSettings.layered_foldl _ [])
  simp only [List.not_mem_nil, false_and, exists_const, or_false] at hmentioned
  rw [applyTo_eq_addLayers, Settings.getElem?_thresholds_eq, Settings.getElem?_thresholds_eq s,
    hsame]
  simp only [hmentioned, List.foldl_nil]

end CommandLine.Arguments

namespace Settings

/-- **Layers over settings, in runs of any length.** Every option ends as the rule for it tells from
what it was and from all that was given for it, and nothing else is changed. So layers about
different parts of the settings may change places, a layer that comes twice in a row counts once,
and a command line, which lays one layer over each part, can be laid over settings again without
effect and leaves alone the boundaries of all checks but its own. -/
theorem addLayers_lawful (s : Settings) :
    (∀ layers finish, s.Layered layers finish ↔ finish = s.addLayers layers) ∧
    (∀ front back (l l' : Layer), l.part ≠ l'.part →
      s.addLayers (front ++ l :: l' :: back) = s.addLayers (front ++ l' :: l :: back)) ∧
    (∀ front back l, s.addLayers (front ++ l :: l :: back) = s.addLayers (front ++ l :: back)) ∧
    ∀ a : CommandLine.Arguments, a.applyTo s = s.addLayers a.layers ∧
      a.applyTo (a.applyTo s) = a.applyTo s ∧
      ∀ check, a.check ≠ some check → (a.applyTo s).thresholds[check]? = s.thresholds[check]? :=
  ⟨fun _ _ => layered_iff, fun front back _ _ h => addLayers_swap h s front back,
    fun front back l => addLayers_again s front back l, fun a =>
      ⟨a.applyTo_eq_addLayers s, a.applyTo_twice s, fun _ h => a.getElem?_thresholds_applyTo h s⟩⟩

end Settings

end InventoryProbe
