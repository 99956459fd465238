import Mathlib.Data.List.Nodup
import InventoryProbe.Pairing
import InventoryProbe.Proofs.Failure
import InventoryProbe.Proofs.Text.Blank

/-!
# Plans from options

Options give a plan in one of two ways: by one attribute for hosts and datastores alike, or by one
attribute for each. What is said of them here is read off which options are set and to what.

* **`KeyOptions`**: an attribute option with its separator option. There are three such pairs, and all of
  them are read in the same way: `ruleOf_eq_ok_iff` and `ruleOf_eq_error_iff`.
* **`PairingPlan.ofSettings_eq_ok_iff`**: which plan options give, if any.
* **`PairingPlan.ofSettings_eq_error_iff`**: the one fault for which they are refused.
* **`PairingPlan.ofSettings_alike`**: an attribute for both kinds is short for the same one for each.
* **`PairingPlan.ofSettings_resolution`**: all of this, with what every fault says of the options that
  it names.
-/

namespace InventoryProbe

/-- A text of nothing but blanks. -/
def IsBlankText (text : String) : Prop := ∀ c ∈ text.toList, Text.isBlank c

/-- A text without the blanks around it. -/
def trimmed (text : String) : String := String.ofList (Text.trim text.toList)

/-- Nothing is left of a text of blanks, and of no other. -/
theorem trimmed_eq_empty_iff {text : String} : trimmed text = "" ↔ IsBlankText text := by
  rw [IsBlankText, ← Text.trim_eq_nil_iff]
  exact String.ofList_eq_empty_iff

/-! ## Lists of options -/

/-- That none of the options is set. -/
def NoneSet (options : List (String × Option String)) : Prop := ∀ o ∈ options, o.2 = none

/-- That an option is set, and none of those before it. -/
def IsFirstSet (options : List (String × Option String)) (name : String) : Prop :=
  ∃ front text back, options = front ++ (name, some text) :: back ∧ NoneSet front

section

variable {options front back : List (String × Option String)} {name : String}

/-- No option of two groups is set if none of either is. -/
theorem noneSet_append : NoneSet (front ++ back) ↔ NoneSet front ∧ NoneSet back :=
  List.forall_mem_append

/-- No option is set first exactly if none is set. -/
theorem firstSet_eq_none_iff : PairingSettings.firstSet options = none ↔ NoneSet options := by
  simp [PairingSettings.firstSet, NoneSet]

/-- The first one has none in front of it that is set. -/
theorem firstSet_eq_some_iff :
    PairingSettings.firstSet options = some name ↔ IsFirstSet options name := by
  unfold PairingSettings.firstSet
  rw [Option.map_eq_some_iff]
  constructor
  · rintro ⟨⟨name', value⟩, hfind, rfl⟩
    obtain ⟨hset, front, back, heq, hfront⟩ := List.find?_eq_some_iff_append.1 hfind
    obtain ⟨text, rfl⟩ := Option.isSome_iff_exists.1 hset
    exact ⟨front, text, back, heq, fun o ho => by simpa using hfront o ho⟩
  · rintro ⟨front, text, back, heq, hfront⟩
    refine ⟨(name, some text), List.find?_eq_some_iff_append.2 ⟨rfl, front, back, heq, ?_⟩, rfl⟩
    intro o ho
    rw [hfront o ho]
    rfl

theorem exists_isFirstSet_iff : (∃ name, IsFirstSet options name) ↔ ¬ NoneSet options := by
  rw [← firstSet_eq_none_iff, ← ne_eq, Option.ne_none_iff_exists']
  exact exists_congr fun name => firstSet_eq_some_iff.symm

theorem IsFirstSet.mem (h : IsFirstSet options name) : ∃ text, (name, some text) ∈ options := by
  obtain ⟨front, text, back, rfl, -⟩ := h
  exact ⟨text, List.mem_append_right front List.mem_cons_self⟩

/-- An option that is not set is never the first that is. -/
theorem IsFirstSet.ne_of_unset (h : IsFirstSet options name) {other : String}
    (hnodup : (options.map (·.1)).Nodup) (hunset : (other, none) ∈ options) : name ≠ other := by
  rintro rfl
  obtain ⟨text, hset⟩ := h.mem
  have hentry := List.inj_on_of_nodup_map hnodup hset hunset rfl
  cases hentry

theorem IsFirstSet.not_noneSet (h : IsFirstSet options name) : ¬ NoneSet options :=
  exists_isFirstSet_iff.1 ⟨name, h⟩

end

/-! ## An attribute option and its separator option -/

/-- An attribute option and its separator option, by name and by what they are set to. -/
structure KeyOptions where
  attributeOption : String
  separatorOption : String
  source : Option String
  separator : Option String

namespace KeyOptions

variable {k : KeyOptions} {given : String} {rule : KeyRule} {e : SettingError}

/-- The option for the attribute. -/
def attributeEntry (k : KeyOptions) : String × Option String := (k.attributeOption, k.source)

/-- The option for the separator. -/
def separatorEntry (k : KeyOptions) : String × Option String := (k.separatorOption, k.separator)

/-- Both options, in the order in which they are looked at. -/
def entries (k : KeyOptions) : List (String × Option String) := [k.attributeEntry, k.separatorEntry]

theorem noneSet_entries : NoneSet k.entries ↔ k.source = none ∧ k.separator = none := by
  simp [NoneSet, entries, attributeEntry, separatorEntry]

/-- The rule that is read from the options. -/
def ruleOf (k : KeyOptions) (given : String) : Except SettingError KeyRule :=
  PairingPlan.ruleOf k.attributeOption k.separatorOption given k.source k.separator

/-- That the options give a rule: the attribute is set and not blank, and the separator is unset or
one character. -/
structure Gives (k : KeyOptions) (rule : KeyRule) : Prop where
  named : ∃ text, k.source = some text ∧ ¬ IsBlankText text ∧ rule.source = trimmed text
  cut : k.separator = rule.separator.map String.singleton

/-- What is wrong with the options where something calls for them. The separator is looked at only
beside a proper attribute. -/
inductive Fault (k : KeyOptions) (given : String) : SettingError → Prop where
  | unset (hsource : k.source = none) : Fault k given (.missingPartner given k.attributeOption)
  | blank {text : String} (hsource : k.source = some text) (hblank : IsBlankText text) :
    Fault k given (.invalidValue k.attributeOption "" "attribute name must not be empty")
  | separator {text cut : String} (hsource : k.source = some text) (hblank : ¬ IsBlankText text)
    (hseparator : k.separator = some cut) (hlength : cut.length ≠ 1) :
    Fault k given (.invalidValue k.separatorOption cut "separator must be exactly one character")

/-- A blank name is refused. -/
theorem attributeOf_of_blank {text : String} (option given : String) (hblank : IsBlankText text) :
    PairingPlan.attributeOf option given (some text) =
      .error (.invalidValue option "" "attribute name must not be empty") := by
  have hempty : trimmed text = "" := trimmed_eq_empty_iff.2 hblank
  exact if_pos hempty

/-- Any other name is taken without the blanks around it. -/
theorem attributeOf_of_not_blank {text : String} (option given : String)
    (hblank : ¬ IsBlankText text) :
    PairingPlan.attributeOf option given (some text) = .ok (trimmed text) := by
  have hname : trimmed text ≠ "" := mt trimmed_eq_empty_iff.1 hblank
  exact if_neg hname

/-- A name that is missing is missed by the option that was given. -/
theorem attributeOf_none {option : String} (hgiven : given ≠ option) :
    PairingPlan.attributeOf option given none = .error (.missingPartner given option) :=
  if_neg hgiven

/-- A name is taken exactly if it is given and not blank. -/
theorem attributeOf_eq_ok_iff {option name : String} {source : Option String} :
    PairingPlan.attributeOf option given source = .ok name ↔
      ∃ text, source = some text ∧ ¬ IsBlankText text ∧ name = trimmed text := by
  cases source with
  | none =>
    rw [PairingPlan.attributeOf]
    split <;> simp
  | some text =>
    by_cases hblank : IsBlankText text
    · simp [attributeOf_of_blank option given hblank, hblank]
    · simp [attributeOf_of_not_blank option given hblank, hblank, eq_comm]

/-- A name is refused for being missing or for being blank. -/
theorem attributeOf_eq_error_iff {option : String} {source : Option String}
    (hgiven : source = none → given ≠ option) :
    PairingPlan.attributeOf option given source = .error e ↔
      (source = none ∧ .missingPartner given option = e) ∨
        ∃ text, source = some text ∧ IsBlankText text ∧
          .invalidValue option "" "attribute name must not be empty" = e := by
  cases source with
  | none => simp [attributeOf_none (hgiven rfl)]
  | some text =>
    by_cases hblank : IsBlankText text
    · simp [attributeOf_of_blank option given hblank, hblank]
    · simp [attributeOf_of_not_blank option given hblank, hblank]

theorem separatorOf_singleton (option : String) (c : Char) :
    PairingPlan.separatorOf option (some (String.singleton c)) = .ok (some c) := by
  rw [PairingPlan.separatorOf, String.toList_singleton]

/-- No characters or several are none. -/
theorem separatorOf_of_length {option cut : String} (hlength : cut.length ≠ 1) :
    PairingPlan.separatorOf option (some cut) =
      .error (.invalidValue option cut "separator must be exactly one character") := by
  rw [PairingPlan.separatorOf]
  split
  · next c hchars =>
    rw [← String.length_toList, hchars] at hlength
    exact absurd rfl hlength
  · rfl

/-- A text is one character, or is not one character long. -/
theorem eq_singleton_or_length_ne (cut : String) :
    (∃ c, cut = String.singleton c) ∨ cut.length ≠ 1 := by
  by_cases hlength : cut.length = 1
  · rw [← String.length_toList] at hlength
    obtain ⟨c, hc⟩ := List.length_eq_one_iff.1 hlength
    refine .inl ⟨c, String.toList_inj.1 ?_⟩
    rw [hc, String.toList_singleton]
  · exact .inr hlength

/-- A separator is taken if it is one character, or is missing. -/
theorem separatorOf_eq_ok_iff {option : String} {value : Option String} {separator : Option Char} :
    PairingPlan.separatorOf option value = .ok separator ↔
      value = separator.map String.singleton := by
  constructor
  · intro h
    rcases value with _ | cut
    · cases h
      rfl
    · rcases eq_singleton_or_length_ne cut with ⟨c, rfl⟩ | hlength
      · rw [separatorOf_singleton] at h
        cases h
        rfl
      · rw [separatorOf_of_length hlength] at h
        cases h
  · rintro rfl
    rcases separator with _ | c
    · rfl
    · exact separatorOf_singleton option c

/-- A separator is refused if it is given and not one character. -/
theorem separatorOf_eq_error_iff {option : String} {value : Option String} :
    PairingPlan.separatorOf option value = .error e ↔
      ∃ cut, value = some cut ∧ cut.length ≠ 1 ∧
        .invalidValue option cut "separator must be exactly one character" = e := by
  constructor
  · intro h
    rcases value with _ | cut
    · cases h
    · rcases eq_singleton_or_length_ne cut with ⟨c, rfl⟩ | hlength
      · rw [separatorOf_singleton] at h
        cases h
      · rw [separatorOf_of_length hlength] at h
        exact ⟨cut, rfl, hlength, Except.error.inj h⟩
  · rintro ⟨cut, rfl, hlength, rfl⟩
    exact separatorOf_of_length hlength

/-- Two options make a rule exactly if both are taken. -/
theorem ruleOf_eq_ok_iff : k.ruleOf given = .ok rule ↔ k.Gives rule := by
  obtain ⟨name, separator⟩ := rule
  unfold ruleOf PairingPlan.ruleOf
  rw [bind_eq_ok_iff]
  constructor
  · rintro ⟨name', hname, hrest⟩
    obtain ⟨separator', hseparator, hrule⟩ := bind_eq_ok_iff.1 hrest
    cases hrule
    exact ⟨attributeOf_eq_ok_iff.1 hname, separatorOf_eq_ok_iff.1 hseparator⟩
  · rintro ⟨hnamed, hcut⟩
    refine ⟨name, attributeOf_eq_ok_iff.2 hnamed, bind_eq_ok_iff.2 ⟨separator, ?_, rfl⟩⟩
    exact separatorOf_eq_ok_iff.2 hcut

/-- Only an option that is set can call for others, so it is never itself the one missing. -/
theorem ruleOf_eq_error_iff (hgiven : k.source = none → given ≠ k.attributeOption) :
    k.ruleOf given = .error e ↔ k.Fault given e := by
  unfold ruleOf PairingPlan.ruleOf
  rw [bind_eq_error_iff, attributeOf_eq_error_iff hgiven]
  constructor
  · rintro ((⟨hsource, rfl⟩ | ⟨text, hsource, hblank, rfl⟩) | ⟨name, hname, hrest⟩)
    · exact .unset hsource
    · exact .blank hsource hblank
    · -- The name was taken, so that only the separator is left to be refused.
      obtain ⟨text, hsource, hblank, -⟩ := attributeOf_eq_ok_iff.1 hname
      rcases bind_eq_error_iff.1 hrest with hseparator | ⟨separator, -, hrule⟩
      · obtain ⟨cut, hcut, hlength, rfl⟩ := separatorOf_eq_error_iff.1 hseparator
        exact .separator hsource hblank hcut hlength
      · cases hrule
  · intro h
    cases h with
    | unset hsource => exact .inl (.inl ⟨hsource, rfl⟩)
    | blank hsource hblank => exact .inl (.inr ⟨_, hsource, hblank, rfl⟩)
    | separator hsource hblank hseparator hlength =>
      refine .inr ⟨_, attributeOf_eq_ok_iff.2 ⟨_, hsource, hblank, rfl⟩, ?_⟩
      exact bind_eq_error_iff.2 (.inl (separatorOf_eq_error_iff.2 ⟨_, hseparator, hlength, rfl⟩))

/-- The options may have other names. -/
theorem Gives.renamed {k' : KeyOptions} (h : k.Gives rule) (hsource : k.source = k'.source)
    (hseparator : k.separator = k'.separator) : k'.Gives rule :=
  ⟨hsource ▸ h.named, hseparator ▸ h.cut⟩

theorem Gives.unique {rule' : KeyRule} (h : k.Gives rule) (h' : k.Gives rule') : rule = rule' := by
  have hread : k.ruleOf k.separatorOption = .ok rule := ruleOf_eq_ok_iff.2 h
  rw [ruleOf_eq_ok_iff.2 h'] at hread
  exact (Except.ok.inj hread).symm

theorem Gives.source_ne_none (h : k.Gives rule) : k.source ≠ none := by
  obtain ⟨text, hsource, -⟩ := h.named
  exact Option.ne_none_iff_exists'.2 ⟨text, hsource⟩

theorem Gives.not_noneSet (h : k.Gives rule) : ¬ NoneSet k.entries := by
  intro hnone
  exact h.source_ne_none (noneSet_entries.1 hnone).1

end KeyOptions

/-! ## All options -/

namespace PairingSettings

/-- The two options for hosts and datastores alike. -/
def forBoth (s : PairingSettings) : KeyOptions :=
  ⟨"custom-attribute", "separator", s.sharedAttribute, s.sharedSeparator⟩

/-- The two options for hosts. -/
def forHosts (s : PairingSettings) : KeyOptions :=
  ⟨"host-attribute", "host-separator", s.hostAttribute, s.hostSeparator⟩

/-- The two options for datastores. -/
def forDatastores (s : PairingSettings) : KeyOptions :=
  ⟨"datastore-attribute", "datastore-separator", s.datastoreAttribute, s.datastoreSeparator⟩

/-- The options for hosts and datastores alike. -/
def sharedEntries (s : PairingSettings) : List (String × Option String) := s.forBoth.entries

/-- The options for hosts or datastores alone. -/
def separateEntries (s : PairingSettings) : List (String × Option String) :=
  s.forHosts.entries ++ s.forDatastores.entries

/-- The four options for hosts and datastores have different names. -/
theorem nodup_separateEntries (s : PairingSettings) : (s.separateEntries.map (·.1)).Nodup := by
  have hnames : s.separateEntries.map (·.1) =
      ["host-attribute", "host-separator", "datastore-attribute", "datastore-separator"] := rfl
  rw [hnames]
  decide

/-- The option for the attribute is one of them. -/
theorem attributeEntry_mem (s : PairingSettings) {k : KeyOptions}
    (hk : k ∈ [s.forHosts, s.forDatastores]) : k.attributeEntry ∈ s.separateEntries := by
  have hentry : k.attributeEntry ∈ k.entries := List.mem_cons_self
  rcases List.mem_pair.1 hk with rfl | rfl
  · exact List.mem_append_left _ hentry
  · exact List.mem_append_right _ hentry

/-- That options give a plan: those for both kinds do and no other is set, or those for each kind do
and no other is set. -/
inductive Plans (s : PairingSettings) : PairingPlan → Prop where
  | alike {rule : KeyRule} (hseparate : NoneSet s.separateEntries) (hrule : s.forBoth.Gives rule) :
    Plans s ⟨rule, rule, s.ignoreMissing⟩
  | each {host datastore : KeyRule} (hshared : NoneSet s.sharedEntries)
    (hhost : s.forHosts.Gives host) (hdatastore : s.forDatastores.Gives datastore) :
    Plans s ⟨host, datastore, s.ignoreMissing⟩

/-- What is wrong with options that give no plan. -/
inductive Fault (s : PairingSettings) : SettingError → Prop where
  | conflict {shared separate : String} (hshared : IsFirstSet s.sharedEntries shared)
    (hseparate : IsFirstSet s.separateEntries separate) : Fault s (.conflict shared separate)
  | nothing (hshared : NoneSet s.sharedEntries) (hseparate : NoneSet s.separateEntries) :
    Fault s (.missingRequired "custom-attribute")
  -- Without the attribute it can only be the separator that calls for it.
  | alike {e : SettingError} (hshared : ¬ NoneSet s.sharedEntries)
    (hseparate : NoneSet s.separateEntries) (hrule : s.forBoth.Fault "separator" e) : Fault s e
  | host {given : String} {e : SettingError} (hshared : NoneSet s.sharedEntries)
    (hseparate : IsFirstSet s.separateEntries given) (hhost : s.forHosts.Fault given e) : Fault s e
  | datastore {given : String} {host : KeyRule} {e : SettingError}
    (hshared : NoneSet s.sharedEntries) (hseparate : IsFirstSet s.separateEntries given)
    (hhost : s.forHosts.Gives host) (hdatastore : s.forDatastores.Fault given e) : Fault s e

/-- That what a fault says of the options is so. -/
def BearsOut (s : PairingSettings) : SettingError → Prop
  | .conflict first second =>
    IsFirstSet s.sharedEntries first ∧ IsFirstSet s.separateEntries second
  | .missingRequired option =>
    option = "custom-attribute" ∧ NoneSet s.sharedEntries ∧ NoneSet s.separateEntries
  | .missingPartner given partner =>
    (IsFirstSet s.sharedEntries given ∧ (partner, none) = s.forBoth.attributeEntry) ∨
      (IsFirstSet s.separateEntries given ∧
        ((partner, none) = s.forHosts.attributeEntry ∨
          (partner, none) = s.forDatastores.attributeEntry))
  | .invalidValue option value reason =>
    ∃ k ∈ [s.forBoth, s.forHosts, s.forDatastores],
      (reason = "attribute name must not be empty" ∧ value = "" ∧
        ∃ text, (option, some text) = k.attributeEntry ∧ IsBlankText text) ∨
      (reason = "separator must be exactly one character" ∧ (option, some value) = k.separatorEntry ∧
        value.length ≠ 1)
  | .unreadable _ _ => False

/-- One attribute, with its separator, for hosts and datastores alike. -/
def alike (source separator : Option String) (ignoreMissing : Bool) : PairingSettings :=
  ⟨source, separator, none, none, none, none, ignoreMissing⟩

/-- The same attribute, with its separator, for hosts and for datastores. -/
def each (source separator : Option String) (ignoreMissing : Bool) : PairingSettings :=
  ⟨none, none, source, separator, source, separator, ignoreMissing⟩

end PairingSettings

namespace PairingPlan

variable {s : PairingSettings} {plan : PairingPlan} {given : String} {e : SettingError}

/-! ### Which options are looked at -/

/-- Options of both groups are in conflict, and the first of each is named. -/
theorem ofSettings_of_conflict {shared separate : String}
    (hshared : IsFirstSet s.sharedEntries shared)
    (hseparate : IsFirstSet s.separateEntries separate) :
    ofSettings s = .error (.conflict shared separate) := by
  have hfirst : s.firstShared = some shared := firstSet_eq_some_iff.2 hshared
  have hsecond : s.firstSeparate = some separate := firstSet_eq_some_iff.2 hseparate
  rw [ofSettings, hfirst, hsecond]

/-- Without any option the attribute for both is required. -/
theorem ofSettings_of_noneSet (hshared : NoneSet s.sharedEntries)
    (hseparate : NoneSet s.separateEntries) :
    ofSettings s = .error (.missingRequired "custom-attribute") := by
  have hfirst : s.firstShared = none := firstSet_eq_none_iff.2 hshared
  have hsecond : s.firstSeparate = none := firstSet_eq_none_iff.2 hseparate
  rw [ofSettings, hfirst, hsecond]

/-- Options of the first group alone make one rule for both. -/
theorem ofSettings_of_shared (hshared : ¬ NoneSet s.sharedEntries)
    (hseparate : NoneSet s.separateEntries) :
    ofSettings s = do
      let rule ← s.forBoth.ruleOf "separator"
      return ⟨rule, rule, s.ignoreMissing⟩ := by
  obtain ⟨shared, hset⟩ := exists_isFirstSet_iff.2 hshared
  have hfirst : s.firstShared = some shared := firstSet_eq_some_iff.2 hset
  have hsecond : s.firstSeparate = none := firstSet_eq_none_iff.2 hseparate
  rw [ofSettings, hfirst, hsecond]
  rfl

/-- Options of the second group alone make a rule each, that for hosts first. -/
theorem ofSettings_of_separate (hshared : NoneSet s.sharedEntries)
    (hseparate : IsFirstSet s.separateEntries given) :
    ofSettings s = do
      let host ← s.forHosts.ruleOf given
      let datastore ← s.forDatastores.ruleOf given
      return ⟨host, datastore, s.ignoreMissing⟩ := by
  have hfirst : s.firstShared = none := firstSet_eq_none_iff.2 hshared
  have hsecond : s.firstSeparate = some given := firstSet_eq_some_iff.2 hseparate
  rw [ofSettings, hfirst, hsecond]
  rfl

/-- What is done with options, by which of the two groups have any that is set. -/
theorem ofSettings_cases (s : PairingSettings) :
    (NoneSet s.sharedEntries ∧ NoneSet s.separateEntries ∧
      ofSettings s = .error (.missingRequired "custom-attribute")) ∨
    (∃ shared separate, IsFirstSet s.sharedEntries shared ∧ IsFirstSet s.separateEntries separate ∧
      ofSettings s = .error (.conflict shared separate)) ∨
    (¬ NoneSet s.sharedEntries ∧ NoneSet s.separateEntries ∧
      ofSettings s = do
        let rule ← s.forBoth.ruleOf "separator"
        return ⟨rule, rule, s.ignoreMissing⟩) ∨
    ∃ given, NoneSet s.sharedEntries ∧ IsFirstSet s.separateEntries given ∧
      ofSettings s = do
        let host ← s.forHosts.ruleOf given
        let datastore ← s.forDatastores.ruleOf given
        return ⟨host, datastore, s.ignoreMissing⟩ := by
  -- The four combinations of the two groups.
  by_cases hshared : NoneSet s.sharedEntries
  · by_cases hseparate : NoneSet s.separateEntries
    · exact .inl ⟨hshared, hseparate, ofSettings_of_noneSet hshared hseparate⟩
    · obtain ⟨given, hgiven⟩ := exists_isFirstSet_iff.2 hseparate
      exact .inr (.inr (.inr ⟨given, hshared, hgiven, ofSettings_of_separate hshared hgiven⟩))
  · by_cases hseparate : NoneSet s.separateEntries
    · exact .inr (.inr (.inl ⟨hshared, hseparate, ofSettings_of_shared hshared hseparate⟩))
    · obtain ⟨shared, hfirst⟩ := exists_isFirstSet_iff.2 hshared
      obtain ⟨separate, hsecond⟩ := exists_isFirstSet_iff.2 hseparate
      exact .inr (.inl ⟨shared, separate, hfirst, hsecond, ofSettings_of_conflict hfirst hsecond⟩)

/-! ### Plans -/

/-- Options make a plan exactly if they are those of one group, and make its rules. -/
theorem ofSettings_eq_ok_iff : ofSettings s = .ok plan ↔ s.Plans plan := by
  constructor
  · intro h
    -- In two of the four cases nothing comes of the options.
    rcases ofSettings_cases s with ⟨-, -, heq⟩ | ⟨shared, separate, -, -, heq⟩ |
      ⟨-, hseparate, heq⟩ | ⟨given, hshared, -, heq⟩
    · rw [heq] at h
      cases h
    · rw [heq] at h
      cases h
    · rw [heq] at h
      obtain ⟨rule, hrule, hplan⟩ := bind_eq_ok_iff.1 h
      cases hplan
      exact .alike hseparate (KeyOptions.ruleOf_eq_ok_iff.1 hrule)
    · rw [heq] at h
      obtain ⟨host, hhost, hrest⟩ := bind_eq_ok_iff.1 h
      obtain ⟨datastore, hdatastore, hplan⟩ := bind_eq_ok_iff.1 hrest
      cases hplan
      exact .each hshared (KeyOptions.ruleOf_eq_ok_iff.1 hhost)
        (KeyOptions.ruleOf_eq_ok_iff.1 hdatastore)
  · intro h
    cases h with
    | alike hseparate hrule =>
      have hshared : ¬ NoneSet s.sharedEntries := hrule.not_noneSet
      rw [ofSettings_of_shared hshared hseparate]
      exact bind_eq_ok_iff.2 ⟨_, KeyOptions.ruleOf_eq_ok_iff.2 hrule, rfl⟩
    | each hshared hhost hdatastore =>
      have hseparate : ¬ NoneSet s.separateEntries := fun h =>
        hhost.not_noneSet (noneSet_append.1 h).1
      obtain ⟨given, hgiven⟩ := exists_isFirstSet_iff.2 hseparate
      rw [ofSettings_of_separate hshared hgiven]
      refine bind_eq_ok_iff.2 ⟨_, KeyOptions.ruleOf_eq_ok_iff.2 hhost, ?_⟩
      exact bind_eq_ok_iff.2 ⟨_, KeyOptions.ruleOf_eq_ok_iff.2 hdatastore, rfl⟩

/-! ### Faults -/

/-- An attribute that is missing is not what was given. -/
theorem separate_given {k : KeyOptions} (hk : k ∈ [s.forHosts, s.forDatastores])
    (hgiven : IsFirstSet s.separateEntries given) :
    k.source = none → given ≠ k.attributeOption := by
  intro hunset
  have hmem : k.attributeEntry ∈ s.separateEntries := s.attributeEntry_mem hk
  rw [KeyOptions.attributeEntry, hunset] at hmem
  exact hgiven.ne_of_unset s.nodup_separateEntries hmem

/-- In the first group an attribute that is missing leaves only the separator to be given. -/
theorem shared_given : s.forBoth.source = none → "separator" ≠ s.forBoth.attributeOption := by
  intro _
  show "separator" ≠ "custom-attribute"
  decide

/-- Options are refused exactly for the first fault there is. -/
theorem ofSettings_eq_error_iff : ofSettings s = .error e ↔ s.Fault e := by
  have hhosts : s.forHosts ∈ [s.forHosts, s.forDatastores] := by simp
  have hdatastores : s.forDatastores ∈ [s.forHosts, s.forDatastores] := by simp
  constructor
  · intro h
    -- In each of the four cases the fault is that of the first step that fails.
    rcases ofSettings_cases s with ⟨hshared, hseparate, heq⟩ |
      ⟨shared, separate, hshared, hseparate, heq⟩ | ⟨hshared, hseparate, heq⟩ |
      ⟨given, hshared, hgiven, heq⟩
    · rw [heq] at h
      cases h
      exact .nothing hshared hseparate
    · rw [heq] at h
      cases h
      exact .conflict hshared hseparate
    · rw [heq] at h
      rcases bind_eq_error_iff.1 h with hrule | ⟨rule, -, hplan⟩
      · exact .alike hshared hseparate ((KeyOptions.ruleOf_eq_error_iff shared_given).1 hrule)
      · cases hplan
    · rw [heq] at h
      rcases bind_eq_error_iff.1 h with hhost | ⟨host, hhost, hrest⟩
      · exact .host hshared hgiven
          ((KeyOptions.ruleOf_eq_error_iff (separate_given hhosts hgiven)).1 hhost)
      · rcases bind_eq_error_iff.1 hrest with hdatastore | ⟨datastore, -, hplan⟩
        · exact .datastore hshared hgiven (KeyOptions.ruleOf_eq_ok_iff.1 hhost)
            ((KeyOptions.ruleOf_eq_error_iff (separate_given hdatastores hgiven)).1 hdatastore)
        · cases hplan
  · intro h
    cases h with
    | conflict hshared hseparate => exact ofSettings_of_conflict hshared hseparate
    | nothing hshared hseparate => exact ofSettings_of_noneSet hshared hseparate
    | alike hshared hseparate hrule =>
      rw [ofSettings_of_shared hshared hseparate]
      exact bind_eq_error_iff.2 (.inl ((KeyOptions.ruleOf_eq_error_iff shared_given).2 hrule))
    | host hshared hgiven hhost =>
      rw [ofSettings_of_separate hshared hgiven]
      exact bind_eq_error_iff.2
        (.inl ((KeyOptions.ruleOf_eq_error_iff (separate_given hhosts hgiven)).2 hhost))
    | datastore hshared hgiven hhost hdatastore =>
      rw [ofSettings_of_separate hshared hgiven]
      refine bind_eq_error_iff.2 (.inr ⟨_, KeyOptions.ruleOf_eq_ok_iff.2 hhost, ?_⟩)
      exact bind_eq_error_iff.2
        (.inl ((KeyOptions.ruleOf_eq_error_iff (separate_given hdatastores hgiven)).2 hdatastore))

end PairingPlan

namespace PairingSettings

variable {s : PairingSettings} {e : SettingError}

/-- A separator without its attribute is the first option set for both kinds. -/
theorem isFirstSet_separator (hset : ¬ NoneSet s.sharedEntries) (hunset : s.forBoth.source = none) :
    IsFirstSet s.sharedEntries "separator" := by
  obtain ⟨given, hgiven⟩ := exists_isFirstSet_iff.2 hset
  obtain ⟨text, hmem⟩ := hgiven.mem
  -- Of the two shared options it is not the attribute, which is unset.
  rcases List.mem_pair.1 hmem with hattribute | hseparator
  · rw [KeyOptions.attributeEntry, hunset] at hattribute
    cases hattribute
  · have hname : given = "separator" := congrArg Prod.fst hseparator
    exact hname ▸ hgiven

/-- A fault in two options is as it is said to be. -/
theorem bearsOut_of_fault {k : KeyOptions} {given : String}
    (hk : k ∈ [s.forBoth, s.forHosts, s.forDatastores]) (h : k.Fault given e)
    (hunset : k.source = none → s.BearsOut (.missingPartner given k.attributeOption)) :
    s.BearsOut e := by
  -- Each fault names an option that is set as it says, or one that is unset.
  cases h with
  | unset hsource => exact hunset hsource
  | blank hsource hblank =>
    refine ⟨k, hk, .inl ⟨rfl, rfl, _, ?_, hblank⟩⟩
    rw [KeyOptions.attributeEntry, hsource]
  | separator _ _ hseparator hlength =>
    refine ⟨k, hk, .inr ⟨rfl, ?_, hlength⟩⟩
    rw [KeyOptions.separatorEntry, hseparator]

/-- What is blamed is always to blame. -/
theorem Fault.bearsOut (h : s.Fault e) : s.BearsOut e := by
  cases h with
  | conflict hshared hseparate => exact ⟨hshared, hseparate⟩
  | nothing hshared hseparate => exact ⟨rfl, hshared, hseparate⟩
  -- Where the attribute is missing the separator is what was given.
  | alike hshared _ hrule =>
    apply bearsOut_of_fault (by simp) hrule
    intro hunset
    exact .inl ⟨isFirstSet_separator hshared hunset, by rw [KeyOptions.attributeEntry, hunset]⟩
  | host _ hgiven hhost =>
    apply bearsOut_of_fault (by simp) hhost
    intro hunset
    exact .inr ⟨hgiven, .inl (by rw [KeyOptions.attributeEntry, hunset])⟩
  | datastore _ hgiven _ hdatastore =>
    apply bearsOut_of_fault (by simp) hdatastore
    intro hunset
    exact .inr ⟨hgiven, .inr (by rw [KeyOptions.attributeEntry, hunset])⟩

end PairingSettings

namespace PairingPlan

variable {s : PairingSettings} {plan : PairingPlan}

/-- One attribute for both kinds is short for the same one for each. -/
theorem ofSettings_alike (source separator : Option String) (ignoreMissing : Bool) :
    ofSettings (.alike source separator ignoreMissing) = .ok plan ↔
      ofSettings (.each source separator ignoreMissing) = .ok plan := by
  rw [ofSettings_eq_ok_iff, ofSettings_eq_ok_iff]
  constructor
  · intro h
    cases h with
    | alike _ hrule =>
      have hshared : NoneSet (PairingSettings.each source separator ignoreMissing).sharedEntries :=
        KeyOptions.noneSet_entries.2 ⟨rfl, rfl⟩
      exact .each hshared (hrule.renamed rfl rfl) (hrule.renamed rfl rfl)
    | each _ hhost _ => exact absurd rfl hhost.source_ne_none
  · intro h
    cases h with
    | alike _ hrule => exact absurd rfl hrule.source_ne_none
    | each _ hhost hdatastore =>
      -- The options for both are the only ones set on the other side.
      have hseparate :
          NoneSet (PairingSettings.alike source separator ignoreMissing).separateEntries :=
        noneSet_append.2
          ⟨KeyOptions.noneSet_entries.2 ⟨rfl, rfl⟩, KeyOptions.noneSet_entries.2 ⟨rfl, rfl⟩⟩
      obtain rfl := hhost.unique (hdatastore.renamed rfl rfl)
      exact .alike hseparate (hhost.renamed rfl rfl)

/-- There is a conflict exactly if options of both groups are set. -/
theorem exists_ofSettings_eq_conflict_iff :
    (∃ first second, ofSettings s = .error (.conflict first second)) ↔
      ¬ NoneSet s.sharedEntries ∧ ¬ NoneSet s.separateEntries := by
  constructor
  · rintro ⟨first, second, h⟩
    obtain ⟨hfirst, hsecond⟩ := (ofSettings_eq_error_iff.1 h).bearsOut
    exact ⟨hfirst.not_noneSet, hsecond.not_noneSet⟩
  · rintro ⟨hshared, hseparate⟩
    obtain ⟨first, hfirst⟩ := exists_isFirstSet_iff.2 hshared
    obtain ⟨second, hsecond⟩ := exists_isFirstSet_iff.2 hseparate
    exact ⟨first, second, ofSettings_of_conflict hfirst hsecond⟩

/-- An option is required exactly if none is set. -/
theorem exists_ofSettings_eq_missingRequired_iff :
    (∃ option, ofSettings s = .error (.missingRequired option)) ↔
      NoneSet s.sharedEntries ∧ NoneSet s.separateEntries := by
  constructor
  · rintro ⟨option, h⟩
    exact ((ofSettings_eq_error_iff.1 h).bearsOut).2
  · rintro ⟨hshared, hseparate⟩
    exact ⟨_, ofSettings_of_noneSet hshared hseparate⟩

/-- **Options give a plan exactly in the two forms, and no option is blamed without reason.** Options
are refused as contradictory exactly if some of each group are set, and as missing exactly if none is;
whatever else they are refused for is so of the options that it names. One attribute for hosts and
datastores alike gives the plan that the same attribute gives if it is set for each of them. -/
theorem ofSettings_resolution :
    (∀ s plan, ofSettings s = .ok plan ↔ s.Plans plan) ∧
    (∀ s e, ofSettings s = .error e → s.BearsOut e) ∧
    (∀ s, (∃ first second, ofSettings s = .error (.conflict first second)) ↔
      ¬ NoneSet s.sharedEntries ∧ ¬ NoneSet s.separateEntries) ∧
    (∀ s, (∃ option, ofSettings s = .error (.missingRequired option)) ↔
      NoneSet s.sharedEntries ∧ NoneSet s.separateEntries) ∧
    ∀ source separator ignoreMissing plan,
      ofSettings (.alike source separator ignoreMissing) = .ok plan ↔
        ofSettings (.each source separator ignoreMissing) = .ok plan := by
  refine ⟨fun s plan => ofSettings_eq_ok_iff, fun s e h => ?_,
    fun s => exists_ofSettings_eq_conflict_iff, fun s => exists_ofSettings_eq_missingRequired_iff,
    fun source separator ignoreMissing plan => ofSettings_alike source separator ignoreMissing⟩
  exact (ofSettings_eq_error_iff.1 h).bearsOut

end PairingPlan

end InventoryProbe
