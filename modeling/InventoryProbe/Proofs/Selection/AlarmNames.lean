import InventoryProbe.Proofs.Selection.Parted
import InventoryProbe.Proofs.Text.Lowercase

/-!
# Patterns for alarm names

A pattern is meant to be found in a name in any case of its letters, so above all where it stands there
letter for letter. But both are put into small letters first, each by itself, and a capital sigma at
the edge of a pattern then looks the way it does where a word ends, whatever follows it in the name.

* **`Follows`**: an alarm is kept where a pattern is included and dropped where it is excluded.
* **`follows_iff`**: for this the pattern must be in the name in small letters.
* **`follows_literally_iff`**: a pattern that stands in a name letter for letter is found, unless one of
  its sigmas has another form there. There is such a name exactly for patterns with a sigma at an edge.
-/

namespace InventoryProbe

open Std (ExtTreeSet)

namespace Criteria

variable {c : Criteria} {inventory : Inventory} {a : Alarm} {pattern : String}

/-- That an alarm is kept by criteria that include any patterns among which is a certain one, and dropped
by criteria that exclude them. -/
def Follows (c : Criteria) (inventory : Inventory) (a : Alarm) (pattern : String) : Prop :=
  ∀ patterns : ExtTreeSet String, pattern ∈ patterns →
    a ∈ ((c.including (.alarmNames patterns)).select inventory).alarms ∧
    a ∉ ((c.excluding (.alarmNames patterns)).select inventory).alarms

/-- A text matches some patterns if it contains one of them in small letters. -/
theorem matchesAny_iff {text : String} {patterns : ExtTreeSet String} :
    matchesAny text patterns ↔ ∃ pattern : String, pattern ∈ patterns ∧
      Text.contains (Text.lowercase pattern.toList) (Text.lowercase text.toList) := by
  simp only [matchesAny, List.any_eq_true, ExtTreeSet.mem_toList]

/-- Of an alarm that was kept the patterns alone decide what becomes of it. -/
theorem mem_alarms_parted {patterns : ExtTreeSet String} (hfree : c.IsFree .alarmNames)
    (hgiven : patterns ≠ ∅) (ha : a ∈ (c.select inventory).alarms) :
    (a ∈ ((c.including (.alarmNames patterns)).select inventory).alarms
      ↔ matchesAny a.name patterns) ∧
    (a ∈ ((c.excluding (.alarmNames patterns)).select inventory).alarms
      ↔ ¬ matchesAny a.name patterns) := by
  obtain ⟨hlisted, hkept⟩ := List.mem_filter.1 ha
  have haxis : (Restriction.alarmNames patterns).axis ≠ .pools := nofun
  obtain ⟨hin, hout⟩ := keepsAlarm_parted haxis hfree hgiven a
  -- The alarm is kept where the axis is free, so that the patterns decide alone.
  rw [hkept, Bool.true_and] at hin hout
  constructor
  · show a ∈ inventory.alarms.filter _ ↔ _
    rw [List.mem_filter, hin]
    exact and_iff_right hlisted
  · show a ∈ inventory.alarms.filter _ ↔ _
    rw [List.mem_filter, hout, Bool.not_eq_true', Bool.not_eq_true]
    exact and_iff_right hlisted

/-- Whether an alarm follows a pattern is told by small letters alone. -/
theorem follows_iff (hfree : c.IsFree .alarmNames) (ha : a ∈ (c.select inventory).alarms) :
    c.Follows inventory a pattern ↔
      Text.contains (Text.lowercase pattern.toList) (Text.lowercase a.name.toList) := by
  constructor
  · intro h
    have hgiven : ({pattern} : ExtTreeSet String) ≠ ∅ := by simp
    -- Taken by itself the pattern shows whether it matches.
    obtain ⟨hin, -⟩ := h {pattern} (by simp)
    obtain ⟨only, hmem, hpart⟩ := matchesAny_iff.1 ((mem_alarms_parted hfree hgiven ha).1.1 hin)
    have hsame : compare pattern only = .eq := by simpa using hmem
    rwa [Std.compare_eq_iff_eq.1 hsame]
  · intro h patterns hmem
    have hgiven : patterns ≠ ∅ := by
      rintro rfl
      exact ExtTreeSet.not_mem_empty hmem
    have hmatch := matchesAny_iff.2 ⟨pattern, hmem, h⟩
    obtain ⟨hin, hout⟩ := mem_alarms_parted hfree hgiven ha
    exact ⟨hin.2 hmatch, fun hkept => hout.1 hkept hmatch⟩

/-! ## Patterns that are in a name letter for letter -/

/-- A red alarm on a host. -/
def alarmNamed (name : String) : Alarm :=
  ⟨"alarm-1", name, "", none, ⟨.host, "host-1", "esx-1"⟩, .red, false, none⟩

/-- An inventory with one alarm, of which nothing but the name is of interest. -/
def siteNaming (name : String) : Inventory :=
  { PreparedRun.pairedSite with alarms := [alarmNamed name] }

/-- The alarm is kept by criteria that say nothing. -/
theorem alarmNamed_mem_select (name : String) :
    alarmNamed name ∈ (Criteria.initial.select (siteNaming name)).alarms := by
  apply List.mem_filter.2
  refine ⟨List.mem_singleton_self _, ?_⟩
  rw [keepsAlarm_iff]
  have hnames := Axis.keeps_of_unrestricted rfl (matchesAny_empty name)
  exact ⟨rfl, rfl, hnames, rfl⟩

/-- **A pattern that is in a name letter for letter is found, unless a sigma looks otherwise there.** Where
criteria say nothing about alarm names, an alarm that they keep follows every pattern that stands somewhere
in its name, provided that each capital sigma of the pattern ends a word there exactly if it ends one of the
pattern. Without the proviso this is true of a pattern, for all names, exactly if it has no sigma at an
edge. -/
theorem follows_literally_iff (pattern : String) :
    (∀ (c : Criteria) (inventory : Inventory) (a : Alarm) (front back : List Char),
      c.validate = .ok () → c.IsFree .alarmNames → a ∈ (c.select inventory).alarms →
      a.name.toList = front ++ pattern.toList ++ back →
      Text.KeepsSigmas front.reverse pattern.toList back → c.Follows inventory a pattern) ∧
    ((∀ (c : Criteria) (inventory : Inventory) (a : Alarm),
      c.validate = .ok () → c.IsFree .alarmNames → a ∈ (c.select inventory).alarms →
      pattern.toList <:+: a.name.toList → c.Follows inventory a pattern) ↔
        ¬ Text.SigmaAtEdge pattern.toList) := by
  have hfound : ∀ (c : Criteria) (inventory : Inventory) (a : Alarm) (front back : List Char),
      c.IsFree .alarmNames → a ∈ (c.select inventory).alarms →
      a.name.toList = front ++ pattern.toList ++ back →
      Text.KeepsSigmas front.reverse pattern.toList back → c.Follows inventory a pattern := by
    intro c inventory a front back hfree ha hname hkeeps
    rw [follows_iff hfree ha, hname]
    exact Text.contains_lowercase_of_keepsSigmas hkeeps
  refine ⟨fun c inventory a front back _ => hfound c inventory a front back, ?_⟩
  rw [← Text.contains_lowercase_iff]
  constructor
  · -- Any name at all is that of an alarm.
    intro h front back
    have hname : (alarmNamed (String.ofList (front ++ pattern.toList ++ back))).name.toList
        = front ++ pattern.toList ++ back := String.toList_ofList
    have ha := alarmNamed_mem_select (String.ofList (front ++ pattern.toList ++ back))
    have hfree : Criteria.initial.IsFree .alarmNames := rfl
    have hfollows := h .initial _ _ rfl hfree ha ⟨front, back, hname.symm⟩
    rwa [follows_iff hfree ha, hname] at hfollows
  · rintro h c inventory a - hfree ha ⟨front, back, hname⟩
    rw [follows_iff hfree ha, ← hname]
    exact h front back

/-! ## A pattern that is not found

The pattern ends with a sigma, behind which the name goes on. -/

/-- The name contains the pattern letter by letter, and does not follow it. -/
theorem siteNaming_not_follows :
    let a := alarmNamed "ΔΙΣΚΟΣ"
    Criteria.initial.validate = .ok () ∧ Criteria.initial.IsFree .alarmNames ∧
    a ∈ (Criteria.initial.select (siteNaming a.name)).alarms ∧ "ΔΙΣ".toList <:+: a.name.toList ∧
    ((Criteria.initial.including (.alarmNames {"ΔΙΣ"})).select (siteNaming a.name)).alarms = [] ∧
    ((Criteria.initial.excluding (.alarmNames {"ΔΙΣ"})).select (siteNaming a.name)).alarms = [a] := by
  refine ⟨rfl, rfl, alarmNamed_mem_select _, ⟨[], "ΚΟΣ".toList, by decide⟩, ?_, ?_⟩
  · decide +kernel
  · decide +kernel

end Criteria

end InventoryProbe
