import InventoryProbe.CommandLine.Option
import InventoryProbe.Settings.Load

/-!
# Arguments

What a command line asks for: a check, an inventory file, a settings file, and settings that go
over those of the file.
-/

namespace InventoryProbe.CommandLine

open Std (ExtTreeSet TransOrd)

/-- Why a command line is not followed. -/
inductive UsageError where
  | unknownArgument
  | missingRequired
  /-- A value is missing, or is not one of those to choose from. -/
  | invalidValue
  /-- A value cannot be understood. -/
  | unreadableValue
  /-- An option that is given once was given again. -/
  | repeated
  /-- A flag was given a value. -/
  | excessValue
  | helpWanted
  | versionWanted
  deriving DecidableEq, Repr

/-- How a report is written. -/
inductive OutputFormat where
  | text
  | json
  deriving DecidableEq, Repr

/-- What a command line asks for. -/
structure Arguments where
  check : Option String
  inventory : Option String
  config : Option String
  list : Bool
  output : OutputFormat
  verbose : Bool
  timeout : Option UInt64
  thresholds : ThresholdSettings
  criteria : Criteria
  pairing : PairingSettings
  version : VersionSettings

namespace Arguments

/-- Nothing asked for. -/
def nothing : Arguments :=
  ⟨none, none, none, false, .text, false, none, .unset, .initial, .unset, .unset⟩

/-- The arguments with a flag set. -/
def setFlag (a : Arguments) : Flag → Except UsageError Arguments
  | .list => .ok { a with list := true }
  | .verbose => .ok { a with verbose := true }
  | .includePoweredOff => .ok { a with criteria.poweredOff := true }
  | .includeAcknowledged => .ok { a with criteria.acknowledged := true }
  | .ignoreMissing => .ok { a with pairing.ignoreMissing := true }
  | .homogeneous => .ok { a with version.homogeneous := true }
  | .defaultIsMinimum => .ok { a with version.defaultIsMinimum := true }
  | .help => .error .helpWanted
  | .version => .error .versionWanted

/-! ## Values -/

/-- The value that `parse` makes of a text. -/
def understood {α : Type} (parse : String → Option α) (s : String) : Except UsageError α :=
  match parse s with
  | some a => .ok a
  | none => .error .unreadableValue

/-- A path, which is not empty. -/
def path (s : String) : Except UsageError String :=
  if s = "" then .error .invalidValue else .ok s

/-- A format by its name. -/
def format (s : String) : Except UsageError OutputFormat :=
  if s = "text" then .ok .text
  else if s = "json" then .ok .json
  else .error .invalidValue

/-- Digits behind an optional plus. -/
def digits? (cs : List Char) : Option Nat :=
  let ds := match cs with
    | '+' :: rest => rest
    | _ => cs
  if !ds.isEmpty && ds.all Text.isDigit then some (Text.numberOf 10 ds) else none

/-- A whole number of 64 binary digits. -/
def word64? (s : String) : Option UInt64 := do
  let n ← digits? s.toList
  if h : n < UInt64.size then some (UInt64.ofNatLT n h) else none

/-- A whole number of 32 binary digits; zero may have a minus. -/
def word32? (s : String) : Option UInt32 := do
  let n ← match s.toList with
    | '-' :: ds =>
      if !ds.isEmpty && ds.all (· == '0') then some 0 else none
    | cs => digits? cs
  if h : n < UInt32.size then some (UInt32.ofNatLT n h) else none

/-- A number. -/
def number? (s : String) : Option Binary64 := Binary64.parse? s.toList

/-- A set with the values that a text gives, divided by commas. -/
def extended {α : Type} [Ord α] [TransOrd α] (set : ExtTreeSet α) (parse : String → Option α)
    (s : String) : Except UsageError (ExtTreeSet α) := do
  let values ← (s.splitOn ",").mapM (understood parse)
  return values.foldl (·.insert ·) set

/-- An entity type. -/
def entityType? (s : String) : Option EntityType := (EntityType.parse s).toOption

/-- A status. -/
def status? (s : String) : Option AlarmStatus := (AlarmStatus.parse s).toOption

/-- The values of an axis with further included ones. -/
def including {α : Type} [Ord α] [TransOrd α] (axis : Axis α) (parse : String → Option α)
    (s : String) : Except UsageError (Axis α) := do
  return ⟨← extended axis.included parse s, axis.excluded⟩

/-- The values of an axis with further excluded ones. -/
def excluding {α : Type} [Ord α] [TransOrd α] (axis : Axis α) (parse : String → Option α)
    (s : String) : Except UsageError (Axis α) := do
  return ⟨axis.included, ← extended axis.excluded parse s⟩

/-- The arguments with the value of an option. -/
def setValue (a : Arguments) (option : ValueOption) (s : String) : Except UsageError Arguments := do
  let c := a.criteria
  match option with
  | .inventory => return { a with inventory := some (← path s) }
  | .config => return { a with config := some (← path s) }
  | .output => return { a with output := ← format s }
  | .timeout => return { a with timeout := some (← understood word64? s) }
  | .warning => return { a with thresholds.warning := some (← understood number? s) }
  | .critical => return { a with thresholds.critical := some (← understood number? s) }
  | .includePool => return { a with criteria.pools := ← including c.pools some s }
  | .excludePool => return { a with criteria.pools := ← excluding c.pools some s }
  | .ignoreMachine =>
    return { a with criteria.ignoredMachines := ← extended c.ignoredMachines some s }
  | .ignoreDatastore =>
    return { a with criteria.ignoredDatastores := ← extended c.ignoredDatastores some s }
  | .includeType =>
    return { a with criteria.entityTypes := ← including c.entityTypes entityType? s }
  | .excludeType =>
    return { a with criteria.entityTypes := ← excluding c.entityTypes entityType? s }
  | .includeName => return { a with criteria.alarmNames := ← including c.alarmNames some s }
  | .excludeName => return { a with criteria.alarmNames := ← excluding c.alarmNames some s }
  | .includeStatus => return { a with criteria.statuses := ← including c.statuses status? s }
  | .excludeStatus => return { a with criteria.statuses := ← excluding c.statuses status? s }
  | .sharedAttribute => return { a with pairing.sharedAttribute := some s }
  | .sharedSeparator => return { a with pairing.sharedSeparator := some s }
  | .hostAttribute => return { a with pairing.hostAttribute := some s }
  | .hostSeparator => return { a with pairing.hostSeparator := some s }
  | .datastoreAttribute => return { a with pairing.datastoreAttribute := some s }
  | .datastoreSeparator => return { a with pairing.datastoreSeparator := some s }
  | .outdatedByWarning =>
    return { a with version.outdatedByWarning := some (← understood word32? s) }
  | .outdatedByCritical =>
    return { a with version.outdatedByCritical := some (← understood word32? s) }
  | .minimumRequired =>
    return { a with version.minimumRequired := some (← understood HardwareVersion.parse? s) }

/-! ## Settings -/

/-- The settings with those of the command line over them; boundaries are for the check asked
for. -/
def applyTo (a : Arguments) (s : Settings) : Settings :=
  let s := s.withTimeout a.timeout
  let s := s.withCriteria a.criteria
  let s := s.withPairing a.pairing
  let s := s.withVersion a.version
  match a.check with
  | some check => s.withThresholds check a.thresholds
  | none => s

/-- The settings of the settings file, if one is asked for, with those of the command line over
them. -/
def settings (a : Arguments) (find : String → SourceFile) : Except SettingError Settings := do
  let base ← match a.config with
    | some path => Settings.load (find path)
    | none => .ok .unset
  return a.applyTo base

end Arguments

end InventoryProbe.CommandLine
