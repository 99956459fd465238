import InventoryProbe.Criteria
import InventoryProbe.Pairing
import InventoryProbe.Thresholds
import InventoryProbe.VersionPolicy

/-!
# Settings

Everything that an operator can set for a run. Settings come in layers, a file below and the command
line above: a value given above replaces the one below, sets and flags add up.
-/

namespace InventoryProbe

open Std (ExtTreeMap)

/-- What an operator has set for a run. -/
structure Settings where
  /-- The seconds that a run may take. -/
  timeout : UInt64
  criteria : Criteria
  /-- The boundaries set for checks, by name. -/
  thresholds : ExtTreeMap String ThresholdSettings
  pairing : PairingSettings
  version : VersionSettings
  deriving DecidableEq

namespace Settings

/-- The seconds that a run may take unless set otherwise. -/
def standardTimeout : UInt64 := 10

/-- Nothing set. -/
def unset : Settings := ⟨standardTimeout, .initial, ∅, .unset, .unset⟩

instance : Inhabited Settings := ⟨unset⟩

def layout : Layout Settings Settings :=
  Layout.start Settings.mk
    |>.defaulted "timeout_secs" .word64 standardTimeout (·.timeout)
    |>.defaulted "filter" Criteria.codec .initial (·.criteria)
    |>.defaulted "thresholds" ThresholdSettings.codec.table ∅ (·.thresholds)
    |>.defaulted "pairing" PairingSettings.codec .unset (·.pairing)
    |>.defaulted "hardware_version" VersionSettings.codec .unset (·.version)

def codec : Codec Settings := layout.codec .refused

/-- The boundaries set for a check. -/
def thresholdsFor (s : Settings) (check : String) : ThresholdSettings :=
  s.thresholds[check]?.getD .unset

/-! ## Layers -/

/-- The settings with another timeout, if one is given. -/
def withTimeout (s : Settings) (seconds : Option UInt64) : Settings :=
  { s with timeout := seconds.getD s.timeout }

/-- The settings with further criteria. -/
def withCriteria (s : Settings) (c : Criteria) : Settings :=
  { s with criteria := s.criteria.union c }

/-- The settings with boundaries for a check; a check for which none is set is not mentioned. -/
def withThresholds (s : Settings) (check : String) (t : ThresholdSettings) : Settings :=
  let merged := t.above (s.thresholdsFor check)
  if merged = .unset then s else { s with thresholds := s.thresholds.insert check merged }

/-- The settings with options for pairing. -/
def withPairing (s : Settings) (p : PairingSettings) : Settings :=
  { s with pairing := p.above s.pairing }

/-- The settings with options for the version policy. -/
def withVersion (s : Settings) (v : VersionSettings) : Settings :=
  { s with version := v.above s.version }

/-! ## Validity -/

/-- Refuses settings that no check could run with. What concerns one check only is looked at when
that check is built. -/
def validate (s : Settings) : Except SettingError Unit :=
  if s.timeout = 0 then
    .error (.invalidValue "timeout" "0" "timeout must be at least one second")
  else s.criteria.validate

end Settings

end InventoryProbe
