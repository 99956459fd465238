import InventoryProbe.Selection
import InventoryProbe.Tally
import InventoryProbe.Thresholds

/-!
# Version policies

What virtual hardware version a machine should have. Exactly one policy is in force: all machines
alike, no machine too far behind the newest, no machine below a fixed version, or none below the
default that new machines would get.
-/

namespace InventoryProbe

/-! ## Settings -/

/-- The options that select a policy. -/
structure VersionSettings where
  homogeneous : Bool
  outdatedByWarning : Option UInt32
  outdatedByCritical : Option UInt32
  minimumRequired : Option HardwareVersion
  defaultIsMinimum : Bool
  deriving DecidableEq

namespace VersionSettings

/-- No policy selected. -/
def unset : VersionSettings := ⟨false, none, none, none, false⟩

instance : Inhabited VersionSettings := ⟨unset⟩

/-- The options set here, and for the others those of `base`. -/
def above (settings base : VersionSettings) : VersionSettings where
  homogeneous := settings.homogeneous || base.homogeneous
  outdatedByWarning := settings.outdatedByWarning <|> base.outdatedByWarning
  outdatedByCritical := settings.outdatedByCritical <|> base.outdatedByCritical
  minimumRequired := settings.minimumRequired <|> base.minimumRequired
  defaultIsMinimum := settings.defaultIsMinimum || base.defaultIsMinimum

def layout : Layout VersionSettings VersionSettings :=
  Layout.start VersionSettings.mk
    |>.defaulted "homogeneous" .bool false (·.homogeneous)
    |>.optional "outdated_by_warning" .word32 (·.outdatedByWarning)
    |>.optional "outdated_by_critical" .word32 (·.outdatedByCritical)
    |>.optional "minimum_required" HardwareVersion.codec (·.minimumRequired)
    |>.defaulted "default_is_minimum" .bool false (·.defaultIsMinimum)

def codec : Codec VersionSettings := layout.codec .refused

/-- The first option given for each policy that is selected. -/
def selected (s : VersionSettings) : List String :=
  (if s.homogeneous then ["homogeneous"] else []) ++
  (if s.outdatedByWarning.isSome then ["outdated-by-warning"]
   else if s.outdatedByCritical.isSome then ["outdated-by-critical"] else []) ++
  (if s.minimumRequired.isSome then ["minimum-required"] else []) ++
  (if s.defaultIsMinimum then ["default-is-minimum"] else [])

end VersionSettings

/-! ## Policies -/

/-- What version machines should have. -/
inductive VersionPolicy where
  /-- The newest that any machine has. -/
  | homogeneous
  /-- Not too far behind the newest that any machine has. -/
  | outdatedBy (distance : Thresholds Nat)
  /-- At least a fixed one. -/
  | minimumRequired (minimum : HardwareVersion)
  /-- At least the default of the machine's host or cluster, or of the whole environment. -/
  | defaultIsMinimum
  deriving DecidableEq, Repr

namespace VersionPolicy

/-- The policy that options select; without any, all machines should be alike. -/
def ofSettings (s : VersionSettings) : Except SettingError VersionPolicy :=
  match s.selected with
  | first :: second :: _ => .error (.conflict first second)
  | _ => do
    let distance ← Thresholds.ofOptions "outdated-by-warning" "outdated-by-critical"
      (s.outdatedByWarning.map UInt32.toNat) (s.outdatedByCritical.map UInt32.toNat)
    -- At most one policy is selected by now, so the order of these cases does not matter.
    return match distance, s.minimumRequired with
      | some distance, _ => .outdatedBy distance
      | none, some minimum => .minimumRequired minimum
      | none, none => if s.defaultIsMinimum then .defaultIsMinimum else .homogeneous

/-- The name of a policy. -/
def name : VersionPolicy → String
  | .homogeneous => "homogeneous"
  | .outdatedBy _ => "outdated-by"
  | .minimumRequired _ => "minimum-required"
  | .defaultIsMinimum => "default-is-minimum"

/-- The newest version among machines. -/
def newest (machines : List VirtualMachine) : HardwareVersion :=
  machines.foldl (fun v m => v.latest m.hardwareVersion) ⟨0⟩

/-- Where the default of a machine comes from. -/
inductive DefaultSource where
  | host
  | cluster
  | environment
  deriving DecidableEq, Repr

/-- The word for a source. -/
def DefaultSource.text : DefaultSource → String
  | .host => "host"
  | .cluster => "cluster"
  | .environment => "environment"

/-- The default version for a machine, and its source: that of its host, else of the host's cluster,
else of the environment. -/
def default? (s : Selection) (m : VirtualMachine) : Option (HardwareVersion × DefaultSource) :=
  let host := m.host.bind s.host?
  let cluster := (host.bind (·.cluster)).bind s.cluster?
  ((host.bind (·.defaultVersion)).map (·, DefaultSource.host)) <|>
  ((cluster.bind (·.defaultVersion)).map (·, DefaultSource.cluster)) <|>
  (s.inventory.defaultVersion.map (·, DefaultSource.environment))

/-- The verdict on a machine that should have the newest version. -/
def judgeHomogeneous (newest version : HardwareVersion) : Verdict :=
  if version < newest then
    .warning (.version version) ("hardware version " ++ version.text
      ++ " is older than newest in-scope version " ++ newest.text)
  else .ok (.version version) ("hardware version " ++ version.text ++ " is current")

/-- The verdict on a machine that should not be too far behind the newest version. -/
def judgeDistance (distance : Thresholds Nat) (newest version : HardwareVersion) : Verdict :=
  let behind := version.behind newest
  ⟨.version version, distance.classify .higher behind,
    "hardware version " ++ version.text ++ " is " ++ toString behind ++ " version(s) behind "
      ++ newest.text ++ " (" ++ distance.text toString ++ ")"⟩

/-- The verdict on a machine that should have at least a fixed version. -/
def judgeMinimum (minimum version : HardwareVersion) : Verdict :=
  if version < minimum then
    .critical (.version version) ("hardware version " ++ version.text
      ++ " is below required minimum " ++ minimum.text)
  else .ok (.version version) ("hardware version " ++ version.text ++ " meets minimum "
    ++ minimum.text)

/-- The verdict on a machine that should have at least its default version. -/
def judgeDefault (default : HardwareVersion) (source : DefaultSource) (version : HardwareVersion) :
    Verdict :=
  ⟨.version version, if version < default then .warning else .ok,
    "hardware version " ++ version.text ++ " compared with " ++ source.text ++ " default "
      ++ default.text⟩

/-- The verdict on a machine of a selection in which `newest` is the newest version. -/
def judge (policy : VersionPolicy) (s : Selection) (newest : HardwareVersion) (m : VirtualMachine) :
    Except EvaluationFault Verdict :=
  match policy with
  | .homogeneous => .ok (judgeHomogeneous newest m.hardwareVersion)
  | .outdatedBy distance => .ok (judgeDistance distance newest m.hardwareVersion)
  | .minimumRequired minimum => .ok (judgeMinimum minimum m.hardwareVersion)
  | .defaultIsMinimum =>
    match default? s m with
    | some (default, source) => .ok (judgeDefault default source m.hardwareVersion)
    | none =>
      .error (.unavailable ("no default hardware version known for the host or cluster of VM '"
        ++ m.name ++ "'"))

/-- The objects judged: every machine kept. -/
def scope (s : Selection) : List ObjectRef := s.virtualMachines.map (·.ref)

/-- The judgements on every machine kept, or the fault met first. -/
def evaluate (policy : VersionPolicy) (s : Selection) : Except EvaluationFault (List Judgement) :=
  let newest := newest s.virtualMachines
  s.virtualMachines.mapM fun m => (policy.judge s newest m).map (⟨·, m.ref⟩)

end VersionPolicy

end InventoryProbe
