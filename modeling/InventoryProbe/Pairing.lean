import InventoryProbe.Selection
import InventoryProbe.Tally
import InventoryProbe.Text.Lowercase

/-!
# Pairing of hosts and datastores

Hosts and datastores are given a key by one of their attributes. A machine should run on a host
whose key is that of every datastore it uses; letter case makes no difference.
-/

namespace InventoryProbe

open Std (ExtTreeMap)

/-! ## Keys -/

/-- A key, as it is shown. -/
structure PairingKey where
  text : String
  deriving DecidableEq, Repr

namespace PairingKey

/-- The key that a value gives: the part in front of the first separator, or the whole value. -/
def derive (value : String) (separator : Option Char) : PairingKey :=
  match separator with
  | some c => ⟨String.ofList (value.toList.takeWhile (· != c))⟩
  | none => ⟨value⟩

/-- The key in small letters, by which it is compared. -/
def small (key : PairingKey) : List Char := Text.lowercase key.text.toList

/-- Whether two keys are the same in small letters. -/
def agrees (a b : PairingKey) : Bool := a.small == b.small

end PairingKey

/-- The attribute that gives objects their key, and the separator that ends the key within it. -/
structure KeyRule where
  source : String
  separator : Option Char
  deriving DecidableEq, Repr

/-! ## Settings -/

/-- The options that say which attributes give keys: one for hosts and datastores alike, or one
each. -/
structure PairingSettings where
  sharedAttribute : Option String
  sharedSeparator : Option String
  hostAttribute : Option String
  hostSeparator : Option String
  datastoreAttribute : Option String
  datastoreSeparator : Option String
  ignoreMissing : Bool
  deriving DecidableEq

namespace PairingSettings

/-- Nothing set. -/
def unset : PairingSettings := ⟨none, none, none, none, none, none, false⟩

instance : Inhabited PairingSettings := ⟨unset⟩

/-- The options set here, and for the others those of `base`. -/
def above (settings base : PairingSettings) : PairingSettings where
  sharedAttribute := settings.sharedAttribute <|> base.sharedAttribute
  sharedSeparator := settings.sharedSeparator <|> base.sharedSeparator
  hostAttribute := settings.hostAttribute <|> base.hostAttribute
  hostSeparator := settings.hostSeparator <|> base.hostSeparator
  datastoreAttribute := settings.datastoreAttribute <|> base.datastoreAttribute
  datastoreSeparator := settings.datastoreSeparator <|> base.datastoreSeparator
  ignoreMissing := settings.ignoreMissing || base.ignoreMissing

def layout : Layout PairingSettings PairingSettings :=
  Layout.start PairingSettings.mk
    |>.optional "shared_attribute" .text (·.sharedAttribute)
    |>.optional "shared_separator" .text (·.sharedSeparator)
    |>.optional "host_attribute" .text (·.hostAttribute)
    |>.optional "host_separator" .text (·.hostSeparator)
    |>.optional "datastore_attribute" .text (·.datastoreAttribute)
    |>.optional "datastore_separator" .text (·.datastoreSeparator)
    |>.defaulted "ignore_missing" .bool false (·.ignoreMissing)

def codec : Codec PairingSettings := layout.codec .refused

/-- The option of those that is set first. -/
def firstSet (options : List (String × Option String)) : Option String :=
  (options.find? (·.2.isSome)).map (·.1)

/-- The first option set for hosts and datastores alike. -/
def firstShared (s : PairingSettings) : Option String :=
  firstSet [("custom-attribute", s.sharedAttribute), ("separator", s.sharedSeparator)]

/-- The first option set for hosts or datastores alone. -/
def firstSeparate (s : PairingSettings) : Option String :=
  firstSet [("host-attribute", s.hostAttribute), ("host-separator", s.hostSeparator),
    ("datastore-attribute", s.datastoreAttribute), ("datastore-separator", s.datastoreSeparator)]

end PairingSettings

/-! ## Plans -/

/-- How hosts and datastores get their keys. -/
structure PairingPlan where
  host : KeyRule
  datastore : KeyRule
  /-- Whether objects without the attribute are passed over instead of being found fault with. -/
  ignoreMissing : Bool
  deriving DecidableEq, Repr

namespace PairingPlan

/-- The attribute that an option names, which the option `given` calls for. -/
def attributeOf (option given : String) : Option String → Except SettingError String
  | none =>
    if given = option then .error (.missingRequired option)
    else .error (.missingPartner given option)
  | some value =>
    let name := String.ofList (Text.trim value.toList)
    if name = "" then .error (.invalidValue option "" "attribute name must not be empty")
    else .ok name

/-- The separator that an option gives: one character. -/
def separatorOf (option : String) : Option String → Except SettingError (Option Char)
  | none => .ok none
  | some value =>
    match value.toList with
    | [c] => .ok (some c)
    | _ => .error (.invalidValue option value "separator must be exactly one character")

/-- The rule that an attribute and a separator option give. -/
def ruleOf (attributeOption separatorOption given : String) (source separator : Option String) :
    Except SettingError KeyRule := do
  let name ← attributeOf attributeOption given source
  let separator ← separatorOf separatorOption separator
  return ⟨name, separator⟩

/-- The plan that options give. -/
def ofSettings (s : PairingSettings) : Except SettingError PairingPlan :=
  match s.firstShared, s.firstSeparate with
  | some shared, some separate => .error (.conflict shared separate)
  | some _, none => do
    -- Without the attribute it can only be the separator that calls for it.
    let rule ← ruleOf "custom-attribute" "separator" "separator" s.sharedAttribute s.sharedSeparator
    return ⟨rule, rule, s.ignoreMissing⟩
  | none, some given => do
    let host ← ruleOf "host-attribute" "host-separator" given s.hostAttribute s.hostSeparator
    let datastore ← ruleOf "datastore-attribute" "datastore-separator" given s.datastoreAttribute
      s.datastoreSeparator
    return ⟨host, datastore, s.ignoreMissing⟩
  | none, none => .error (.missingRequired "custom-attribute")

/-! ## Judging hosts and datastores -/

/-- The key of an object, if it has the attribute of the rule. -/
def key? (rule : KeyRule) (s : Selection) (id : String) : Option PairingKey :=
  (s.attribute? id rule.source).map (PairingKey.derive · rule.separator)

/-- Whether an object is to be judged by a rule. -/
def judges (plan : PairingPlan) (rule : KeyRule) (s : Selection) (id : String) : Bool :=
  !plan.ignoreMissing || (s.attribute? id rule.source).isSome

/-- The judgement on an object that should have a key; there is none on an object without one where
those are passed over. -/
def judgeKey? (plan : PairingPlan) (rule : KeyRule) (s : Selection) (object : ObjectRef) :
    Option Judgement :=
  match key? rule s object.id with
  | some key =>
    some ⟨.ok (.key key.text) ("attribute '" ++ rule.source ++ "' yields key '" ++ key.text ++ "'"),
      object⟩
  | none =>
    if plan.ignoreMissing then none
    else some ⟨.critical .absent ("missing required attribute '" ++ rule.source ++ "'"), object⟩

/-! ## Indexes -/

/-- The keys of objects by identifier. An object without the attribute is there, without a key. -/
abbrev KeyIndex := ExtTreeMap String (Option PairingKey)

/-- The key of an object, if the index has the object and the object has a key. -/
def KeyIndex.find? (keys : KeyIndex) (id : String) : Option PairingKey := keys[id]?.join

/-- What going through objects gives: the judgements on them, and their keys. -/
structure KeyPass where
  judgements : List Judgement
  keys : KeyIndex

/-- The pass after one more object. -/
def KeyPass.add (plan : PairingPlan) (rule : KeyRule) (s : Selection) (pass : KeyPass)
    (object : ObjectRef) : KeyPass where
  judgements := pass.judgements ++ (plan.judgeKey? rule s object).toList
  keys := pass.keys.insert object.id (key? rule s object.id)

/-- Goes through objects once, so that every key is derived a single time. -/
def index (plan : PairingPlan) (rule : KeyRule) (s : Selection) (objects : List ObjectRef) : KeyPass :=
  objects.foldl (KeyPass.add plan rule s) ⟨[], ∅⟩

/-! ## Judging machines -/

/-- How a datastore of a machine compares with the host of the machine. -/
inductive Comparison where
  /-- The inventory has no such datastore. -/
  | missing
  /-- The datastore is ignored, or has no key. -/
  | outside
  | agrees
  | differs (name : String) (key : PairingKey)
  deriving DecidableEq, Repr

/-- The comparison of a datastore's key with that of a host, given the keys of the kept datastores. -/
def compare (s : Selection) (keys : KeyIndex) (hostKey : PairingKey) (id : String) : Comparison :=
  if s.hasDatastore id then
    match keys.find? id with
    | none => .outside
    | some key =>
      if key.agrees hostKey then .agrees
      else .differs (((s.datastore? id).map (·.name)).getD id) key
  -- A datastore that is there but was not kept is ignored, not missing.
  else if (s.datastore? id).isNone then .missing
  else .outside

/-- Whether two keys were compared. -/
def Comparison.isCompared : Comparison → Bool
  | .agrees | .differs .. => true
  | .missing | .outside => false

/-- What is wrong with a datastore, if anything. -/
def Comparison.complaint? (id : String) (host : Host) (hostKey : PairingKey) :
    Comparison → Option String
  | .missing => some ("backing datastore '" ++ id ++ "' not found in inventory")
  | .differs name key =>
    some ("datastore '" ++ name ++ "' key '" ++ key.text ++ "' differs from host '" ++ host.name
      ++ "' key '" ++ hostKey.text ++ "'")
  | .outside | .agrees => none

/-- The verdict on a machine that runs on a host with a key, given the keys of the kept datastores. -/
def judgeOnHost (s : Selection) (keys : KeyIndex) (host : Host) (hostKey : PairingKey)
    (m : VirtualMachine) : Verdict :=
  let comparisons := m.datastores.map fun id => (id, compare s keys hostKey id)
  let complaints := comparisons.filterMap fun (id, c) => c.complaint? id host hostKey
  let compared := comparisons.countP (·.2.isCompared)
  if !complaints.isEmpty then .critical (.key hostKey.text) (String.intercalate "; " complaints)
  else if compared = 0 then .ok (.key hostKey.text) "no keyed datastore to compare with host"
  else .ok (.key hostKey.text)
    (toString compared ++ " datastore(s) match host key '" ++ hostKey.text ++ "'")

/-- The verdict on a machine, given the keys of the hosts and those of the kept datastores. -/
def judgeMachine (plan : PairingPlan) (s : Selection) (hostKeys datastoreKeys : KeyIndex)
    (m : VirtualMachine) : Verdict :=
  match m.host with
  | none => .critical .absent "VM is not assigned to any host"
  | some id =>
    match s.host? id with
    | none => .critical .absent ("host '" ++ id ++ "' not found in inventory")
    | some host =>
      match hostKeys.find? host.id with
      | none =>
        .ok .absent ("pairing skipped: host '" ++ host.name ++ "' has no '" ++ plan.host.source
          ++ "' attribute")
      | some hostKey => judgeOnHost s datastoreKeys host hostKey m

/-! ## All judgements -/

/-- The objects to be judged: hosts and kept datastores, as the rules have it, then machines. -/
def scope (plan : PairingPlan) (s : Selection) : List ObjectRef :=
  (s.hosts.map (·.ref)).filter (fun object => plan.judges plan.host s object.id)
    ++ (s.datastores.map (·.ref)).filter (fun object => plan.judges plan.datastore s object.id)
    ++ s.virtualMachines.map (·.ref)

/-- The judgements on hosts, datastores and machines. Machines come last, when all keys are known. -/
def evaluate (plan : PairingPlan) (s : Selection) : List Judgement :=
  let hosts := plan.index plan.host s (s.hosts.map (·.ref))
  let datastores := plan.index plan.datastore s (s.datastores.map (·.ref))
  hosts.judgements ++ datastores.judgements
    ++ s.virtualMachines.map fun m => ⟨plan.judgeMachine s hosts.keys datastores.keys m, m.ref⟩

end PairingPlan

end InventoryProbe
