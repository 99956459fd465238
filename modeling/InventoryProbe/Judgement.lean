import InventoryProbe.HardwareVersion
import InventoryProbe.Inventory.Object
import InventoryProbe.Severity

/-!
# Judgements

What a check finds about one object: the fact it looked at, the severity it gives it, and the reason
in words.
-/

namespace InventoryProbe

def Severity.codec : Codec Severity := .choice all text

/-! ## Observations -/

/-- The fact that a severity was derived from. -/
inductive Observation where
  | percent (value : Binary64)
  | count (value : UInt64)
  | days (value : Binary64)
  | gigabytes (value : Binary64)
  | version (value : HardwareVersion)
  | key (value : String)
  | status (value : String)
  /-- The object does not have the fact at all. -/
  | absent
  deriving DecidableEq

namespace Observation

/-- The observation in a sentence. -/
def text : Observation → String
  | .percent x => x.hundredths ++ "%"
  | .count n => toString n.toNat
  | .days x => x.hundredths ++ " days"
  | .gigabytes x => x.hundredths ++ " GB"
  | .version v => v.text
  | .key k => "key '" ++ k ++ "'"
  | .status s => s
  | .absent => "absent"

/-- What an observation is of, without the value. -/
inductive Tag where
  | percent
  | count
  | days
  | gigabytes
  | version
  | key
  | status
  | absent
  deriving DecidableEq

namespace Tag

def all : List Tag := [.percent, .count, .days, .gigabytes, .version, .key, .status, .absent]

/-- The name of a tag in documents. -/
def text : Tag → String
  | .percent => "percent"
  | .count => "count"
  | .days => "days"
  | .gigabytes => "gigabytes"
  | .version => "version"
  | .key => "key"
  | .status => "status"
  | .absent => "absent"

def codec : Codec Tag := .choice all text

/-- The tag that stands in front of a value in a list: its name, and of what was held back also its
number. -/
def readFirst : Form → Document → Except ReadError Tag
  | form, .text s => codec.read form (.text s)
  | .held, .number literal =>
    match (Codec.wholeNumber? literal).bind (all[·]?) with
    | some t => .ok t
    | none => .error .malformed
  | _, _ => .error .malformed

/-- The observation of a tag whose value a document holds. -/
def observation (form : Form) (value : Document) : Tag → Except ReadError Observation
  | .percent => (Codec.number.read form value).map .percent
  | .count => (Codec.word64.read form value).map .count
  | .days => (Codec.number.read form value).map .days
  | .gigabytes => (Codec.number.read form value).map .gigabytes
  | .version => (HardwareVersion.codec.read form value).map .version
  | .key => (Codec.text.read form value).map .key
  | .status => (Codec.text.read form value).map .status
  | .absent => match value with
    | .null => .ok .absent
    | _ => .error .malformed

end Tag

/-- The tag of an observation. -/
def tag : Observation → Tag
  | .percent _ => .percent
  | .count _ => .count
  | .days _ => .days
  | .gigabytes _ => .gigabytes
  | .version _ => .version
  | .key _ => .key
  | .status _ => .status
  | .absent => .absent

/-- The value of an observation, if it has one. -/
def value? : Observation → Option Document
  | .percent x | .days x | .gigabytes x => some (Codec.number.write x)
  | .count n => some (Codec.word64.write n)
  | .version v => some (HardwareVersion.codec.write v)
  | .key s | .status s => some (.text s)
  | .absent => none

/-- What has been read of an observation whose members may stand in any order. -/
inductive Draft where
  | nothing
  | tag (tag : Tag)
  | value (value : Document)
  | whole (observation : Observation)

/-- What has been read of an observation after one more of its members. -/
def Draft.read (state : Draft) (form : Form) (name : String) (given : Document) :
    Except ReadError Draft :=
  match state, name with
  | .nothing, "type" => (Tag.codec.read form given).map .tag
  -- A value in front of its tag is held back, which decodes every text in it.
  | .nothing, "value" => if given.isReadable then .ok (.value given) else .error .malformed
  | .tag t, "value" => (t.observation form given).map .whole
  | .value held, "type" => do
    let t ← Tag.codec.read form given
    return .whole (← t.observation .held held)
  | .tag _, "type" | .whole _, "type" => .error (.duplicateField "type")
  | .value _, "value" | .whole _, "value" => .error (.duplicateField "value")
  | _, _ => if given.isComplete then .ok state else .error .malformed

/-- The observation whose members have all been read. -/
def Draft.finish : Draft → Except ReadError Observation
  | .whole observation => .ok observation
  | .tag .absent => .ok .absent
  | .tag _ => .error (.missingField "value")
  | .nothing | .value _ => .error (.missingField "type")

/-- The observation that further members make whole. -/
def Draft.readAll (state : Draft) (form : Form) :
    List (Option String × Document) → Except ReadError Observation
  | [] => state.finish
  | (none, _) :: _ => .error .malformed
  | (some name, given) :: rest => do (← state.read form name given).readAll form rest

/-- Observations in documents: a tag and a value, which `absent` does without. -/
def codec : Codec Observation where
  read
    | form, .object members => Draft.nothing.readAll form members
    | form, .list (first :: rest) => do
      let t ← Tag.readFirst form first
      match rest with
      | [given] => t.observation form given
      | given :: _ => do
        let _ ← t.observation form given
        .error .malformed
      | [] => .error .malformed
    | _, _ => .error .malformed
  write o :=
    .object ((some "type", .text o.tag.text) :: (o.value?.map fun v => (some "value", v)).toList)

end Observation

/-! ## Judgements -/

/-- What a check finds about an object, without the object. -/
structure Verdict where
  observed : Observation
  severity : Severity
  reason : String
  deriving DecidableEq

namespace Verdict

/-- Nothing is wrong. -/
def ok (observed : Observation) (reason : String) : Verdict := ⟨observed, .ok, reason⟩

/-- Something should be looked at. -/
def warning (observed : Observation) (reason : String) : Verdict := ⟨observed, .warning, reason⟩

/-- Something is wrong. -/
def critical (observed : Observation) (reason : String) : Verdict := ⟨observed, .critical, reason⟩

end Verdict

/-- What a check finds about an object. -/
structure Judgement extends Verdict where
  object : ObjectRef
  deriving DecidableEq

namespace Judgement

/-- The judgement in a line. -/
def text (j : Judgement) : String :=
  "[" ++ j.severity.text ++ "] " ++ j.object.text ++ ": " ++ j.reason ++ " (observed: "
    ++ j.observed.text ++ ")"

def layout : Layout Judgement Judgement :=
  Layout.start (fun object observed severity reason => ⟨⟨observed, severity, reason⟩, object⟩)
    |>.required "object" ObjectRef.codec (·.object)
    |>.required "observed" Observation.codec (·.observed)
    |>.required "severity" Severity.codec (·.severity)
    |>.required "reason" .text (·.reason)

def codec : Codec Judgement := layout.codec .skipped

end Judgement

end InventoryProbe
