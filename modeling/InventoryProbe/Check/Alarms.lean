import InventoryProbe.Check.Basic

/-!
# Alarms

The alarms that the criteria keep, each as bad as its status.
-/

namespace InventoryProbe

/-- The severity of a status. -/
def AlarmStatus.severity : AlarmStatus → Severity
  | .red => .critical
  | .yellow => .warning
  | .green | .gray => .ok

namespace Check

/-- The verdict on an alarm. -/
def judgeAlarm (a : Alarm) : Verdict :=
  ⟨.status a.status.text, a.status.severity,
    a.name ++ " on " ++ a.source.entityType.text ++ " '" ++ a.source.name ++ "'"
      ++ if a.acknowledged then " (acknowledged)" else ""⟩

/-- The triggered alarms. -/
def alarms : Check where
  name := CheckName.alarms.text
  description := CheckName.alarms.description
  scope s := s.alarms.map (·.ref)
  evaluate s := .ok (s.alarms.map fun a => ⟨judgeAlarm a, a.ref⟩)

end Check

end InventoryProbe
