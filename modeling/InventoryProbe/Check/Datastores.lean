import InventoryProbe.Check.Basic

/-!
# Usage of datastores

The space used on each datastore that the criteria keep.
-/

namespace InventoryProbe.Check

/-- The boundaries for the usage of datastores. -/
def datastoreDefaults : Thresholds Binary64 := ⟨90, 95⟩

/-- The verdict on the used space of a datastore. -/
def judgeDatastore (t : Thresholds Binary64) (d : Datastore) : Verdict :=
  if !d.accessible then .critical (.status "inaccessible") "datastore is not accessible"
  else match d.usedPercent? with
    | some percent => .ofMetric t "usage" percent (.percent percent)
    | none => .warning .absent "datastore reports no capacity"

/-- The space used on datastores. -/
def datastoreUsage (t : Thresholds Binary64) : Check where
  name := CheckName.datastoreUsage.text
  description := CheckName.datastoreUsage.description
  scope s := s.datastores.map (·.ref)
  evaluate s := .ok (s.datastores.map fun d => ⟨judgeDatastore t d, d.ref⟩)

end InventoryProbe.Check
