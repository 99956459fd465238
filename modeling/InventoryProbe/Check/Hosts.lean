import InventoryProbe.Check.Basic

/-!
# Usage of hosts

The memory and processor time that hosts use, as percentages of what they have. Every host is
judged; one that is being maintained is always well.
-/

namespace InventoryProbe.Check

/-- The boundaries for the usage of hosts. -/
def hostDefaults : Thresholds Binary64 := ⟨80, 95⟩

/-- The verdict on the usage of something that a host has a capacity of. -/
def judgeUsage (t : Thresholds Binary64) (label : String) (used capacity : Host → UInt64)
    (h : Host) : Verdict :=
  if h.inMaintenance then .ok (.status "maintenance") "host is in maintenance mode"
  else if capacity h = 0 then .warning .absent ("host reports no " ++ label ++ " capacity")
  else
    let percent := Binary64.percentage (used h).toNat (capacity h).toNat
    .ofMetric t label percent (.percent percent)

/-- The judgements on the usage of something that hosts have a capacity of. -/
def judgeHosts (t : Thresholds Binary64) (label : String) (used capacity : Host → UInt64)
    (s : Selection) : List Judgement :=
  s.hosts.map fun h => ⟨judgeUsage t label used capacity h, h.ref⟩

/-- The memory that hosts use. -/
def hostMemory (t : Thresholds Binary64) : Check where
  name := CheckName.hostMemory.text
  description := CheckName.hostMemory.description
  scope s := s.hosts.map (·.ref)
  evaluate s := .ok (judgeHosts t "memory" (·.memoryUsage) (·.memoryCapacity) s)

/-- The processor time that hosts use. -/
def hostCpu (t : Thresholds Binary64) : Check where
  name := CheckName.hostCpu.text
  description := CheckName.hostCpu.description
  scope s := s.hosts.map (·.ref)
  evaluate s := .ok (judgeHosts t "cpu" (·.cpuUsage) (·.cpuCapacity) s)

end InventoryProbe.Check
