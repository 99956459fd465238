import InventoryProbe.Check.Basic

/-!
# State of machines

How long machines have been running, what state their tools are in, and whether their disks need
consolidation.
-/

namespace InventoryProbe.Check

/-- The boundaries for the time that machines have been running, in days. -/
def uptimeDefaults : Thresholds Binary64 := ⟨60, 90⟩

/-- The verdict on the time that a machine has been running. -/
def judgeUptime (t : Thresholds Binary64) (m : VirtualMachine) : Verdict :=
  match m.uptime with
  | some seconds =>
    let up := days seconds.toNat
    .ofMetric t "uptime" up (.days up)
  | none => .warning .absent "powered-on VM reports no uptime"

/-- The time that machines have been running; only those are judged that are running. -/
def uptime (t : Thresholds Binary64) : Check where
  name := CheckName.uptime.text
  description := CheckName.uptime.description
  scope s := (s.virtualMachines.filter (·.powerState = .poweredOn)).map (·.ref)
  evaluate s :=
    let running := s.virtualMachines.filter (·.powerState = .poweredOn)
    .ok (running.map fun m => ⟨judgeUptime t m, m.ref⟩)

/-- The verdict on the tools of a machine. -/
def judgeTools (m : VirtualMachine) : Verdict :=
  if m.isPoweredOff then .ok (.status "poweredOff") "tools not evaluated on a powered-off VM"
  else match m.tools with
    | some .ok => .ok (.status "toolsOk") "tools running and current"
    | some .old => .warning (.status "toolsOld") "tools outdated"
    | some .notRunning => .critical (.status "toolsNotRunning") "tools not running"
    | some .notInstalled => .critical (.status "toolsNotInstalled") "tools not installed"
    | none => .warning .absent "tools status not reported"

/-- The tools of machines. -/
def tools : Check where
  name := CheckName.tools.text
  description := CheckName.tools.description
  scope s := s.virtualMachines.map (·.ref)
  evaluate s := .ok (s.virtualMachines.map fun m => ⟨judgeTools m, m.ref⟩)

/-- The verdict on the disks of a machine. -/
def judgeDisks (m : VirtualMachine) : Verdict :=
  if m.needsConsolidation then
    .warning (.status "consolidationNeeded") "disk consolidation needed"
  else .ok (.status "consolidated") "no consolidation needed"

/-- The disks of machines. -/
def diskConsolidation : Check where
  name := CheckName.diskConsolidation.text
  description := CheckName.diskConsolidation.description
  scope s := s.virtualMachines.map (·.ref)
  evaluate s := .ok (s.virtualMachines.map fun m => ⟨judgeDisks m, m.ref⟩)

end InventoryProbe.Check
