import GpuQuota.Text.Column
import GpuQuota.Tool.Inspect.Arguments
import GpuQuota.Workload

/-!
# Inspecting a region

A tool for administrators: shows the header of a region, its processes and the usage of its
devices, reaps dead processes, and suspends or resumes all others.

The module introduces:

* `ToolRun` — what a tool prints and how it ends, with the lines that are read from it
  (`ToolRun.outLines`, `ToolRun.complaints`).
* `Inspect.info`, `Inspect.list`, `Inspect.usage` — the lines of the three views.
* `Inspect.run` — one run of the tool.
-/

namespace GpuQuota

/-- A run of a tool. -/
structure ToolRun where
  /-- The lines it prints; one that shows a path may itself break into several. -/
  out : List String := []
  /-- The lines of its complaints. -/
  err : List String := []
  /-- How it ends. -/
  ending : Ending := .exited 0
  deriving DecidableEq, Repr

namespace ToolRun

/-- Printed lines as they are read, broken where they hold line feeds. -/
def broken (printed : List String) : List String :=
  printed.flatMap fun s => (Text.lines (s.toList ++ ['\n'])).map String.ofList

/-- The lines that are read from what the tool prints. -/
def outLines (run : ToolRun) : List String := broken run.out

/-- The lines that are read from its complaints and show that they are. -/
def complaints (run : ToolRun) (tool : String) : List String :=
  (broken run.err).filter (·.startsWith (tool ++ ": "))

end ToolRun

namespace Inspect

/-! ## The views -/

/-- How a memory limit is shown. -/
def limitText (bytes : UInt64) : String := if bytes = 0 then "unlimited" else toString bytes.toNat

/-- The limits of one device. -/
def limitLine (r : Region) (d : DeviceIndex) : String :=
  let memory := Text.rightAlign 14 (limitText (r.memoryLimits.get d))
  let compute := Text.rightAlign 3 (toString (r.computeLimits.get d).toNat)
  "  dev " ++ Text.rightAlign 2 (toString d.val) ++ ": memory " ++ memory ++ "  sm " ++ compute ++
    "%"

/-- The devices of a region. -/
def devices (r : Region) : List DeviceIndex := (List.finRange maxDevices).take r.deviceCount

/-- The header of a region. -/
def info (path : String) (r : Region) : List String :=
  let state := (r.state?.map (·.name)).getD "unknown"
  ["path:               " ++ path,
    "state:              " ++ state,
    s!"version:            {r.major}.{r.minor}",
    s!"devices:            {r.deviceCount}",
    s!"processes:          {r.procNum}",
    "lock:               " ++ holderText r.lock.holder?,
    s!"priority:           {r.priority}",
    s!"utilization switch: {r.switchOn}",
    s!"recent kernel:      {r.recentKernel}",
    s!"last kernel time:   {r.lastKernel.toNat}"] ++ (devices r).map (limitLine r)

/-- The cells that say whose slot it is. -/
def ownerCells (s : Region.SlotView) : List (Nat × String) :=
  [(5, toString s.index), (8, toString s.pid), (8, toString s.hostPid), (10, s.status.name)]

/-- Something is charged or observed on the device. -/
def isShown (v : Region.DeviceView) : Bool :=
  0 < v.usage.value.total || 0 < v.monitor || 0 < v.compute

/-- The usage of one process on one device; a tilde marks what was read during a write. -/
def usageLine (s : Region.SlotView) (v : Region.DeviceView) : String :=
  let u := v.usage.value
  Text.row (ownerCells s ++
    [(4, toString v.device.val), (12, toString u.context.toNat), (12, toString u.module.toNat),
      (12, toString u.data.toNat), (12, toString v.monitor.toNat), (5, toString v.compute.toNat)]) ++
    if v.usage.consistent then "" else " ~"

/-- The lines of one process: its devices, and a line of its own if nothing is charged. -/
def slotLines (s : Region.SlotView) : List String :=
  ((s.devices.filter isShown).map (usageLine s)) ++
    if s.devices.all (·.usage.value.total == 0) then [Text.row (ownerCells s) ++ "    -"] else []

/-- The registered processes. -/
def list (r : Region) : List String :=
  match r.snapshot with
  | [] => ["no registered processes"]
  | slots =>
    Text.row [(5, "slot"), (8, "pid"), (8, "hostpid"), (10, "status"), (4, "dev"),
        (12, "context"), (12, "module"), (12, "data"), (12, "monitor"), (5, "sm%")] ::
      slots.flatMap slotLines

/-- The usage of one device against its limit. -/
def deviceLine (r : Region) (d : DeviceIndex) (monitor : UInt64) : String :=
  let sum := r.usageSum d
  Text.row [(4, toString d.val), (14, toString sum.bytes.toNat), (14, limitText (r.memoryLimits.get d)),
      (14, toString monitor.toNat)] ++
    if sum.isExact then "" else "  (approximate)"

/-- The usage of all devices. The observed memory is summed up under the lock. -/
def usage (m : Member) : SeatM (List String) := do
  let header := Text.row [(4, "dev"), (14, "used"), (14, "limit"), (14, "monitor")]
  let rows ← (devices (← get).region).mapM fun d =>
    m.locked fun r => (deviceLine r d (r.monitorSum d), r)
  return header :: rows

/-! ## Running the tool -/

/-- Carries a command out on a region that is mapped. -/
def perform (host : Machine) (a : Attachment) (path : String) (c : Command) :
    List String × Machine :=
  let viewed (lines : Region → List String) := (lines (host.region a.node), host)
  match c with
  | .info => viewed (info path)
  | .list => viewed list
  | .usage =>
    let (lines, _, host) := host.onSeat a usage
    (lines, host)
  | .reap =>
    let (reaped, a, host) := host.onSeat a (·.clearDead)
    let registered := (host.region a.node).procNum
    ([s!"reaped {reaped} slot(s), {registered} registered"], host)
  | .suspend =>
    let (sent, host) := host.signalAll a .suspended
    ([s!"signalled {sent} process(es)"], host)
  | .resume =>
    let (sent, host) := host.signalAll a .running
    ([s!"signalled {sent} process(es)"], host)

/-- What the tool complains. -/
def complaint (path : String) (e : RegionError) : String :=
  "softmig-smi: " ++ path ++ ": " ++ e.message

/-- Carries a command out as a process of its own. -/
def runCommand (c : Command) (path : String) (host : Machine) : ToolRun × Machine :=
  let (pid, host) := host.start none
  match (Machine.inspect path pid).run host with
  | (.error e, host) => ({ err := [complaint path e], ending := .exited 1 }, host.stop pid)
  | (.ok a, host) =>
    let (out, host) := perform host a path c
    ({ out }, host.stop pid)

/-- The version of the tool. -/
def versionLine : String := "softmig-smi 0.1.0"

/-- The region that a command is about: the one that the command line names, or else the
environment, or else the usual one. An empty name in the environment names none. -/
def target? (named environmentPath : Option String) : Option String :=
  match named <|> environmentPath with
  | some path => if path = "" then none else some path
  | none => some defaultRegionPath

/-- One run of the tool from its command line, with the path that the environment gives. -/
def run (words : List String) (environmentPath : Option String) (host : Machine) :
    ToolRun × Machine :=
  match Arguments.read words with
  | .refused => ({ ending := .exited 2 }, host)
  | .help none => ({ out := helpLines environmentPath defaultRegionPath }, host)
  | .help (some c) => ({ out := c.helpLines }, host)
  | .version => ({ out := [versionLine] }, host)
  | .perform c named =>
    match target? named environmentPath with
    | none => ({ ending := .exited 2 }, host)
    | some path => runCommand c path host

end Inspect

end GpuQuota
