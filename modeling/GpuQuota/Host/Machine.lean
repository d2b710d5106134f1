import GpuQuota.Host.Files
import GpuQuota.Member
import GpuQuota.ProcessRecord
import GpuQuota.Region.Attach

/-!
# A host and its processes

Processes run on a host, map the region file, and can be signalled. A signal stores a status in the
slot that the process had when it installed its handlers, for as long as it keeps that mapping.

The module introduces:

* `Machine` — files, running processes, and the clock of a host.
* `Attachment` — a region as one member has it mapped.
* `Machine.attach`, `Machine.inspect`, `Machine.detach` — mapping a region and leaving it.
* `Machine.onSeat` — an operation of a member on its region.
* `Machine.install`, `Machine.deliver`, `Machine.signalAll` — handlers and signals.
-/

namespace GpuQuota

/-- Where the signal handlers of a process store a status. -/
structure StatusTarget where
  /-- The mapping that holds the slot. -/
  mapping : Nat
  /-- The file that is mapped. -/
  node : NodeId
  /-- The slot. -/
  slot : Nat
  deriving DecidableEq, Repr

/-- A process of a host. -/
structure RunningProcess where
  /-- Its identifier. -/
  pid : Pid
  /-- Where its handlers store a status; nowhere without handlers, or once it has ended. -/
  target : Option StatusTarget := none
  /-- It has ended, but its parent has not been told yet. -/
  defunct : Bool := false
  deriving DecidableEq, Repr

/-- A host. -/
structure Machine where
  /-- The files. -/
  files : Files := {}
  /-- The processes that run, beside the first process of the system. -/
  running : List RunningProcess := []
  /-- The identifiers that are taken for dead by members who go by marks. -/
  markedDead : List Pid := []
  /-- The identifier of the next process. -/
  nextPid : Pid := 100
  /-- The identity of the next mapping. -/
  nextMapping : Nat := 0
  /-- The time in seconds. -/
  clock : UInt64
  deriving Inhabited

/-- How a member tells which processes are alive. -/
inductive Liveness
  /-- By the processes that run and have not ended. -/
  | actual
  /-- Everybody is alive but those marked dead. -/
  | marked
  /-- Everybody is alive. -/
  | everyone
  deriving DecidableEq, Repr

/-- A region as one member has it mapped. -/
structure Attachment where
  /-- The mapping. -/
  mapping : Nat
  /-- The file that is mapped. -/
  node : NodeId
  /-- The member's identifier. -/
  pid : Pid
  /-- The member's settings. -/
  settings : Settings
  /-- How the member tells which processes are alive. -/
  liveness : Liveness := .actual
  /-- Where the member last saw its slot. -/
  remembered : Option Nat := none

namespace Machine

/-! ## Processes -/

/-- The first process of a system, which always runs. -/
def firstPid : Pid := 1

/-- There is a process with the identifier, ended or not. -/
def hasProcess (host : Machine) (pid : Pid) : Bool :=
  pid == firstPid || host.running.any (·.pid == pid)

/-- The process has ended, but is still there. -/
def isDefunct (host : Machine) (pid : Pid) : Bool :=
  host.running.any fun p => p.pid == pid && p.defunct

/-- Which processes a member takes for alive. -/
def alive (host : Machine) : Liveness → Pid → Bool
  | .actual, pid => 0 < pid && host.hasProcess pid && !host.isDefunct pid
  | .marked, pid => 0 < pid && !host.markedDead.contains pid
  | .everyone, pid => 0 < pid

/-- Starts a process. -/
def start (host : Machine) (target : Option StatusTarget) : Pid × Machine :=
  (host.nextPid,
    { host with
      running := { pid := host.nextPid, target } :: host.running
      nextPid := host.nextPid + 1 })

/-- Changes a running process. -/
def modifyRunning (host : Machine) (pid : Pid) (f : RunningProcess → RunningProcess) : Machine :=
  { host with running := host.running.map fun p => if p.pid = pid then f p else p }

/-- Ends a process without telling its parent. It still has its identifier, but it runs no handler
any more. -/
def finish (host : Machine) (pid : Pid) : Machine :=
  host.modifyRunning pid ({ · with target := none, defunct := true })

/-- The fields that the kernel shows of a process. All processes of the host share one namespace, so
that each has one identifier. -/
def statusFields? (host : Machine) (pid : Pid) : Option String :=
  if host.hasProcess pid then some s!"NSpid:\t{pid}\n" else none

/-- The identifier of a process outside the namespace that it runs in. -/
def outerPid? (host : Machine) (pid : Pid) : Option Pid :=
  (host.statusFields? pid).bind ProcessRecord.outerPid?

/-- Ends a process and tells its parent. -/
def stop (host : Machine) (pid : Pid) : Machine :=
  { host with running := host.running.filter (·.pid != pid) }

/-- Marks a process dead. -/
def markDead (host : Machine) (pid : Pid) : Machine :=
  { host with markedDead := pid :: host.markedDead }

/-- Takes the mark from a process. -/
def revive (host : Machine) (pid : Pid) : Machine :=
  { host with markedDead := host.markedDead.filter (· != pid) }

/-! ## Regions in files -/

/-- The region in a file. -/
def region (host : Machine) (node : NodeId) : Region := (host.files.node node).region

/-- Stores the region in a file. -/
def store (host : Machine) (node : NodeId) (r : Region) : Machine :=
  { host with files := host.files.modifyNode node (·.store r) }

/-- An operation on a host that the region may refuse. -/
abbrev Op := ExceptT RegionError (StateM Machine)

/-- Opens the file of a region. To attach, the file is created and extended as needed; to look at it
only, it must be there in its full length. -/
def openRegion (path : String) (create : Bool) : Op NodeId := do
  let host ← get
  let opened := if create then host.files.create path
    else (host.files.file? path).map (·, host.files)
  match opened with
  | .error cause => throw (.openFailed path cause)
  | .ok (node, files) =>
    -- Attaching extends the file even if it is then refused.
    if create then
      set { host with files := files.modifyNode node (·.extended) }
    else if (files.node node).length < Layout.size then throw (.notSetUp 0)
    return node

/-- A new mapping of a file. -/
def newMapping (node : NodeId) (pid : Pid) (settings : Settings) (liveness : Liveness) :
    Op Attachment := do
  let host ← get
  set { host with nextMapping := host.nextMapping + 1 }
  return { mapping := host.nextMapping, node, pid, settings, liveness }

/-- Attaches a member to the region that its settings name. -/
def attach (settings : Settings) (pid : Pid) (liveness : Liveness) : Op Attachment := do
  match settings.validate with
  | .error e => throw (.config e)
  | .ok () =>
    let node ← openRegion settings.path true
    let host ← get
    let (outcome, r) := (host.region node).attach settings host.clock
    -- A region that was set up stays so, whatever becomes of the attachment.
    set (host.store node r)
    match outcome with
    | .error e => throw e
    | .ok () => newMapping node pid settings liveness

/-- Maps a region to look at it; it must have been set up. -/
def inspect (path : String) (pid : Pid) : Op Attachment := do
  let node ← openRegion path false
  match ((← get).region node).inspect with
  | .error e => throw e
  | .ok () => newMapping node pid { path } .actual

/-- The member behind an attachment. -/
def member (host : Machine) (a : Attachment) : Member where
  pid := a.pid
  settings := a.settings
  alive := host.alive a.liveness

/-- The seat behind an attachment. -/
def seat (host : Machine) (a : Attachment) : Seat where
  region := host.region a.node
  remembered := a.remembered

/-- Brings a seat back. -/
def putSeat (host : Machine) (a : Attachment) (s : Seat) : Attachment × Machine :=
  ({ a with remembered := s.remembered }, host.store a.node s.region)

/-- An operation of a member on its region. -/
def onSeat (host : Machine) (a : Attachment) (op : Member → SeatM α) :
    α × Attachment × Machine :=
  let (result, s) := op (host.member a) (host.seat a)
  (result, host.putSeat a s)

/-! ## Signals -/

/-- Points the handlers of a process at a slot. -/
def install (host : Machine) (process : Pid) (a : Attachment) (slot : Nat) : Machine :=
  host.modifyRunning process fun p =>
    { p with target := some { mapping := a.mapping, node := a.node, slot } }

/-- A process gives a mapping up; handlers that point into it store nothing any more. -/
def detach (host : Machine) (process : Pid) (a : Attachment) : Machine :=
  host.modifyRunning process fun p =>
    { p with target := p.target.filter (·.mapping != a.mapping) }

/-- Stores a status where the handlers of a process point. -/
def storeStatus (host : Machine) (t : StatusTarget) (status : ProcStatus) : Machine :=
  host.store t.node ((host.region t.node).modifySlot t.slot (·.setStatus status))

/-- Signals a process; whether there is one. -/
def deliver (host : Machine) (pid : Pid) (status : ProcStatus) : Bool × Machine :=
  let target := (host.running.find? (·.pid == pid)).bind (·.target)
  (host.hasProcess pid,
    match target with
    | some t => host.storeStatus t status
    | none => host)

/-- Signals all processes that are registered in the region of a member, other than the member; how
many there were. -/
def signalAll (host : Machine) (a : Attachment) (status : ProcStatus) : Nat × Machine :=
  ((host.region a.node).signalTargets a.pid).foldl
    (fun (sent, host) pid =>
      let (found, host) := host.deliver pid status
      (sent + if found then 1 else 0, host))
    (0, host)

end Machine

end GpuQuota
