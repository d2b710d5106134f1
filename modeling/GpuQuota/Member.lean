import GpuQuota.Config.Settings
import GpuQuota.Error
import GpuQuota.Region.Accounting
import GpuQuota.Region.Registry

/-!
# Members of a region

A process that is attached to a region works on it under its own identifier, with its own settings
and its own way of telling which processes are alive. It remembers where it last saw its slot;
that index is checked before it is used, since others may have given the slot away.

The module introduces:

* `Member` — who works on the region, and how.
* `Seat` — the region together with what the member remembers, and the timed waits that expired so
  far.
* The operations of a member: registration and reaping, look-ups, charges, observations, and the
  locks they take.

An operation that needs the lock is `Member.locked` around a function on the region; the lock is
given back on every way out.
-/

namespace GpuQuota

/-- A process that works on a region. -/
structure Member where
  /-- The process. -/
  pid : Pid
  /-- Its settings. -/
  settings : Settings
  /-- Which processes it takes for alive. -/
  alive : Pid → Bool

/-- A region as one member works on it. -/
structure Seat where
  /-- The shared region. -/
  region : Region
  /-- The index at which the member last saw its slot. -/
  remembered : Option Nat := none
  /-- The timed waits of the member that have expired. -/
  expired : Nat := 0
  deriving Inhabited

/-- An operation on a seat. -/
abbrev SeatM := StateM Seat

/-- An operation on a seat that may be refused. -/
abbrev RegionM := ExceptT RegionError SeatM

namespace Seat

/-- Changes the region. -/
def modifyRegion (f : Region → Region) : SeatM Unit :=
  modify fun s => { s with region := f s.region }

/-- Changes the slot with an index. -/
def modifySlot (i : Nat) (f : Slot → Slot) : SeatM Unit := modifyRegion (·.modifySlot i f)

end Seat

/-- Reads a result as an operation that may be refused. -/
def refuse (cause : ε → RegionError) : Except ε α → RegionM α
  | .ok a => pure a
  | .error e => throw (cause e)

namespace Member

/-! ## Locks -/

/-- Works on the region while holding its lock. -/
def locked (m : Member) (body : Region → α × Region) : SeatM α := fun s =>
  let attempt := s.region.lock.acquire m.pid m.alive m.settings.lock.retries
  -- The lock is given back whatever the body makes of the region.
  let (a, r) := body { s.region with lock := attempt.word }
  (a, { s with
    region := { r with lock := r.lock.release }
    expired := s.expired + attempt.expired })

/-- Works on the region while holding its lock, if one timed wait is enough to get it. -/
def tryLocked (m : Member) (body : Region → α × Region) : SeatM (Option α) := fun s =>
  match s.region.lock.tryAcquire m.pid with
  | none => (none, { s with expired := s.expired + 1 })
  | some word =>
    let (a, r) := body { s.region with lock := word }
    (some a, { s with region := { r with lock := r.lock.release } })

/-- Takes the semaphore for host identities; whether it was free in one of the waits allowed. -/
def takePostinit (m : Member) : SeatM Bool := fun s =>
  if 0 < s.region.postinit then
    (true, { s with region := { s.region with postinit := s.region.postinit - 1 } })
  else (false, { s with expired := s.expired + (m.settings.lock.postinitRetries + 1) })

/-- Gives the semaphore for host identities back. -/
def givePostinit : SeatM Unit :=
  Seat.modifyRegion fun r => { r with postinit := postCount r.postinit }

/-! ## The process table -/

/-- Registers a process and reaps; the index of its slot. -/
def register (m : Member) (pid : Pid) : RegionM Nat := do
  match ← (m.locked (·.register m.pid m.alive pid) : SeatM (Option Nat)) with
  | some i => return i
  | none => throw .capacityExhausted

/-- Registers the member itself and remembers its slot. -/
def registerSelf (m : Member) : RegionM Nat := do
  let i ← m.register m.pid
  modify fun s => { s with remembered := some i }
  return i

/-- Clears the slots of dead processes; how many. -/
def clearDead (m : Member) : SeatM Nat := m.locked (·.reap m.pid m.alive)

/-- Gives the slot of the member back, unless the lock is busy; whether it had one. -/
def removeSelf (m : Member) : SeatM Bool := do
  match ← m.tryLocked (·.unregister m.pid) with
  | none => return false
  | some had =>
    modify fun s => { s with remembered := none }
    return had

/-- The index of the member's slot, which is then remembered. -/
def mySlot? (m : Member) : SeatM (Option Nat) := fun s =>
  match s.region.ownSlot? m.pid s.remembered with
  | some i => (some i, { s with remembered := some i })
  | none => (none, s)

/-- The index of the slot of a process. -/
def slotOf? (m : Member) (pid : Pid) : SeatM (Option Nat) := do
  if pid = 0 then return none
  else if pid = m.pid then m.mySlot?
  else return (← get).region.findSlot? (·.pid == pid)

/-- The slot of a process, which must be registered. -/
def slotOf (m : Member) (pid : Pid) : RegionM Nat := do
  match ← m.slotOf? pid with
  | some i => return i
  | none => throw (.slotNotFound pid)

/-- The slot of the member, which must be registered. -/
def mySlot (m : Member) : RegionM Nat := do
  match ← m.mySlot? with
  | some i => return i
  | none => throw (.slotNotFound m.pid)

/-- Notes the host identity of the member. -/
def setHostPid (m : Member) (hostPid : Pid) : RegionM Unit := do
  Seat.modifySlot (← m.mySlot) (·.setHostPid hostPid)

/-- Stores the status of the member. -/
def setStatus (m : Member) (status : ProcStatus) : RegionM Unit := do
  Seat.modifySlot (← m.mySlot) (·.setStatus status)

/-- The status of the member, if it is registered. -/
def status? (m : Member) : SeatM (Option ProcStatus) := do
  let i? ← m.mySlot?
  let r := (← get).region
  return (i?.bind r.slot?).map (·.status)

/-- Forgets what was observed of all registered processes. -/
def resetObserved (m : Member) : SeatM Unit := m.locked fun r => ((), r.resetObserved)

/-! ## Charges and limits -/

/-- Charges a registered process. -/
def addUsage (m : Member) (pid : Pid) (dev : Nat) (bytes : UInt64) (kind : UsageKind) :
    RegionM Unit := do
  let d ← refuse .device (device? dev)
  Seat.modifySlot (← m.slotOf pid) (·.addUsage d kind bytes)

/-- Takes back a charge of a registered process. -/
def removeUsage (m : Member) (pid : Pid) (dev : Nat) (bytes : UInt64) (kind : UsageKind) :
    RegionM Unit := do
  let d ← refuse .device (device? dev)
  Seat.modifySlot (← m.slotOf pid) (·.removeUsage d kind bytes)

/-- The usage of all registered processes on a device. -/
def usageSum (dev : Nat) : RegionM UsageSum := do
  let d ← refuse .device (device? dev)
  return (← get).region.usageSum d

/-- The usage of one process on a device, if it is registered. -/
def slotUsage (m : Member) (pid : Pid) (dev : Nat) : RegionM (Option Usage) := do
  let d ← refuse .device (device? dev)
  let i? ← m.slotOf? pid
  let r := (← get).region
  return (i?.bind r.slot?).map fun s => (s.breakdown d).value

/-- The memory limit of a device. -/
def memoryLimit (dev : Nat) : RegionM UInt64 := do
  refuse .device ((← get).region.memoryLimit dev)

/-- The compute limit of a device. -/
def computeLimit (dev : Nat) : RegionM UInt64 := do
  refuse .device ((← get).region.computeLimit dev)

/-! ## Observations -/

/-- The memory observed in use on a device. -/
def monitorSum (m : Member) (dev : Nat) : RegionM UInt64 := do
  let d ← refuse .device (device? dev)
  liftM (m.locked fun r => (r.monitorSum d, r) : SeatM UInt64)

/-- Changes what was observed of the process with a host identity on a device; whether there is
one. -/
def observe (r : Region) (hostPid : Pid) (d : DeviceIndex) (f : DeviceRecord → DeviceRecord) :
    Bool × Region :=
  match r.slotOfHost? hostPid with
  | some i => (true, r.modifySlot i (·.modifyDevice d f))
  | none => (false, r)

/-- Stores the memory observed of a process. -/
def setMonitor (m : Member) (hostPid : Pid) (dev : Nat) (bytes : UInt64) : RegionM Bool := do
  let d ← refuse .device (device? dev)
  liftM (m.locked fun r => observe r hostPid d ({ · with monitor := bytes }) : SeatM Bool)

/-- Stores the share of compute time observed of a process. -/
def setCompute (hostPid : Pid) (dev : Nat) (share : UInt64) : RegionM Bool := do
  let d ← refuse .device (device? dev)
  let (found, r) := observe (← get).region hostPid d ({ · with compute := share })
  Seat.modifyRegion fun _ => r
  return found

/-- Launches are throttled: by the policy of the member, or by the switch of the region. -/
def switchOn (m : Member) (r : Region) : Bool :=
  match m.settings.policy with
  | .force => true
  | .disable => false
  | .default => r.switchOn

end Member

end GpuQuota
