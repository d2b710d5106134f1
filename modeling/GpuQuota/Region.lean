import GpuQuota.Lock

/-!
# The shared region

The one structure that all processes of a job share: a header, the limits of the devices, the lock
words, and a table of process slots. Slots are never moved; every scan stops at the high-water
mark.

The module introduces:

* `Region` — the structure, with the values that a zero-filled file has.
* `Region.mark`, `Region.scanned` — how far scans go, and the slots they see.
* `Region.SlotView`, `Region.snapshot` — the registered processes as a reader sees them.
-/

namespace GpuQuota

/-- The number of slots in a region. -/
def maxProcesses : Nat := 1024

/-- The shared structure. -/
structure Region where
  /-- How far the setup has come; see `InitState.ofFlag?`. -/
  flag : Int := 0
  /-- Major version of the layout. -/
  major : Nat := 0
  /-- Minor version of the layout. -/
  minor : Nat := 0
  /-- Reserved for the setup of compute limits. -/
  computeFlag : Int := 0
  /-- The lock of the table. -/
  lock : LockWord := {}
  /-- The semaphore taken while a host identity is looked up. -/
  postinit : Nat := 0
  /-- The number of devices configured. -/
  deviceNum : UInt64 := 0
  /-- Memory limit of each device in bytes; zero is no limit. -/
  memoryLimits : Vector UInt64 maxDevices := .replicate _ 0
  /-- Compute limit of each device in percent. -/
  computeLimits : Vector UInt64 maxDevices := .replicate _ 0
  /-- The process slots. -/
  slots : Vector Slot maxProcesses := .replicate _ .empty
  /-- The number of registered processes. -/
  procNum : Int := 0
  /-- No slot at or above this index is in use. -/
  highWater : Int := 0
  /-- Whether launches are throttled where the policy does not say. -/
  switch : Int := 0
  /-- Launches wait while this is negative. -/
  recentKernel : Int := 0
  /-- Priority of the job. -/
  priority : Int := 0
  /-- When a kernel was last launched, in seconds. -/
  lastKernel : UInt64 := 0
  deriving Inhabited

namespace Region

/-- A region file filled with zeros. -/
def zero : Region := {}

/-- The setup state, if the flag stands for one. -/
def state? (r : Region) : Option InitState := InitState.ofFlag? r.flag

/-- The setup is complete. -/
def isComplete (r : Region) : Bool := r.flag == completeFlag

/-- The number of devices that readers look at. -/
def deviceCount (r : Region) : Nat := min r.deviceNum.toNat maxDevices

/-- The throttling switch is on. -/
def switchOn (r : Region) : Bool := r.switch != 0

/-- How far scans go. -/
def mark (r : Region) : Nat := min r.highWater.toNat maxProcesses

theorem mark_le (r : Region) : r.mark ≤ maxProcesses := Nat.min_le_right _ _

/-- The slots that scans see, in table order. -/
def scanned (r : Region) : List Slot := r.slots.toList.take r.mark

/-- The slot with an index. -/
def slot? (r : Region) (i : Nat) : Option Slot := r.slots[i]?

/-- Changes the slot with an index. -/
def modifySlot (r : Region) (i : Nat) (f : Slot → Slot) : Region :=
  if h : i < maxProcesses then { r with slots := r.slots.set i (f r.slots[i]) } else r

/-- The index of the first slot that a scan finds. -/
def findSlot? (r : Region) (p : Slot → Bool) : Option Nat := r.scanned.findIdx? p

/-- The memory limit of a device. -/
def memoryLimit (r : Region) (dev : Nat) : Except InvalidDevice UInt64 :=
  (device? dev).map fun d => r.memoryLimits.get d

/-- The compute limit of a device. -/
def computeLimit (r : Region) (dev : Nat) : Except InvalidDevice UInt64 :=
  (device? dev).map fun d => r.computeLimits.get d

/-- What a reader sees of a slot on one device. -/
structure DeviceView where
  /-- The device. -/
  device : DeviceIndex
  /-- The usage counters. -/
  usage : Reading Usage
  /-- Bytes observed in use. -/
  monitor : UInt64
  /-- Observed share of compute time. -/
  compute : UInt64
  deriving Repr

/-- What a reader sees of a registered process. -/
structure SlotView where
  /-- The index of the slot. -/
  index : Nat
  /-- The owner. -/
  pid : Pid
  /-- The owner as the host numbers it. -/
  hostPid : Pid
  /-- The status of the owner. -/
  status : ProcStatus
  /-- The devices in order. -/
  devices : List DeviceView
  deriving Repr

/-- The view of one slot over the first `count` devices. -/
def slotView (count : Nat) (index : Nat) (s : Slot) : SlotView where
  index := index
  pid := s.pid
  hostPid := s.hostPid
  status := s.status
  devices := (List.finRange maxDevices).take count |>.map fun d =>
    { device := d
      usage := s.breakdown d
      monitor := (s.device d).monitor
      compute := (s.device d).compute }

/-- The registered processes in table order. -/
def snapshot (r : Region) : List SlotView :=
  (r.scanned.zipIdx.filter fun (s, _) => !s.isFree).map fun (s, i) => slotView r.deviceCount i s

end Region

end GpuQuota
