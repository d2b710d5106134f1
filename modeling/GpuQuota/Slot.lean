import GpuQuota.Device
import GpuQuota.Sequence
import GpuQuota.Status
import GpuQuota.Usage

/-!
# Process slots

A registered process owns one slot of the region: who it is, what it is charged for on each
device, and what was last observed of it there.

The module introduces:

* `DeviceRecord` — all that a slot holds about one device.
* `Slot` — the slot, with `addUsage`, `removeUsage`, `total`, `breakdown`, `resetFor`, `clear`.
* `Reading` — a value read under the sequence number, marked consistent or not.
-/

namespace GpuQuota

/-- A process identifier; zero is nobody. -/
abbrev Pid := Int

/-- All that a slot holds about one device. -/
structure DeviceRecord where
  /-- What the process is charged for. -/
  usage : Usage := {}
  /-- Bytes that the management interface saw in use. -/
  monitor : UInt64 := 0
  /-- Observed share of the decoder. -/
  decoder : UInt64 := 0
  /-- Observed share of the encoder. -/
  encoder : UInt64 := 0
  /-- Observed share of compute time, in percent. -/
  compute : UInt64 := 0
  deriving DecidableEq, Repr, Inhabited

namespace DeviceRecord

/-- Nothing charged and nothing observed. -/
def zero : DeviceRecord := {}

/-- The record without its observations of memory and compute time. -/
def forgetObserved (d : DeviceRecord) : DeviceRecord := { d with monitor := 0, compute := 0 }

end DeviceRecord

/-- A value read under a sequence number. -/
structure Reading (α : Type) where
  /-- The value. -/
  value : α
  /-- No write was under way. -/
  consistent : Bool
  deriving DecidableEq, Repr

/-- One slot of the region. -/
structure Slot where
  /-- The owner within its container; zero if the slot is free. -/
  pid : Pid := 0
  /-- The owner as the host numbers it; zero if unknown. -/
  hostPid : Pid := 0
  /-- Guards the usage counters. -/
  seq : Sequence := 0
  /-- The records of the devices. -/
  devices : Vector DeviceRecord maxDevices := .replicate _ .zero
  /-- The stored status word. -/
  rawStatus : Int := 0
  deriving DecidableEq, Repr, Inhabited

namespace Slot

/-- A slot that was never used. -/
def empty : Slot := {}

/-- Nobody owns the slot. -/
def isFree (s : Slot) : Bool := s.pid == 0

/-- The status of the owner. -/
def status (s : Slot) : ProcStatus := .ofRaw s.rawStatus

/-- Stores a status. -/
def setStatus (s : Slot) (status : ProcStatus) : Slot := { s with rawStatus := status.toRaw }

/-- The record of one device. -/
def device (s : Slot) (d : DeviceIndex) : DeviceRecord := s.devices[d]

/-- Changes the record of one device. -/
def modifyDevice (s : Slot) (d : DeviceIndex) (f : DeviceRecord → DeviceRecord) : Slot :=
  { s with devices := s.devices.set d (f s.devices[d]) }

/-- Changes the usage on one device in a whole write. -/
def writeUsage (s : Slot) (d : DeviceIndex) (f : Usage → Usage) : Slot :=
  { s.modifyDevice d fun r => { r with usage := f r.usage } with seq := s.seq.write }

/-- Charges bytes of one kind on one device. -/
def addUsage (s : Slot) (d : DeviceIndex) (k : UsageKind) (n : UInt64) : Slot :=
  s.writeUsage d (·.charge k n)

/-- Takes a charge back. -/
def removeUsage (s : Slot) (d : DeviceIndex) (k : UsageKind) (n : UInt64) : Slot :=
  s.writeUsage d (·.release k n)

/-- A writer enters and dies. -/
def stick (s : Slot) : Slot := { s with seq := s.seq.enter }

/-- Reads under the sequence number. -/
def read (s : Slot) (value : α) : Reading α := ⟨value, !s.seq.isWriting⟩

/-- The usage on one device. -/
def breakdown (s : Slot) (d : DeviceIndex) : Reading Usage := s.read (s.device d).usage

/-- The total on one device. -/
def total (s : Slot) (d : DeviceIndex) : Reading UInt64 := s.read (s.device d).usage.total

/-- Forgets what was observed on all devices. -/
def resetObserved (s : Slot) : Slot := { s with devices := s.devices.map (·.forgetObserved) }

/-- Hands the slot to a process, with nothing charged and nothing observed. -/
def resetFor (_ : Slot) (pid : Pid) : Slot :=
  { pid, hostPid := 0, seq := 0, devices := .replicate _ .zero, rawStatus := ProcStatus.running.toRaw }

/-- Gives the slot back. -/
def clear (_ : Slot) : Slot := empty

/-- Notes the identity of the owner on the host and forgets the memory observed so far. -/
def setHostPid (s : Slot) (hostPid : Pid) : Slot :=
  { s with hostPid, devices := s.devices.map fun d => { d with monitor := 0 } }

@[simp] theorem pid_modifyDevice (s : Slot) (d f) : (s.modifyDevice d f).pid = s.pid := rfl
@[simp] theorem pid_writeUsage (s : Slot) (d f) : (s.writeUsage d f).pid = s.pid := rfl
@[simp] theorem pid_addUsage (s : Slot) (d k n) : (s.addUsage d k n).pid = s.pid := rfl
@[simp] theorem pid_removeUsage (s : Slot) (d k n) : (s.removeUsage d k n).pid = s.pid := rfl
@[simp] theorem pid_resetFor (s : Slot) (pid : Pid) : (s.resetFor pid).pid = pid := rfl
@[simp] theorem clear_eq_empty (s : Slot) : s.clear = empty := rfl

/-- A write changes the usage of its device and no other. -/
theorem device_writeUsage (s : Slot) (d e : DeviceIndex) (f : Usage → Usage) :
    (s.writeUsage d f).device e =
      if e = d then { s.device d with usage := f (s.device d).usage } else s.device e := by
  simp only [writeUsage, modifyDevice, device, Fin.getElem_fin, Vector.getElem_set]
  by_cases h : e = d
  · simp [h]
  · have : (d : Nat) ≠ e := fun he => h (Fin.ext he.symm)
    simp [h, this]

/-- Taking back a charge restores every counter; only the sequence number moves on. -/
theorem device_removeUsage_addUsage (s : Slot) (d e : DeviceIndex) (k : UsageKind) (n : UInt64) :
    ((s.addUsage d k n).removeUsage d k n).device e = s.device e := by
  simp only [removeUsage, addUsage, device_writeUsage]
  by_cases h : e = d
  · subst h; simp [Usage.release_charge]
  · simp [h]

end Slot

end GpuQuota
