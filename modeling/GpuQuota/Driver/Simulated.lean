import GpuQuota.Driver.Interface

/-!
# Simulated devices

A device driver and a management interface without hardware. Memory is handed out at rising
addresses and never reused; a pool keeps what it has once reserved. Calls can be made to fail.

The module introduces:

* `SimulatedDevice`, `SimulatedHost` — the two simulations.
* `Faults`, `Faulty` — calls that fail a number of times before they reach what is behind them.
-/

namespace GpuQuota

/-- A word rounded up to a multiple, or the largest word where that does not fit. -/
def roundUp (n multiple : UInt64) : UInt64 :=
  let m := multiple.toNat
  UInt64.ofNat (min ((n.toNat + m - 1) / m * m) wordMax)

/-- Where simulated memory starts. -/
def simulatedBase : Address := 0x7f0000000000

/-- The alignment of simulated memory. -/
def simulatedAlignment : UInt64 := 256

/-- Large allocations come in pages of this size; no smaller allocation is large. -/
def largePage : UInt64 := 2 * 1024 * 1024

/-- A device without hardware. -/
structure SimulatedDevice where
  /-- The size that the device reports. -/
  spec : DeviceSpec := ⟨8, 1024⟩
  /-- The memory of the device. -/
  capacity : UInt64 := 0x10000000000
  /-- The device that the calling thread uses. -/
  current : Nat := 0
  /-- Whether the device reports its size. -/
  specAvailable : Bool := true
  /-- The handle of the next large allocation. -/
  nextHandle : UInt64 := 1
  /-- Where the next allocation starts. -/
  nextAddress : Address := simulatedBase
  /-- Addresses in use with their lengths. -/
  live : List (Address × UInt64) := []
  /-- The memory in use. -/
  used : UInt64 := 0
  /-- The memory of the pool in use. -/
  poolUsed : UInt64 := 0
  /-- The memory that the pool has reserved. -/
  poolReserved : UInt64 := 0
  /-- The next allocation fails like this. -/
  failNext : Option DriverError := none
  deriving Inhabited

namespace SimulatedDevice

/-- Takes memory. -/
def carve (length : UInt64) : Call SimulatedDevice Address := fun d =>
  match d.failNext with
  | some e => (.error e, { d with failNext := none })
  | none =>
    if satAdd d.used length > d.capacity then (.error .outOfMemory, d)
    else
      (.ok d.nextAddress,
        { d with
          nextAddress := satAdd d.nextAddress (roundUp (max length 1) simulatedAlignment)
          used := d.used + length
          live := (d.nextAddress, length) :: d.live.filter (·.1 != d.nextAddress) })

/-- Gives memory back, with its length. -/
def release (address : Address) : Call SimulatedDevice UInt64 := fun d =>
  match d.live.lookup address with
  | none => (.error .invalidValue, d)
  | some length =>
    (.ok length,
      { d with used := d.used - length, live := d.live.filter (·.1 != address) })

/-- Allocates whole large pages. -/
def allocLarge (size : UInt64) : Call SimulatedDevice (Address × UInt64) := fun d =>
  match carve (roundUp size largePage) d with
  | (.error e, d) => (.error e, d)
  | (.ok address, d) => (.ok (address, d.nextHandle), { d with nextHandle := d.nextHandle + 1 })

/-- Allocates from the pool, which grows by whole large pages when it is used up. -/
def allocAsync (size : UInt64) : Call SimulatedDevice Address := fun d =>
  match carve size d with
  | (.error e, d) => (.error e, d)
  | (.ok address, d) =>
    let poolUsed := d.poolUsed + size
    (.ok address,
      { d with
        poolUsed
        poolReserved := if poolUsed > d.poolReserved then roundUp poolUsed largePage
          else d.poolReserved })

/-- Frees memory. -/
def free (address : Address) : Call SimulatedDevice Unit := fun d =>
  match release address d with
  | (.error e, d) => (.error e, d)
  | (.ok _, d) => (.ok (), d)

/-- Gives memory back to the pool. -/
def freeAsync (address : Address) : Call SimulatedDevice Unit := fun d =>
  match release address d with
  | (.error e, d) => (.error e, d)
  | (.ok length, d) => (.ok (), { d with poolUsed := satSub d.poolUsed length })

instance : DeviceDriver SimulatedDevice where
  currentDevice d := (.ok d.current, d)
  alloc := carve
  allocLarge := allocLarge
  free address _ := free address
  allocAsync size _ := allocAsync size
  freeAsync address _ := freeAsync address
  poolReserved _ d := (.ok d.poolReserved, d)
  spec _ d := (if d.specAvailable then .ok d.spec else .error .notSupported, d)

end SimulatedDevice

/-- What a simulated host observes on one device. -/
structure HostDevice where
  /-- Processes that hold memory. -/
  processes : List (Nat × UInt64) := []
  /-- Samples of compute time. -/
  utilization : List (Nat × Nat) := []
  deriving Inhabited

/-- A management interface without hardware. -/
structure SimulatedHost where
  /-- The number of devices. -/
  deviceCount : Nat
  /-- What is observed on them; the first entry of a device counts. -/
  devices : List (Nat × HostDevice) := []
  deriving Inhabited

namespace SimulatedHost

/-- What is observed on a device. -/
def device (h : SimulatedHost) (number : Nat) : HostDevice := (h.devices.lookup number).getD {}

/-- Changes what is observed on a device. -/
def modifyDevice (h : SimulatedHost) (number : Nat) (f : HostDevice → HostDevice) :
    SimulatedHost :=
  { h with devices := (number, f (h.device number)) :: h.devices.filter (·.1 != number) }

instance : Management SimulatedHost where
  deviceCount h := (.ok h.deviceCount, h)
  processes number h := (.ok (h.device number).processes, h)
  utilization number h := (.ok (h.device number).utilization, h)

end SimulatedHost

/-- The calls of a device driver and of a management interface. -/
inductive DriverCall
  | currentDevice
  | alloc
  | allocLarge
  | free
  | allocAsync
  | freeAsync
  | poolReserved
  | spec
  | deviceCount
  | processes
  | utilization
  deriving DecidableEq, Repr

/-- Failures that await calls: for each kind of call an error and how often it comes. -/
abbrev Faults := List (DriverCall × DriverError × Nat)

/-- Something with failures in front of it. -/
structure Faulty (σ : Type) where
  /-- What the calls reach. -/
  inner : σ
  /-- The failures that still await calls. -/
  faults : Faults := []
  deriving Inhabited

namespace Faulty

/-- Sets the failures of one kind of call in place of earlier ones. -/
def setFault (f : Faulty σ) (call : DriverCall) (error : DriverError) (times : Nat) : Faulty σ :=
  { f with faults := (call, error, times) :: f.faults.filter (·.1 != call) }

/-- Passes a call on unless a failure awaits it, which is then used up. -/
def pass (call : DriverCall) (next : Call σ α) : Call (Faulty σ) α := fun f =>
  match f.faults.lookup call with
  | some (error, times + 1) => (.error error, f.setFault call error times)
  | _ =>
    let (result, inner) := next f.inner
    (result, { f with inner })

instance [DeviceDriver σ] : DeviceDriver (Faulty σ) where
  currentDevice := pass .currentDevice DeviceDriver.currentDevice
  alloc size := pass .alloc (DeviceDriver.alloc size)
  allocLarge size := pass .allocLarge (DeviceDriver.allocLarge size)
  free address handle := pass .free (DeviceDriver.free address handle)
  allocAsync size stream := pass .allocAsync (DeviceDriver.allocAsync size stream)
  freeAsync address stream := pass .freeAsync (DeviceDriver.freeAsync address stream)
  poolReserved device := pass .poolReserved (DeviceDriver.poolReserved device)
  spec device := pass .spec (DeviceDriver.spec device)

instance [Management μ] : Management (Faulty μ) where
  deviceCount := pass .deviceCount Management.deviceCount
  processes device := pass .processes (Management.processes device)
  utilization device := pass .utilization (Management.utilization device)

end Faulty

end GpuQuota
