import GpuQuota.Error
import GpuQuota.Throttle.Share
import GpuQuota.Tracking

/-!
# The device driver

What the library asks of a device driver and of the management interface of the host. A driver is
any state with these calls; each may change the state and may be refused.

The module introduces:

* `Call` — a call on a state that may be refused.
* `DeviceDriver` — memory of devices.
* `Management` — what the host observes of processes on its devices.
-/

namespace GpuQuota

/-- A call on a state, which may be refused by the driver. -/
abbrev Call (σ α : Type) := σ → Except DriverError α × σ

/-- A stream that orders device operations. -/
abbrev Stream := UInt64

/-- Memory of devices, as a driver gives it out. -/
class DeviceDriver (σ : Type) where
  /-- The device that the calling thread uses. -/
  currentDevice : Call σ Nat
  /-- Allocates memory. -/
  alloc : (size : UInt64) → Call σ Address
  /-- Allocates memory in large pages, with a handle. -/
  allocLarge : (size : UInt64) → Call σ (Address × UInt64)
  /-- Frees memory. -/
  free : Address → (handle : Option UInt64) → Call σ Unit
  /-- Allocates memory from the pool, in the order of a stream. -/
  allocAsync : (size : UInt64) → Stream → Call σ Address
  /-- Gives memory back to the pool, in the order of a stream. -/
  freeAsync : Address → Stream → Call σ Unit
  /-- The most that the pool of a device has ever reserved. -/
  poolReserved : (device : Nat) → Call σ UInt64
  /-- The size of a device. -/
  spec : (device : Nat) → Call σ DeviceSpec

/-- What the host observes of the processes on its devices. Processes go by their host identity,
devices by their number on the host. -/
class Management (μ : Type) where
  /-- The number of devices. -/
  deviceCount : Call μ Nat
  /-- The processes that hold memory of a device, with the bytes. -/
  processes : (device : Nat) → Call μ (List (Nat × UInt64))
  /-- Recent samples of compute time on a device, in percent. -/
  utilization : (device : Nat) → Call μ (List (Nat × Nat))

end GpuQuota
