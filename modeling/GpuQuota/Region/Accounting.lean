import GpuQuota.Region

/-!
# Sums over the table

Aggregates over the registered processes of a region. Slots whose sequence number is odd are
counted with what they show, and their number is reported.

The module introduces `UsageSum`, `Region.usageSum` and `Region.monitorSum`.
-/

namespace GpuQuota

/-- The usage of all registered processes on one device. -/
structure UsageSum where
  /-- The sum of the totals, at most the largest word. -/
  bytes : UInt64 := 0
  /-- The slots that were read while a write was under way. -/
  bestEffort : Nat := 0
  deriving DecidableEq, Repr

/-- Every slot was read consistently. -/
def UsageSum.isExact (u : UsageSum) : Bool := u.bestEffort == 0

/-- Adds one slot to a sum. -/
def UsageSum.add (u : UsageSum) (reading : Reading UInt64) : UsageSum where
  bytes := satAdd u.bytes reading.value
  bestEffort := u.bestEffort + if reading.consistent then 0 else 1

namespace Region

/-- The slots of registered processes that a scan sees. -/
def registered (r : Region) : List Slot := r.scanned.filter fun s => !s.isFree

/-- The usage of all registered processes on one device. -/
def usageSum (r : Region) (d : DeviceIndex) : UsageSum :=
  r.registered.foldl (fun u s => u.add (s.total d)) {}

/-- The memory observed in use by all registered processes on one device. -/
def monitorSum (r : Region) (d : DeviceIndex) : UInt64 :=
  r.registered.foldl (fun n s => satAdd n (s.device d).monitor) 0

end Region

end GpuQuota
