import GpuQuota.Device
import GpuQuota.Usage

/-!
# Tracked allocations

What an allocator remembers of the memory it handed out: the entry of each pointer says where and
as what it was charged, so that freeing it gives back exactly that.

The module introduces:

* `Allocation` — one entry, and `Allocation.covers`.
* `Tracked` — the entries in order, with the pool watermark; `push`, `remove?`, `find?`,
  `covers`, `totalBytes`.
* `Tracked.chargePool`, `Tracked.releasePool` — how much of a pool allocation is charged.
-/

namespace GpuQuota

/-- A device address. -/
abbrev Address := UInt64

/-- One tracked allocation. -/
structure Allocation where
  /-- Where the memory starts. -/
  address : Address
  /-- The bytes it was charged with. -/
  length : UInt64
  /-- The device it was charged on. -/
  device : Nat
  /-- What it was charged as. -/
  kind : UsageKind
  /-- The driver's handle of a large allocation. -/
  handle : Option UInt64
  deriving DecidableEq, Repr

/-- The address lies in the allocation, which covers at least one byte. -/
def Allocation.covers (a : Allocation) (address : Address) : Bool :=
  a.address ≤ address && address - a.address < max a.length 1

/-- The entries of an allocator. -/
structure Tracked where
  /-- The entries; a new one stands last. -/
  entries : List Allocation := []
  /-- The bytes of the driver's pool that are paid for. -/
  watermark : UInt64 := 0
  deriving DecidableEq, Repr, Inhabited

namespace Tracked

/-- Adds an entry. -/
def push (t : Tracked) (a : Allocation) : Tracked := { t with entries := t.entries ++ [a] }

/-- The list without the element at an index, whose place the last element takes. -/
def swapErase (l : List α) (i : Nat) : List α :=
  match l.getLast? with
  | none => l
  | some last => (l.set i last).dropLast

/-- Takes out the first entry of an address. -/
def remove? (t : Tracked) (address : Address) : Option (Allocation × Tracked) := do
  let i ← t.entries.findIdx? (·.address == address)
  let a ← t.entries[i]?
  return (a, { t with entries := swapErase t.entries i })

/-- The first entry of an address. -/
def find? (t : Tracked) (address : Address) : Option Allocation :=
  t.entries.find? (·.address == address)

/-- Some entry covers the address. -/
def covers (t : Tracked) (address : Address) : Bool := t.entries.any (·.covers address)

/-- The bytes of all entries, at most the largest word. -/
def totalBytes (t : Tracked) : UInt64 := t.entries.foldl (fun n a => satAdd n a.length) 0

/-- How much of a pool allocation is charged: what the pool has reserved beyond the watermark, but
no more than was asked for. The watermark rises by the charge. -/
def chargePool (t : Tracked) (reserved requested : UInt64) : UInt64 × Tracked :=
  let charged := if t.watermark < reserved then min (reserved - t.watermark) requested else 0
  (charged, { t with watermark := satAdd t.watermark charged })

/-- Lowers the watermark. -/
def releasePool (t : Tracked) (bytes : UInt64) : Tracked :=
  { t with watermark := satSub t.watermark bytes }

end Tracked

end GpuQuota
