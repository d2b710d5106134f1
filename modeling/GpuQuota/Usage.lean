import GpuQuota.Word

/-!
# Memory usage

What a process is charged for on one device: three kinds of memory and their total.

The module introduces:

* `UsageKind` — what a charge is for.
* `Usage` — the counters of one device, with `charge` and `release`, which wrap around.
* `Usage.IsBalanced` — the total is the sum of the kinds.
* `MemoryInfo` — device memory as the application is shown it.
-/

namespace GpuQuota

/-- What a charge of device memory is for. -/
inductive UsageKind
  /-- Driver state of a process. -/
  | context
  /-- Loaded code. -/
  | module
  /-- Allocations of the application. -/
  | data
  deriving DecidableEq, Repr

namespace UsageKind

/-- The number under which a kind is stored. -/
def index : UsageKind → Nat
  | .context => 0
  | .module => 1
  | .data => 2

/-- The kind stored under a number. -/
def ofIndex? : Nat → Option UsageKind
  | 0 => some .context
  | 1 => some .module
  | 2 => some .data
  | _ => none

/-- The name of a kind. -/
def name : UsageKind → String
  | .context => "context"
  | .module => "module"
  | .data => "data"

theorem ofIndex?_index (k : UsageKind) : ofIndex? k.index = some k := by cases k <;> rfl

end UsageKind

/-- The usage counters of one device. -/
structure Usage where
  /-- Bytes charged as driver state. -/
  context : UInt64 := 0
  /-- Bytes charged as code. -/
  module : UInt64 := 0
  /-- Bytes charged as data. -/
  data : UInt64 := 0
  /-- All bytes charged. -/
  total : UInt64 := 0
  deriving DecidableEq, Repr, Inhabited

namespace Usage

/-- No charges. -/
def zero : Usage := {}

/-- The counter of one kind. -/
def get (u : Usage) : UsageKind → UInt64
  | .context => u.context
  | .module => u.module
  | .data => u.data

/-- The usage with one counter changed; the total is left alone. -/
def modify (u : Usage) (k : UsageKind) (f : UInt64 → UInt64) : Usage :=
  match k with
  | .context => { u with context := f u.context }
  | .module => { u with module := f u.module }
  | .data => { u with data := f u.data }

/-- Adds a charge to its kind and to the total, modulo `2^64`. -/
def charge (u : Usage) (k : UsageKind) (n : UInt64) : Usage :=
  { u.modify k (· + n) with total := u.total + n }

/-- Takes a charge from its kind and from the total, modulo `2^64`. -/
def release (u : Usage) (k : UsageKind) (n : UInt64) : Usage :=
  { u.modify k (· - n) with total := u.total - n }

/-- The total is the sum of the three kinds as natural numbers. -/
def IsBalanced (u : Usage) : Prop :=
  u.context.toNat + u.module.toNat + u.data.toNat = u.total.toNat

instance (u : Usage) : Decidable u.IsBalanced :=
  inferInstanceAs (Decidable (_ = _))

@[simp] theorem total_charge (u : Usage) (k : UsageKind) (n : UInt64) :
    (u.charge k n).total = u.total + n := rfl

@[simp] theorem total_release (u : Usage) (k : UsageKind) (n : UInt64) :
    (u.release k n).total = u.total - n := rfl

@[simp] theorem get_charge (u : Usage) (k j : UsageKind) (n : UInt64) :
    (u.charge k n).get j = if j = k then u.get j + n else u.get j := by
  cases k <;> cases j <;> rfl

@[simp] theorem get_release (u : Usage) (k j : UsageKind) (n : UInt64) :
    (u.release k n).get j = if j = k then u.get j - n else u.get j := by
  cases k <;> cases j <;> rfl

/-- A release takes back the charge of the same kind and size. -/
theorem release_charge (u : Usage) (k : UsageKind) (n : UInt64) :
    (u.charge k n).release k n = u := by
  cases k <;> simp [charge, release, modify]

end Usage

/-- Device memory as an application sees it. -/
structure MemoryInfo where
  /-- Bytes in all. -/
  total : UInt64
  /-- Bytes in use. -/
  used : UInt64
  /-- Bytes left. -/
  free : UInt64
  deriving DecidableEq, Repr

/-- Shows the quota in place of the device: the limit as the total and what is left of it as free
memory. Without a limit (`0`) only the used bytes are replaced. -/
def MemoryInfo.underQuota (physical : MemoryInfo) (limit usage : UInt64) : MemoryInfo :=
  if limit = 0 then { physical with used := usage }
  else { total := limit, used := usage, free := satSub limit usage }

end GpuQuota
