import GpuQuota.Driver.Simulated
import GpuQuota.Member

/-!
# Allocation under a quota

An allocator charges the region before it asks the driver for memory, tracks what it was given, and
takes the charge back when the memory is freed. A request that does not fit first has the slots of
dead processes cleared and is then tried once more.

The module introduces:

* `Desk` — the state an allocator works on: its seat, its tracked allocations, and the driver.
* `Allocator.admissible` — whether a request would fit, without charging it.
* `Allocator.reserve` — charges a request, if the sum with it stays within the limit.
* `Allocator.allocate`, `free`, `allocateAsync`, `freeAsync`, `registerExternal` — allocation and
  freeing, plain and from the pool.

Whatever is refused leaves charges and tracked allocations as they were, provided the caller is
registered.
-/

namespace GpuQuota

/-- What an allocator tracks. -/
structure Holdings where
  /-- Plain allocations and registered memory. -/
  plain : Tracked := {}
  /-- Allocations from the pool. -/
  pooled : Tracked := {}
  deriving DecidableEq, Repr, Inhabited

/-- The state that an allocator works on. -/
structure Desk (σ : Type) where
  /-- The region as its member sees it. -/
  seat : Seat
  /-- What is tracked. -/
  holdings : Holdings
  /-- The driver. -/
  driver : σ

/-- An operation of an allocator. -/
abbrev AllocM (σ : Type) := ExceptT AllocError (StateM (Desk σ))

/-- What freeing a pointer came to. -/
inductive FreeOutcome
  /-- The memory was tracked; its charge was taken back. -/
  | freed (bytes : UInt64)
  /-- The driver freed memory that was not tracked. -/
  | untracked
  deriving DecidableEq, Repr

namespace Allocator

variable {σ : Type}

/-- An operation on the seat. -/
def onSeat (op : SeatM α) : AllocM σ α := do
  let desk ← get
  let (a, seat) := op desk.seat
  set { desk with seat }
  return a

/-- An operation on the seat that may be refused. -/
def onRegion (op : RegionM α) : AllocM σ α := do
  match ← onSeat op with
  | .ok a => return a
  | .error e => throw (.region e)

/-- A call of the driver, with its refusal as a result. -/
def attempt (call : Call σ α) : AllocM σ (Except DriverError α) := do
  let desk ← get
  let (result, driver) := call desk.driver
  set { desk with driver }
  return result

/-- A call of the driver. -/
def onDriver (call : Call σ α) : AllocM σ α := do
  match ← attempt call with
  | .ok a => return a
  | .error e => throw (.driver e)

/-- Changes what is tracked. -/
def modifyHoldings (f : Holdings → Holdings) : AllocM σ Unit :=
  modify fun desk => { desk with holdings := f desk.holdings }

/-! ## Charging -/

/-- Would a request fit? Nothing is charged; slots of dead processes are cleared if the request
does not fit with them. -/
def admissible (m : Member) (dev : Nat) (size : UInt64) : AllocM σ Unit := do
  let limit ← onRegion (Member.memoryLimit dev)
  if limit = 0 then return
  let usage := (← onRegion (Member.usageSum dev)).bytes
  if satAdd usage size > limit then
    -- Nothing cleared means that the sum cannot have changed.
    if (← onSeat m.clearDead) = 0 then throw (.outOfMemory dev size usage limit)
    let usage := (← onRegion (Member.usageSum dev)).bytes
    if satAdd usage size > limit then throw (.outOfMemory dev size usage limit)

/-- Charges a request and looks at the sum. If it exceeds the limit the charge is taken back, and
the usage of all others is given. -/
def charge (m : Member) (dev : Nat) (bytes : UInt64) (kind : UsageKind) (limit : UInt64) :
    AllocM σ (Option UInt64) := do
  -- The charge comes before the look, so that of two requests that race each one sees the other.
  onRegion (m.addUsage m.pid dev bytes kind)
  if limit = 0 then return none
  let usage := (← onRegion (Member.usageSum dev)).bytes
  if usage ≤ limit then return none
  onRegion (m.removeUsage m.pid dev bytes kind)
  return some (satSub usage bytes)

/-- Charges a request, if it fits; after clearing slots of dead processes it is tried once more. -/
def reserve (m : Member) (dev : Nat) (bytes : UInt64) (kind : UsageKind) : AllocM σ Unit := do
  let limit ← onRegion (Member.memoryLimit dev)
  match ← charge m dev bytes kind limit with
  | none => return
  | some others =>
    if (← onSeat m.clearDead) = 0 then throw (.outOfMemory dev bytes others limit)
    match ← charge m dev bytes kind limit with
    | none => return
    | some others => throw (.outOfMemory dev bytes others limit)

/-- Takes back a charge; without a slot there is nothing to take back. -/
def unreserve (m : Member) (dev : Nat) (bytes : UInt64) (kind : UsageKind) : AllocM σ Unit := do
  let _ ← onSeat (m.removeUsage m.pid dev bytes kind)

/-! ## Allocating and freeing -/

/-- Tracks a plain allocation. -/
def trackPlain (a : Allocation) : AllocM σ Unit :=
  modifyHoldings fun h => { h with plain := h.plain.push a }

/-- Tracks an allocation from the pool. -/
def trackPooled (a : Allocation) : AllocM σ Unit :=
  modifyHoldings fun h => { h with pooled := h.pooled.push a }

variable [DeviceDriver σ]

/-- Asks the driver for memory, in large pages beyond the size of one. -/
def obtain (size : UInt64) : Call σ (Address × Option UInt64) := fun d =>
  if size ≤ largePage then
    match DeviceDriver.alloc size d with
    | (.ok address, d) => (.ok (address, none), d)
    | (.error e, d) => (.error e, d)
  else
    match DeviceDriver.allocLarge size d with
    | (.ok (address, handle), d) => (.ok (address, some handle), d)
    | (.error e, d) => (.error e, d)

/-- Allocates memory of one kind on the current device. -/
def allocateAs (m : Member) (size : UInt64) (kind : UsageKind) : AllocM σ Address := do
  let device ← onDriver DeviceDriver.currentDevice
  reserve m device size kind
  match ← attempt (obtain size) with
  | .error e =>
    unreserve m device size kind
    throw (.driver e)
  | .ok (address, handle) =>
    trackPlain { address, length := size, device, kind, handle }
    return address

/-- Allocates data on the current device. -/
def allocate (m : Member) (size : UInt64) : AllocM σ Address := allocateAs m size .data

/-- Frees memory. A pointer that is not tracked is handed to the driver all the same; one that the
driver refuses stays tracked. -/
def free (m : Member) (address : Address) : AllocM σ FreeOutcome := do
  match (← get).holdings.plain.remove? address with
  | none =>
    onDriver (DeviceDriver.free address none)
    return .untracked
  | some (a, rest) =>
    -- The entry is gone while the driver is asked, and comes back if it refuses.
    modifyHoldings fun h => { h with plain := rest }
    match ← attempt (DeviceDriver.free address a.handle) with
    | .error e =>
      trackPlain a
      throw (.driver e)
    | .ok _ =>
      onRegion (m.removeUsage m.pid a.device a.length a.kind)
      return .freed a.length

/-- Allocates from the pool of the current device. Charged is what the pool has grown beyond what
this allocator pays for already; if the driver cannot tell, the whole size. -/
def allocateAsync (m : Member) (size : UInt64) (stream : Stream) : AllocM σ Address := do
  let device ← onDriver DeviceDriver.currentDevice
  admissible m device size
  let address ← onDriver (DeviceDriver.allocAsync size stream)
  let answer ← attempt (DeviceDriver.poolReserved device)
  let pooled := (← get).holdings.pooled
  -- A driver that cannot tell counts as one whose pool has grown by all of the request.
  let reserved := match answer with
    | .ok n => n
    | .error _ => satAdd pooled.watermark size
  let (charged, pooled) := pooled.chargePool reserved size
  modifyHoldings fun h => { h with pooled }
  if charged > 0 then
    tryCatch (reserve m device charged .data) fun e => do
      -- The pool gets the memory back whether or not the driver says so.
      modifyHoldings fun h => { h with pooled := h.pooled.releasePool charged }
      let _ ← attempt (DeviceDriver.freeAsync address stream)
      throw e
  trackPooled { address, length := charged, device, kind := .data, handle := none }
  return address

/-- Gives memory back to the pool. -/
def freeAsync (m : Member) (address : Address) (stream : Stream) : AllocM σ FreeOutcome := do
  match (← get).holdings.pooled.remove? address with
  | none =>
    onDriver (DeviceDriver.freeAsync address stream)
    return .untracked
  | some (a, rest) =>
    -- As for plain memory, the entry comes back if the driver refuses.
    modifyHoldings fun h => { h with pooled := rest }
    match ← attempt (DeviceDriver.freeAsync address stream) with
    | .error e =>
      trackPooled a
      throw (.driver e)
    | .ok _ =>
      modifyHoldings fun h => { h with pooled := h.pooled.releasePool a.length }
      if a.length > 0 then onRegion (m.removeUsage m.pid a.device a.length a.kind)
      return .freed a.length

/-- Charges and tracks memory that was allocated elsewhere. -/
def registerExternal (m : Member) (address : Address) (size : UInt64) : AllocM σ Unit := do
  let device ← onDriver DeviceDriver.currentDevice
  reserve m device size .data
  trackPlain { address, length := size, device, kind := .data, handle := none }

end Allocator

namespace Holdings

/-- The address lies in tracked memory of the device. -/
def isDeviceMemory (h : Holdings) (address : Address) : Bool := h.plain.covers address

/-- All bytes tracked, at most the largest word. -/
def trackedBytes (h : Holdings) : UInt64 := satAdd h.plain.totalBytes h.pooled.totalBytes

end Holdings

end GpuQuota
