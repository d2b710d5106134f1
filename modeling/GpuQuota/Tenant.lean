import GpuQuota.Allocator
import GpuQuota.Watcher

/-!
# Tenants

A tenant is a registered process with all that it needs to share a device: an allocator under the
memory quota, a limiter for launches, and a watcher where there is a compute limit to steer to.

The module introduces:

* `Tenant`, `Tenancy` — a tenant, and a tenant at work on its seat and its driver.
* `Tenant.admit` — registers a member as a tenant.
* `Tenancy.launch`, `Tenancy.memoryInfo`, `Tenancy.setHostPid` — what an application asks for.
* `Tenancy.startWatcher`, `Tenancy.settle`, `Tenancy.stopWatcher` — the watcher of a tenant.
* `Tenancy.shutdown` — the way out.
-/

namespace GpuQuota

/-- What a watcher did so far. -/
structure WatchStats where
  /-- The looks it took. -/
  looks : Nat := 0
  /-- The looks that observed nothing. -/
  skipped : Nat := 0
  /-- The last look. -/
  last : Report := { skipped := false }
  deriving DecidableEq, Repr, Inhabited

/-- Counts one more look. -/
def WatchStats.add (s : WatchStats) (r : Report) : WatchStats where
  looks := s.looks + 1
  skipped := s.skipped + if r.skipped then 1 else 0
  last := r

/-- A watcher that a tenant has started. -/
structure RunningWatcher where
  /-- The watcher. -/
  watcher : Watcher
  /-- The host identity that is found for the process, if any. -/
  hostPid : Option Pid
  /-- What it did so far. -/
  stats : WatchStats := {}
  /-- It was asked to stop. -/
  stopping : Bool := false

/-! ## Tenants -/

/-- A process that shares devices under quotas. -/
structure Tenant where
  /-- What its allocator tracks. -/
  holdings : Holdings := {}
  /-- Its limiter. -/
  limiter : Limiter
  /-- The settings of its watcher. -/
  settings : WatcherSettings := {}
  /-- Its watcher, if it was started. -/
  watcher : Option RunningWatcher := none

/-- A tenant at work. -/
structure Tenancy (σ : Type) where
  /-- The region as the tenant sees it. -/
  seat : Seat
  /-- The driver. -/
  driver : σ
  /-- The tenant. -/
  tenant : Tenant

/-- The bucket is full and the share is all of it. -/
def Limiter.isSettled (l : Limiter) : Bool :=
  0 < l.tokens.total && l.share == l.tokens.total && l.tokens.current == l.tokens.total

/-- Looks until the limiter is settled, but at most `fuel` times. -/
def Watch.untilSettled [DeviceDriver σ] [Management μ] (m : Member) (resolve : Pid → Option Pid) :
    (fuel : Nat) → WatchStats → Watch.M σ μ WatchStats
  | 0, stats => return stats
  | fuel + 1, stats => do
    if (← get).limiter.isSettled then return stats
    Watch.untilSettled m resolve fuel (stats.add (← Watch.look m resolve))

/-- As many looks as are waited for. -/
def settleLooks : Nat := 10000

/-- Registers a member as a tenant, with the slot that it got. The size of the device may stay
unknown; launches are not throttled then. -/
def Tenant.admit [DeviceDriver σ] (m : Member) (settings : WatcherSettings) (now : UInt64)
    (seat : Seat) (driver : σ) : Except RegionError (Nat × Tenant) × Seat × σ :=
  match settings.validate with
  | .error e => (.error (.config e), seat, driver)
  | .ok () =>
    match m.registerSelf.run seat with
    | (.error e, seat) => (.error e, seat, driver)
    | (.ok slot, seat) =>
      let (_, limiter, driver) := Limiter.querySpec (.startingAt now, driver)
      (.ok (slot, { limiter, settings }), seat, driver)

namespace Tenancy

/-- An operation of a tenant. -/
abbrev M (σ : Type) := StateM (Tenancy σ)

variable {σ μ : Type}

/-- Changes the tenant. -/
def modifyTenant (f : Tenant → Tenant) : M σ Unit := modify fun t => { t with tenant := f t.tenant }

/-- An operation on the seat. -/
def onSeat (op : SeatM α) : M σ α := fun t =>
  let (a, seat) := op t.seat
  (a, { t with seat })

/-- An operation of the allocator. -/
def onAllocator (op : AllocM σ α) : M σ (Except AllocError α) := fun t =>
  let (a, desk) := op.run { seat := t.seat, holdings := t.tenant.holdings, driver := t.driver }
  (a, { seat := desk.seat, driver := desk.driver, tenant := { t.tenant with holdings := desk.holdings } })

/-- Asks the driver for the size of the governed device; without an answer nothing changes. -/
def querySpec [DeviceDriver σ] : M σ Unit :=
  modify fun t =>
    let (_, limiter, driver) := Limiter.querySpec (t.tenant.limiter, t.driver)
    { t with driver, tenant := { t.tenant with limiter } }

/-- Lets a launch in and records it. -/
def launch (m : Member) (grid : UInt64) (relief : Relief) (now : UInt64) : M σ LaunchOutcome := do
  let t ← get
  let (outcome, limiter, region) := t.tenant.limiter.launch m t.seat.region grid relief
  set { t with seat := { t.seat with region }, tenant := { t.tenant with limiter } }
  if let .admitted _ := outcome then
    let (_, limiter) ← onSeat (limiter.noteLaunch m now)
    modifyTenant fun t => { t with limiter }
  return outcome

/-- Device memory as the application is shown it. -/
def memoryInfo (dev : Nat) (physical : MemoryInfo) : RegionM MemoryInfo := do
  let limit ← Member.memoryLimit dev
  let usage := (← Member.usageSum dev).bytes
  return physical.underQuota limit usage

/-- Notes the host identity; from then on the size of the device can be asked for. -/
def setHostPid [DeviceDriver σ] (m : Member) (hostPid : Pid) : M σ (Except RegionError Unit) := do
  let result ← onSeat (m.setHostPid hostPid).run
  if let .ok _ := result then querySpec
  return result

/-! ## The watcher of a tenant -/

/-- Starts the watcher if there is a compute limit to steer to; whether one runs. -/
def startWatcher (map : DeviceMap) (hostPid : Option Pid) : M σ Bool := do
  let t ← get
  let limit := Limiter.limit t.seat.region
  if limit = 0 ∨ limit > unlimitedCompute then return false
  if t.tenant.watcher.isNone then
    let watcher := { map, attempts := t.tenant.settings.hostPidAttempts }
    modifyTenant ({ · with watcher := some { watcher, hostPid } })
  return true

/-- Lets the watcher look until the limiter is settled; whether it came to that. -/
def settle [DeviceDriver σ] [Management μ] (m : Member) (host : μ) : M σ (Bool × μ) := fun t =>
  match t.tenant.watcher with
  | some w =>
    if w.stopping then ((t.tenant.limiter.isSettled, host), t)
    else
      let (stats, s) := Watch.untilSettled m (fun _ => w.hostPid) settleLooks w.stats
        { watcher := w.watcher, seat := t.seat, limiter := t.tenant.limiter, driver := t.driver, host }
      ((s.limiter.isSettled, s.host),
        { seat := s.seat
          driver := s.driver
          tenant :=
            { t.tenant with
              limiter := s.limiter
              watcher := some { w with watcher := s.watcher, stats } } })
  | none => ((t.tenant.limiter.isSettled, host), t)

/-- Stops the watcher and gives what it did, if there was one. -/
def stopWatcher : M σ (Option WatchStats) := do
  let w? := (← get).tenant.watcher
  modifyTenant ({ · with watcher := none })
  return w?.map (·.stats)

/-- Asks the watcher to stop, without waiting for it. -/
def quietWatcher : M σ Unit :=
  modifyTenant fun t => { t with watcher := t.watcher.map ({ · with stopping := true }) }

/-- Asks the watcher to stop and gives the slot back; whether there was one to give. -/
def shutdown (m : Member) : M σ Bool := do
  quietWatcher
  onSeat m.removeSelf

end Tenancy

end GpuQuota
