import GpuQuota.Limiter

/-!
# The watcher

A watcher looks at what the host observes of the processes and steers the share of compute time.
One look finds out the own host identity if it is not known yet, refills the observations of all
slots, moves the share towards the limit, and credits it to the bucket.

The module introduces:

* `Watcher`, `Watch` — a watcher, and the state that a look works on.
* `Watch.identify` — the host identity, with a fallback after enough attempts.
* `Watch.observe` — refills the observations from the management interface.
* `Watch.steer`, `Watch.adjust` — moves the share, after observing.
* `Watch.look` — one whole look, with its `Report`.
-/

namespace GpuQuota

/-- A watcher of one process. -/
structure Watcher where
  /-- The devices it looks at. -/
  map : DeviceMap
  /-- How often the host identity is looked up before the own identifier is taken. -/
  attempts : Nat
  /-- The host identity is known. -/
  ready : Bool := false
  /-- The look-ups of the host identity that failed. -/
  failures : Nat := 0

/-- What a look came to. -/
structure Report where
  /-- Nothing was observed. -/
  skipped : Bool
  /-- The compute time observed on the governed device, in percent. -/
  utilization : Int := 0
  /-- The share. -/
  share : Int := 0
  /-- The balance of the bucket. -/
  current : Int := 0
  /-- The capacity of the bucket. -/
  total : Int := 0
  deriving DecidableEq, Repr, Inhabited

/-- The report of a look that observed nothing. -/
def Report.none : Report := { skipped := true }

/-- The state that a look works on: the watcher, the seat and the limiter of its process, the
driver, and the management interface. -/
structure Watch (σ μ : Type) where
  /-- The watcher. -/
  watcher : Watcher
  /-- The region as its process sees it. -/
  seat : Seat
  /-- The limiter. -/
  limiter : Limiter
  /-- The driver. -/
  driver : σ
  /-- The management interface. -/
  host : μ

/-- The compute time observed on each device, in percent. -/
abbrev Utilization := Vector Int maxDevices

namespace Watch

/-- An operation of a watcher. -/
abbrev M (σ μ : Type) := StateM (Watch σ μ)

variable {σ μ : Type}

/-- An operation on the seat. -/
def onSeat (op : SeatM α) : M σ μ α := fun w =>
  let (a, seat) := op w.seat
  (a, { w with seat })

/-- A call of the management interface. -/
def onHost (call : Call μ α) : M σ μ (Except DriverError α) := fun w =>
  let (a, host) := call w.host
  (a, { w with host })

/-- Changes the watcher. -/
def modifyWatcher (f : Watcher → Watcher) : M σ μ Unit :=
  modify fun w => { w with watcher := f w.watcher }

/-- Asks for the size of the governed device; without an answer nothing changes. -/
def querySpec [DeviceDriver σ] : M σ μ Unit :=
  modify fun w =>
    let (_, limiter, driver) := Limiter.querySpec (w.limiter, w.driver)
    { w with limiter, driver }

/-! ## The host identity -/

/-- Looks the host identity up while holding the semaphore for it; without the semaphore there is
no answer. -/
def lookUp (m : Member) (resolve : Pid → Option Pid) : M σ μ (Option Pid) := do
  if ← onSeat m.takePostinit then
    onSeat Member.givePostinit
    return resolve m.pid
  else return none

/-- The host identity to note: the answer, or after enough failures the own identifier. -/
def decideHostPid (m : Member) (answer : Option Pid) : M σ μ (Option Pid) := do
  if answer.isSome then return answer
  modifyWatcher fun w => { w with failures := w.failures + 1 }
  let w := (← get).watcher
  return if w.failures < w.attempts then none else some m.pid

/-- Makes sure that the host identity of the process is noted; whether it is. -/
def identify [DeviceDriver σ] (m : Member) (resolve : Pid → Option Pid) : M σ μ Bool := do
  if (← get).watcher.ready then return true
  let i? ← onSeat m.mySlot?
  match i?.bind (← get).seat.region.slot? with
  | none => return false
  | some slot =>
    -- Somebody else may have noted the identity already.
    if slot.hostPid = 0 then
      match ← decideHostPid m (← lookUp m resolve) with
      | none => return false
      | some hostPid =>
        match ← onSeat (m.setHostPid hostPid) with
        | .error _ => return false
        | .ok _ => querySpec
    modifyWatcher fun w => { w with ready := true }
    return true

/-! ## Observations -/

/-- The slot that a sample is about. A sample of nobody, or of an identity that no slot can hold,
is about none. -/
def sampleSlot? (r : Region) (hostPid : Nat) : Option Nat :=
  if hostPid < 0x80000000 then r.slotOfHost? hostPid else none

/-- Adds samples to what was observed of their processes on a device. -/
def tally (r : Region) (d : DeviceIndex) (add : α → DeviceRecord → DeviceRecord)
    (samples : List (Nat × α)) : Region :=
  samples.foldl
    (fun r (hostPid, a) =>
      match sampleSlot? r hostPid with
      | some i => r.modifySlot i (·.modifyDevice d (add a))
      | none => r)
    r

/-- The sum of the shares of compute time in samples of registered processes. -/
def sumShares (r : Region) (samples : List (Nat × Nat)) : Int :=
  (samples.filter fun (hostPid, _) => (sampleSlot? r hostPid).isSome).foldl
    (fun n (_, share) => saturate (n + share)) 0

/-- Adds what the management interface observes of one device, and gives the compute time in use.
What it cannot tell counts as nothing. -/
def observeDevice [Management μ] (number : Nat) (d : DeviceIndex) (r : Region) (host : μ) :
    Int × Region × μ :=
  let (memory, host) := Management.processes number host
  let r := tally r d (fun n x => { x with monitor := x.monitor + n }) (memory.toOption.getD [])
  -- The two queries are made one after the other, and either may fail alone.
  let (compute, host) := Management.utilization number host
  let samples := compute.toOption.getD []
  let r := tally r d (fun n x => { x with compute := x.compute + UInt64.ofNat n }) samples
  (max (sumShares r samples) 0, r, host)

/-- The devices of the host that are visible, with their places in the region. -/
def visibleDevices (map : DeviceMap) (count : Nat) : List (Nat × DeviceIndex) :=
  (List.range count).filterMap fun number => (map.regionFor number).map (number, ·)

/-- Adds what the management interface observes of one more device. -/
def observeNext [Management μ] :
    (Utilization × μ) × Region → Nat × DeviceIndex → (Utilization × μ) × Region
  | ((used, host), r), (number, d) =>
    let (n, r, host) := observeDevice number d r host
    ((used.set d n d.isLt, host), r)

/-- Adds what the management interface observes of all visible devices. -/
def observeAll [Management μ] (map : DeviceMap) (count : Nat) (r : Region) (host : μ) :
    (Utilization × μ) × Region :=
  (visibleDevices map count).foldl observeNext ((.replicate _ 0, host), r)

/-- Refills the observations, and gives the compute time in use on each device. -/
def observe [Management μ] (m : Member) : M σ μ (Except DriverError Utilization) := do
  match ← onHost Management.deviceCount with
  | .error e => return .error e
  | .ok count =>
    let w ← get
    let (used, host) ← onSeat (m.locked fun r => observeAll w.watcher.map count r w.host)
    modify fun w => { w with host }
    return .ok used

/-! ## The share -/

/-- The limit as a percentage that a step can be sized for. -/
def limitOf (r : Region) : Int := min (Limiter.limit r).toNat 0x7FFFFFFF

/-- Moves the share by what was observed, and credits it. A process that starves on the full share
has too small a bucket, which is doubled; an observation that is no percentage moves nothing. -/
def steer (l : Limiter) (limit user : Int) : Limiter :=
  let l :=
    if l.share = l.tokens.total ∧ l.tokens.current < 0 then
      -- This is the one step that is not bounded by the size of the device.
      let tokens := l.tokens.doubleTotal
      { l with tokens, share := tokens.total }
    else l
  if 0 ≤ user ∧ user ≤ 100 then
    let share := l.nextShare limit user l.share
    { l.credit share with share }
  else l

/-- Observes all devices, and moves the share by what was observed of the governed one. -/
def adjust [Management μ] (m : Member) : M σ μ Report := do
  onSeat m.resetObserved
  match ← observe m with
  | .error _ => return Report.none
  | .ok used =>
    let user := used.get governedDevice
    modify fun w => { w with limiter := steer w.limiter (limitOf w.seat.region) user }
    let l := (← get).limiter
    return {
      skipped := false
      utilization := user
      share := l.share
      current := l.tokens.current
      total := l.tokens.total }

/-- One look. -/
def look [DeviceDriver σ] [Management μ] (m : Member) (resolve : Pid → Option Pid) :
    M σ μ Report := do
  unless ← identify m resolve do return Report.none
  unless (← get).limiter.hasSpec do querySpec
  adjust m

end Watch

end GpuQuota
