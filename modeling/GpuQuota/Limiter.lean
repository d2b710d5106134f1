import GpuQuota.Driver.Interface
import GpuQuota.Member
import GpuQuota.Throttle.Tokens

/-!
# Limiting kernel launches

A process pays for each kernel launch out of its own bucket of tokens, which its watcher credits.
The compute limit of the governed device decides whether launches are throttled at all.

The module introduces:

* `Limiter` — the bucket, the size of the governed device, the share, and the last recorded launch.
* `Limiter.throttling` — whether launches pay.
* `Relief`, `Limiter.launch` — a launch that may have to wait, with what others do meanwhile.
* `Limiter.noteLaunch` — records a launch in the region, at most once per interval.
-/

namespace GpuQuota

/-- What a process knows for its launches. -/
structure Limiter where
  /-- The size of the governed device, once it is known. -/
  spec : DeviceSpec := {}
  /-- The bucket. -/
  tokens : Tokens := {}
  /-- The share that the watcher credits. -/
  share : Int := 0
  /-- When a launch was last recorded, in seconds. -/
  lastNote : UInt64
  deriving DecidableEq, Repr, Inhabited

/-- What others do while a launch waits. -/
structure Relief where
  /-- The value that opens the gate. -/
  openGate : Option Int := none
  /-- A credit to the bucket. -/
  credit : Option Int := none
  deriving DecidableEq, Repr

/-- What became of a launch. -/
inductive LaunchOutcome
  /-- It waits at the gate for ever. -/
  | atGate
  /-- It waits for tokens for ever. -/
  | starved
  /-- It was let in, after a wait or at once. -/
  | admitted (waited : Bool)
  deriving DecidableEq, Repr

namespace Limiter

/-- A limiter that starts at a time. -/
def startingAt (now : UInt64) : Limiter := { lastNote := now }

/-- The size of the device is known. -/
def hasSpec (l : Limiter) : Bool := 0 < l.tokens.total

/-- Notes the size of the device and fits the capacity of the bucket to it. -/
def setSpec (l : Limiter) (spec : DeviceSpec) : Limiter :=
  { l with spec, tokens := l.tokens.setTotal spec.totalCores }

/-- Asks the driver for the size of the governed device. -/
def querySpec [DeviceDriver σ] : Call (Limiter × σ) DeviceSpec := fun (l, driver) =>
  match DeviceDriver.spec governedDevice driver with
  | (.ok spec, driver) => (.ok spec, l.setSpec spec, driver)
  | (.error e, driver) => (.error e, l, driver)

/-- The compute limit of the governed device. -/
def limit (r : Region) : UInt64 := r.computeLimits.get governedDevice

/-- Launches pay: there is a partial limit, the bucket has its capacity, and throttling is on. -/
def throttling (l : Limiter) (m : Member) (r : Region) : Bool :=
  0 < limit r && limit r < unlimitedCompute && l.hasSpec && m.switchOn r

/-- The next share, from the utilization observed. -/
def nextShare (l : Limiter) (limit user share : Int) : Int :=
  l.spec.nextShare l.tokens.total limit user share

/-- Credits the bucket. -/
def credit (l : Limiter) (amount : Int) : Limiter := { l with tokens := l.tokens.change amount }

/-- What a grid of blocks costs. -/
def cost (grid : UInt64) : Int := saturate grid.toNat

/-- Pays for a launch if launches pay. -/
def pay (l : Limiter) (m : Member) (r : Region) (grid : UInt64) : Option Limiter :=
  if l.throttling m r then (l.tokens.debit? (cost grid)).map fun tokens => { l with tokens }
  else some l

/-- Lets a launch in: first past the gate, which it then leaves open, then against tokens. Where it
has to wait, relief comes once; if that is not enough, it waits for ever and nothing changes. -/
def launch (l : Limiter) (m : Member) (r : Region) (grid : UInt64) (relief : Relief) :
    LaunchOutcome × Limiter × Region :=
  let closed := decide (r.recentKernel < 0)
  if closed && relief.openGate.isNone then (.atGate, l, r)
  else
    -- Whoever passes the gate leaves it open.
    let passed := { r with recentKernel := 2 }
    match l.pay m passed grid with
    | some paid => (.admitted closed, paid, passed)
    | none =>
      match relief.credit.bind fun amount => (l.credit amount).pay m passed grid with
      | some paid => (.admitted true, paid, passed)
      | none => (.starved, l, r)

/-- Records a launch at a time, unless the last record is younger than the interval. The time in
the region never goes back. -/
def noteLaunch (l : Limiter) (m : Member) (now : UInt64) : SeatM (Bool × Limiter) := do
  if (satSub now l.lastNote).toNat < m.settings.recordInterval then return (false, l)
  m.locked fun r => ((), { r with lastKernel := max r.lastKernel now })
  return (true, { l with lastNote := now })

end Limiter

end GpuQuota
