import GpuQuota.Scenario.Objects
import GpuQuota.Scenario.Program

/-!
# Named objects on one host

One process plays many members, devices and tenants, all by name, on a simulated host.

The module introduces:

* `NamedAllocator`, `NamedLimiter`, `NamedWatcher`, `NamedTenant` — objects with the names of what
  they work on.
* `Rig` — the named objects and the host.
* `RigM`, `StepM` — steps on a rig; one that names a missing object ends early.
* `Rig.adopt`, `Rig.crash` — attaching under a name, and giving a handle up.
* `Rig.onSeat`, `Rig.onAllocator`, `Rig.onLimiter`, `Rig.onWatcher`, `Rig.onTenant` — operations of
  named objects.
-/

namespace GpuQuota.Scenario

/-- An allocator of a script. -/
structure NamedAllocator where
  /-- The handle it works on. -/
  handle : String
  /-- The number of its device. -/
  device : Nat
  /-- What it tracks. -/
  holdings : Holdings := {}

/-- A limiter of a script. -/
structure NamedLimiter where
  /-- The handle it works on. -/
  handle : String
  /-- The number of its device. -/
  device : Nat
  /-- The limiter. -/
  limiter : Limiter

/-- A watcher of a script. -/
structure NamedWatcher where
  /-- The handle it works on. -/
  handle : String
  /-- The number of its limiter. -/
  limiter : Nat
  /-- The name of its management interface. -/
  host : String
  /-- The host identity that is found for its process, if any. -/
  hostPid : Option Pid
  /-- The watcher. -/
  watcher : Watcher

/-- A tenant of a script. -/
structure NamedTenant where
  /-- The handle it works on. -/
  handle : String
  /-- The number of its device. -/
  device : Nat
  /-- The name of the management interface that its watcher looks at. -/
  host : Option String := none
  /-- The tenant. -/
  tenant : Tenant

/-- The objects of a scripted run. -/
structure Rig where
  /-- The host. -/
  machine : Machine
  /-- The process that runs the script. -/
  own : Pid
  /-- Attached members. -/
  handles : Named Attachment := []
  /-- Held region locks, by the handle that took them. -/
  guards : Named String := []
  /-- Held semaphores for host identities, by the handle that took them. -/
  postinitGuards : Named String := []
  /-- Devices. -/
  devices : Pool Device := {}
  /-- Management interfaces. -/
  hosts : Named HostApi := []
  /-- Allocators. -/
  allocators : Named NamedAllocator := []
  /-- Limiters. -/
  limiters : Pool NamedLimiter := {}
  /-- Watchers. -/
  watchers : Named NamedWatcher := []
  /-- Tenants. -/
  tenants : Named NamedTenant := []
  /-- Named pointers. -/
  pointers : Pointers := []

/-- A step on a rig. -/
abbrev RigM := StateM Rig

/-- A step on a rig that ends early where an object is missing. -/
abbrev StepM := OptionT RigM

namespace Rig

/-- A rig on a host with some directories, whose process runs already. -/
def start (clock : UInt64) (directories : List Path) : Rig :=
  let files := directories.foldl Files.withDirectory {}
  let (own, machine) := ({ files, clock } : Machine).start none
  { machine, own }

/-! ## Handles -/

/-- The handle with a name. -/
def handle (name : String) : StepM Attachment := do
  OptionT.mk (return (← get).handles.find? name)

/-- Puts a handle back after it was used. -/
def putHandle (name : String) (a : Attachment) (host : Machine) : RigM Unit :=
  modify fun rig => { rig with machine := host, handles := rig.handles.insert name a }

/-- Something that must be there. -/
def need (a? : Option α) : StepM α := OptionT.mk (pure a?)

/-- An operation of the member behind a handle. -/
def onSeat (name : String) (op : Member → SeatM α) : StepM α := do
  let a ← handle name
  let (result, a, host) := (← get).machine.onSeat a op
  liftM (putHandle name a host : RigM Unit)
  return result

/-- An operation on the region behind a handle. -/
def onRegion (name : String) (f : Member → Region → α × Region) : StepM α :=
  onSeat name fun m s =>
    let (a, r) := f m s.region
    (a, { s with region := r })

/-- The process gives a handle up: what was built on it vanishes, and its locks stay held. -/
def crash (name : String) (a : Attachment) : RigM Unit :=
  modify fun rig =>
    { rig with
      machine := rig.machine.detach rig.own a
      handles := rig.handles.erase name
      guards := rig.guards.filter (·.2 != name)
      postinitGuards := rig.postinitGuards.filter (·.2 != name)
      allocators := rig.allocators.filter (·.2.handle != name)
      limiters := rig.limiters.forget (·.handle == name)
      watchers := rig.watchers.filter (·.2.handle != name)
      tenants := rig.tenants.filter (·.2.handle != name) }

/-- Gives a name to a handle, if there is one; the handle that had the name is given up. -/
def adopt (name : String) (op : Machine.Op Attachment) : RigM Answer := do
  let (outcome, host) := op.run (← get).machine
  modify fun rig => { rig with machine := host }
  match outcome with
  | .error e => return .regionError e
  | .ok a =>
    if let some old := (← get).handles.find? name then crash name old
    modify fun rig => { rig with handles := rig.handles.insert name a }
    return .done

/-! ## Locks -/

/-- Takes the region lock and keeps it under a name. -/
def lock (name guard : String) : StepM Answer := do
  onSeat name fun m => modify fun s =>
    let attempt := s.region.lock.acquire m.pid m.alive m.settings.lock.retries
    { s with region := { s.region with lock := attempt.word }, expired := s.expired + attempt.expired }
  modify fun rig => { rig with guards := rig.guards.insert guard name }
  return .truth true

/-- Tries to take the region lock. -/
def tryLock (name guard : String) : StepM Answer := do
  let taken ← onRegion name fun m r =>
    match r.lock.tryAcquire m.pid with
    | some word => (true, { r with lock := word })
    | none => (false, r)
  if taken then modify fun rig => { rig with guards := rig.guards.insert guard name }
  return .truth taken

/-- Takes the semaphore for host identities. -/
def lockPostinit (name guard : String) : StepM Answer := do
  let taken ← onSeat name (·.takePostinit)
  if taken then modify fun rig => { rig with postinitGuards := rig.postinitGuards.insert guard name }
  return .truth taken

/-- Gives a held region lock back; whether there was one. -/
def unlock (guard : String) : RigM Answer := do
  match (← get).guards.find? guard with
  | none => return .truth false
  | some name =>
    modify fun rig => { rig with guards := rig.guards.erase guard }
    let _ ← (onRegion name fun _ r => ((), { r with lock := r.lock.release })).run
    return .truth true

/-- Gives a held semaphore for host identities back; whether there was one. -/
def unlockPostinit (guard : String) : RigM Answer := do
  match (← get).postinitGuards.find? guard with
  | none => return .truth false
  | some name =>
    modify fun rig => { rig with postinitGuards := rig.postinitGuards.erase guard }
    let _ ← (onSeat name fun _ => Member.givePostinit).run
    return .truth true

/-- Forgets what is held under a name; whether there was anything. -/
def leak (guard : String) : RigM Answer := do
  let rig ← get
  set { rig with
    guards := rig.guards.erase guard
    postinitGuards := rig.postinitGuards.erase guard }
  return .truth ((rig.guards.find? guard).isSome || (rig.postinitGuards.find? guard).isSome)

/-! ## Signals -/

/-- Points the handlers of the process at the slot of a member. -/
def installHandlers (name : String) : StepM Answer := do
  match ← onSeat name (·.mySlot.run) with
  | .error e => return .regionError e
  | .ok slot =>
    let a ← handle name
    modify fun rig => { rig with machine := rig.machine.install rig.own a slot }
    return .done

/-- Signals all other members of a region. -/
def signalAll (name : String) (status : ProcStatus) : StepM Answer := do
  let a ← handle name
  let (sent, host) := (← get).machine.signalAll a status
  modify fun rig => { rig with machine := host }
  return .number sent

/-! ## Devices and what is built on them -/

/-- An operation of a device. -/
def onDevice (name : String) (op : DeviceOp) : StepM Answer := do
  let rig ← get
  let (n, d) ← need (rig.devices.find? name)
  let (answer, d, pointers) := op.run (d, rig.pointers)
  set { rig with devices := rig.devices.set n d, pointers }
  return answer

/-- Makes a management interface, or changes what one observes. -/
def setHost (name : String) (view : View) : RigM Answer := do
  modify fun rig =>
    let h := match rig.hosts.find? name with
      | some h => { h with inner := view.apply rig.own h.inner }
      | none => view.host rig.own
    { rig with hosts := rig.hosts.insert name h }
  return .done

/-- Makes an allocator. -/
def makeAllocator (name handleName deviceName : String) : StepM Answer := do
  let _ ← handle handleName
  let device ← need ((← get).devices.number? deviceName)
  modify fun rig =>
    { rig with allocators := rig.allocators.insert name { handle := handleName, device } }
  return .done

/-- An operation of an allocator. -/
def onAllocator (name : String) (op : AllocatorOp) : StepM Answer := do
  let x ← need ((← get).allocators.find? name)
  let a ← handle x.handle
  let rig ← get
  let driver ← need (rig.devices.get? x.device)
  let (answer, desk, pointers) := op.run (rig.machine.member a)
    ({ seat := rig.machine.seat a, holdings := x.holdings, driver }, rig.pointers)
  let (a, host) := rig.machine.putSeat a desk.seat
  set { rig with
    devices := rig.devices.set x.device desk.driver
    allocators := rig.allocators.insert name { x with holdings := desk.holdings }
    pointers }
  liftM (putHandle x.handle a host : RigM Unit)
  return answer

/-- Makes a limiter. -/
def makeLimiter (name handleName deviceName : String) : StepM Answer := do
  let _ ← handle handleName
  let device ← need ((← get).devices.number? deviceName)
  modify fun rig =>
    let limiter := Limiter.startingAt rig.machine.clock
    { rig with limiters := rig.limiters.insert name { handle := handleName, device, limiter } }
  return .done

/-- An operation of a limiter. -/
def onLimiter (name : String) (op : LimiterOp) : StepM Answer := do
  let (n, x) ← need ((← get).limiters.find? name)
  let a ← handle x.handle
  let rig ← get
  let driver ← need (rig.devices.get? x.device)
  let (answer, b) := op.run (rig.machine.member a) rig.machine.clock
    { seat := rig.machine.seat a, limiter := x.limiter, driver }
  let (a, host) := rig.machine.putSeat a b.seat
  set { rig with
    devices := rig.devices.set x.device b.driver
    limiters := rig.limiters.set n { x with limiter := b.limiter } }
  liftM (putHandle x.handle a host : RigM Unit)
  return answer

/-! ## Watchers -/

/-- The devices that a watcher looks at. -/
def deviceMap (visible : Option String) (count : Nat) : DeviceMap :=
  (visible.bind DeviceMap.ofVisible?).getD (.identity (max count 1))

/-- Makes a watcher. -/
def makeWatcher (name handleName limiterName host : String) (hostPid : Option PidRef)
    (map : Option String) (attempts : Nat) : StepM Answer := do
  let a ← handle handleName
  let limiter ← need ((← get).limiters.number? limiterName)
  let _ ← need ((← get).hosts.find? host)
  modify fun rig =>
    let map := deviceMap map (rig.machine.region a.node).deviceCount
    { rig with
      watchers := rig.watchers.insert name
        { handle := handleName
          limiter
          host
          hostPid := hostPid.map (·.resolve rig.own)
          watcher := { map, attempts } } }
  return .done

/-- An operation of a watcher, given its member and the look-up of its host identity. -/
def onWatcher (name : String) (op : Member → (Pid → Option Pid) → Watch.M Device HostApi α) :
    StepM α := do
  let w ← need ((← get).watchers.find? name)
  let a ← handle w.handle
  let rig ← get
  let l ← need (rig.limiters.get? w.limiter)
  let driver ← need (rig.devices.get? l.device)
  let host ← need (rig.hosts.find? w.host)
  let (result, s) := (op (rig.machine.member a) fun _ => w.hostPid).run
    { watcher := w.watcher, seat := rig.machine.seat a, limiter := l.limiter, driver, host }
  let (a, machine) := rig.machine.putSeat a s.seat
  set { rig with
    devices := rig.devices.set l.device s.driver
    hosts := rig.hosts.insert w.host s.host
    limiters := rig.limiters.set w.limiter { l with limiter := s.limiter }
    watchers := rig.watchers.insert name { w with watcher := s.watcher } }
  liftM (putHandle w.handle a machine : RigM Unit)
  return result

/-- Looks some times. -/
def look (name : String) (times : Nat) : StepM Answer := do
  let reports ← onWatcher name fun m resolve => (List.range times).mapM fun _ => Watch.look m resolve
  match reports with
  | [r] => return .report r
  | rs => return .many (rs.map .report)

/-- Refills the observations and shows the compute time in use. -/
def utilization (name : String) : StepM Answer := do
  return .ofDriver (fun u => .utilization u.toList) (← onWatcher name fun m _ => Watch.observe m)

/-- Lets a watcher run until its limiter is settled; it is gone afterwards. -/
def spawn (name : String) : StepM Answer := do
  let (stats, settled) ← onWatcher name fun m resolve => do
    let stats ← Watch.untilSettled m resolve settleLooks {}
    return (stats, (← get).limiter.isSettled)
  modify fun rig => { rig with watchers := rig.watchers.erase name }
  return .spawned settled stats

/-! ## Tenants -/

/-- Makes a tenant. -/
def admitTenant (name handleName deviceName : String) (settings : WatcherSettings) :
    StepM Answer := do
  let a ← handle handleName
  let rig ← get
  let (device, driver) ← need (rig.devices.find? deviceName)
  let host := rig.machine
  let (outcome, seat, driver) := Tenant.admit (host.member a) settings host.clock (host.seat a) driver
  let (a, host) := host.putSeat a seat
  set { rig with devices := rig.devices.set device driver }
  liftM (putHandle handleName a host : RigM Unit)
  match outcome with
  | .error e => return .regionError e
  | .ok (slot, tenant) =>
    modify fun rig => { rig with
      machine := rig.machine.install rig.own a slot
      tenants := rig.tenants.insert name { handle := handleName, device, tenant } }
    return .done

/-- The work of a tenant. -/
def onTenant (name : String) (op : Member → StateM TenantBench α) : StepM α := do
  let x ← need ((← get).tenants.find? name)
  let a ← handle x.handle
  let rig ← get
  let driver ← need (rig.devices.get? x.device)
  let (result, b) := (op (rig.machine.member a)).run
    { tenancy := { seat := rig.machine.seat a, driver, tenant := x.tenant }
      host := x.host.bind rig.hosts.find?
      pointers := rig.pointers }
  let (a, host) := rig.machine.putSeat a b.tenancy.seat
  let hosts := match x.host, b.host with
    | some hostName, some h => rig.hosts.insert hostName h
    | _, _ => rig.hosts
  set { rig with
    devices := rig.devices.set x.device b.tenancy.driver
    hosts
    tenants := rig.tenants.insert name { x with tenant := b.tenancy.tenant }
    pointers := b.pointers }
  liftM (putHandle x.handle a host : RigM Unit)
  return result

/-- An operation of a tenant. -/
def runTenant (name : String) (op : TenantOp) : StepM Answer := do
  match op with
  | .signalAll status =>
    let x ← need ((← get).tenants.find? name)
    signalAll x.handle status
  | op =>
    let rig ← get
    onTenant name (op.run rig.own rig.machine.clock)

/-- Starts the watcher of a tenant. -/
def startWatcher (name hostName : String) (hostPid : Option PidRef) (map : Option String) :
    StepM Answer := do
  let hostPid := hostPid.map (·.resolve (← get).own)
  let x ← need ((← get).tenants.find? name)
  let _ ← need ((← get).hosts.find? hostName)
  let started ← onTenant name fun _ => do
    let region := (← get).tenancy.seat.region
    TenantOp.onTenancy (Tenancy.startWatcher (deviceMap map region.deviceCount) hostPid)
  if started && x.tenant.watcher.isNone then
    let x ← need ((← get).tenants.find? name)
    modify fun rig =>
      { rig with tenants := rig.tenants.insert name { x with host := some hostName } }
  return .truth started

end Rig

end GpuQuota.Scenario
