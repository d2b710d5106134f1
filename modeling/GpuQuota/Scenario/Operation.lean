import GpuQuota.Scenario.Answer

/-!
# Operations of scripted steps

The operations that a script asks of a member, an allocator, a limiter, a device, a file, or a
tenant, and what they answer.

The module introduces:

* `SlotWord`, `HeaderWord` — single words of a region, with `store`.
* `SeatOp`, `AllocatorOp`, `LimiterOp`, `TenantOp`, `DeviceOp`, `FileOp` — operations, each with a
  `run`.
-/

namespace GpuQuota.Scenario

/-- The devices of scripted runs. -/
abbrev Device := Faulty SimulatedDevice

/-- The management interfaces of scripted runs. -/
abbrev HostApi := Faulty SimulatedHost

/-- A process as a script names it. -/
inductive PidRef
  /-- The process that runs the step. -/
  | own
  | id (pid : Pid)
  deriving DecidableEq, Repr

/-- The identifier behind a name. -/
def PidRef.resolve (own : Pid) : PidRef → Pid
  | .own => own
  | .id pid => pid

/-- A pointer as a script names it. -/
inductive PointerRef
  | named (name : String)
  | address (value : Address)
  deriving DecidableEq, Repr

/-- The pointers that a script has names for; the first entry of a name counts. -/
abbrev Pointers := List (String × Address)

/-- The address behind a pointer; zero for an unknown name. -/
def Pointers.resolve (ps : Pointers) : PointerRef → Address
  | .named name => (ps.lookup name).getD 0
  | .address a => a

/-- Gives a pointer a name, if there is one. -/
def Pointers.bind (ps : Pointers) (name : Option String) (a : Address) : Pointers :=
  match name with
  | some n => (n, a) :: ps
  | none => ps

/-- A word of a slot. -/
inductive SlotWord
  | pid
  | hostPid
  | status
  | context
  | module
  | data
  | total
  | monitor
  | compute
  | decoder
  | encoder
  deriving DecidableEq, Repr

/-- Stores a word in a slot; device words of devices without room are not stored. -/
def SlotWord.store (w : SlotWord) (dev : Nat) (n : Int) (s : Slot) : Slot :=
  let word := UInt64.ofInt n
  let onDevice (f : DeviceRecord → DeviceRecord) : Slot :=
    match device? dev with
    | .ok d => s.modifyDevice d f
    | .error _ => s
  match w with
  | .pid => { s with pid := wrap32 n }
  | .hostPid => { s with hostPid := wrap32 n }
  | .status => { s with rawStatus := wrap32 n }
  | .context => onDevice fun r => { r with usage := { r.usage with context := word } }
  | .module => onDevice fun r => { r with usage := { r.usage with module := word } }
  | .data => onDevice fun r => { r with usage := { r.usage with data := word } }
  | .total => onDevice fun r => { r with usage := { r.usage with total := word } }
  | .monitor => onDevice fun r => { r with monitor := word }
  | .compute => onDevice fun r => { r with compute := word }
  | .decoder => onDevice fun r => { r with decoder := word }
  | .encoder => onDevice fun r => { r with encoder := word }

/-- A word of the header, or of a slot. -/
inductive HeaderWord
  | flag
  | major
  | minor
  | owner
  | deviceNum
  | memoryLimit (dev : Nat)
  | computeLimit (dev : Nat)
  | procNum
  | highWater
  | switch
  | recentKernel
  | priority
  | lastKernel
  | slot (index dev : Nat) (word : SlotWord)
  deriving DecidableEq, Repr

/-- Stores a word in a region. -/
def HeaderWord.store (w : HeaderWord) (n : Int) (r : Region) : Region :=
  let word := UInt64.ofInt n
  match w with
  | .flag => { r with flag := wrap32 n }
  | .major => { r with major := (n % 0x100000000).toNat }
  | .minor => { r with minor := (n % 0x100000000).toNat }
  | .owner => { r with lock := { r.lock with owner := wrap32 n } }
  | .deviceNum => { r with deviceNum := word }
  | .memoryLimit d => { r with memoryLimits := r.memoryLimits.setIfInBounds d word }
  | .computeLimit d => { r with computeLimits := r.computeLimits.setIfInBounds d word }
  | .procNum => { r with procNum := wrap32 n }
  | .highWater => { r with highWater := wrap32 n }
  | .switch => { r with switch := wrap32 n }
  | .recentKernel => { r with recentKernel := wrap32 n }
  | .priority => { r with priority := wrap32 n }
  | .lastKernel => { r with lastKernel := word }
  | .slot i d s => r.modifySlot i (s.store d n)

/-- What a script asks of a member. -/
inductive SeatOp
  | registerSelf
  | register (pid : PidRef)
  | registerRange (first : Pid) (count : Nat)
  | removeSelf
  | clearDead
  | mySlot
  | findPid (pid : PidRef)
  | findHostPid (pid : PidRef)
  | setHostPid (pid : PidRef)
  | setStatus (status : ProcStatus)
  | status
  | allInStatus (status : ProcStatus)
  | resetObserved
  | addUsage (pid : PidRef) (dev : Nat) (bytes : UInt64) (kind : UsageKind)
  | removeUsage (pid : PidRef) (dev : Nat) (bytes : UInt64) (kind : UsageKind)
  | usage (dev : Nat)
  | total (dev : Nat)
  | slotUsage (pid : PidRef) (dev : Nat)
  | monitorUsage (dev : Nat)
  | setMonitor (hostPid : PidRef) (dev : Nat) (bytes : UInt64)
  | setCompute (hostPid : PidRef) (dev : Nat) (share : UInt64)
  | stick (pid : PidRef)
  | header
  | snapshot
  | limits (dev : Nat)
  | lockState
  | lastKernel
  | settings
  | path
  | pid
  | setSwitch (on : Bool)
  | setRecent (value : Int)
  /-- Stores a word; the value may be the identifier of a process. -/
  | poke (word : HeaderWord) (value : PidRef)
  deriving Repr

namespace SeatOp

/-- Shows the slot with an index, if there is one. -/
def showSlot (i? : Option Nat) : SeatM Answer := do
  return .ofOption .slot (i?.bind (← get).region.slot?)

/-- Shows something about the region. -/
def view (f : Region → Answer) : SeatM Answer := do return f (← get).region

/-- Registers processes one after the other. One that gets no slot does not stop the others. -/
def registerAll (m : Member) (pids : List Pid) : SeatM (List (Except RegionError Nat)) :=
  pids.mapM fun pid => (m.register pid).run

/-- The answer about registrations in a row. -/
def rangeAnswer (results : List (Except RegionError Nat)) : Answer :=
  .range results.head? results.getLast? ((results.filterMap (·.toOption)).foldl (· + ·) 0)

/-- Shows both limits of a device. -/
def limitsAnswer (dev : Nat) : SeatM Answer := do
  let show_ (n : UInt64) := Answer.number n.toNat
  return .many [.ofRegion show_ (← (Member.memoryLimit dev).run),
    .ofRegion show_ (← (Member.computeLimit dev).run)]

/-- Carries an operation out as a member; `own` is the process that runs it. -/
def run (own : Pid) (clock : UInt64) (m : Member) (op : SeatOp) : SeatM Answer :=
  let answer {α : Type} (show_ : α → Answer) (op : RegionM α) : SeatM Answer :=
    Answer.ofRegion show_ <$> op.run
  let done {α : Type} (op : SeatM α) : SeatM Answer := (fun _ => Answer.done) <$> op
  let index (n : Nat) : Answer := .number n
  let bytes (n : UInt64) : Answer := .number n.toNat
  match op with
  | .registerSelf => answer index m.registerSelf
  | .register who => answer index (m.register (who.resolve own))
  | .registerRange first count =>
    rangeAnswer <$> registerAll m ((List.range count).map (first + Int.ofNat ·))
  | .removeSelf => .truth <$> m.removeSelf
  | .clearDead => index <$> m.clearDead
  | .mySlot => do showSlot (← m.mySlot?)
  | .findPid who => do showSlot (← m.slotOf? (who.resolve own))
  | .findHostPid who => do showSlot ((← get).region.slotOfHost? (who.resolve own))
  | .setHostPid who => answer (fun _ => .done) (m.setHostPid (who.resolve own))
  | .setStatus s => answer (fun _ => .done) (m.setStatus s)
  | .status => Answer.ofOption .status <$> m.status?
  | .allInStatus s => view fun r => .truth (r.othersIn m.pid s)
  | .resetObserved => done m.resetObserved
  | .addUsage who dev n k => answer (fun _ => .done) (m.addUsage (who.resolve own) dev n k)
  | .removeUsage who dev n k => answer (fun _ => .done) (m.removeUsage (who.resolve own) dev n k)
  | .usage dev => answer .usageSum (Member.usageSum dev)
  | .total dev => answer (fun u => bytes u.bytes) (Member.usageSum dev)
  | .slotUsage who dev => answer (Answer.ofOption .usage) (m.slotUsage (who.resolve own) dev)
  | .monitorUsage dev => answer bytes (m.monitorSum dev)
  | .setMonitor who dev n => answer .truth (m.setMonitor (who.resolve own) dev n)
  | .setCompute who dev n => answer .truth (Member.setCompute (who.resolve own) dev n)
  | .stick who => do
    match ← m.slotOf? (who.resolve own) with
    | some i => done (Seat.modifySlot i (·.stick))
    | none => return .nothing
  | .header => view fun r => .header { region := r, effective := m.switchOn r }
  | .snapshot => view fun r => .snapshot r.snapshot
  | .limits dev => limitsAnswer dev
  | .lockState => view fun r => .ofOption .pid r.lock.holder?
  | .lastKernel => view fun r => .seconds r.lastKernel clock
  | .settings => return .settings m.settings
  | .path => return .text m.settings.path
  | .pid => return .pid m.pid
  | .setSwitch on => done (Seat.modifyRegion ({ · with switch := if on then 1 else 0 }))
  | .setRecent n => done (Seat.modifyRegion ({ · with recentKernel := wrap32 n }))
  | .poke word n => done (Seat.modifyRegion (word.store (n.resolve own)))

end SeatOp

/-- What a script asks of an allocator. -/
inductive AllocatorOp
  | admission (dev : Nat) (size : UInt64)
  | allocate (size : UInt64) (kind : Option UsageKind) (name : Option String)
  | free (pointer : PointerRef)
  | allocateAsync (size : UInt64) (stream : Stream) (name : Option String)
  | freeAsync (pointer : PointerRef) (stream : Stream)
  | registerExternal (pointer : PointerRef) (size : UInt64)
  | memoryType (pointer : PointerRef) (plus : UInt64)
  | tracked
  deriving Repr

namespace AllocatorOp

/-- Carries an operation out; a pointer that it gives out gets its name. -/
def run (m : Member) (op : AllocatorOp) : StateM (Desk Device × Pointers) Answer := fun (desk, ps) =>
  let finish {α : Type} (show_ : α → Answer) (op : AllocM Device α) :=
    let (result, desk) := op.run desk
    (Answer.ofAlloc show_ result, desk, ps)
  let hand (name : Option String) (op : AllocM Device Address) :=
    match op.run desk with
    | (.ok a, desk) => (Answer.pointer a, desk, ps.bind name a)
    | (.error e, desk) => (Answer.allocError e, desk, ps)
  match op with
  | .admission dev size => finish (fun _ => .done) (Allocator.admissible m dev size)
  | .allocate size kind name => hand name (Allocator.allocateAs m size (kind.getD .data))
  | .free p => finish .freed (Allocator.free m (ps.resolve p))
  | .allocateAsync size stream name => hand name (Allocator.allocateAsync m size stream)
  | .freeAsync p stream => finish .freed (Allocator.freeAsync m (ps.resolve p) stream)
  | .registerExternal p size =>
    finish (fun _ => .done) (Allocator.registerExternal m (ps.resolve p) size)
  | .memoryType p plus =>
    (.memoryType (desk.holdings.isDeviceMemory (ps.resolve p + plus)), desk, ps)
  | .tracked => (.number desk.holdings.trackedBytes.toNat, desk, ps)

end AllocatorOp

/-- What a limiter works on. -/
structure LimiterBench where
  /-- The region as its process sees it. -/
  seat : Seat
  /-- The limiter. -/
  limiter : Limiter
  /-- The driver. -/
  driver : Device

/-- What a script asks of a limiter. -/
inductive LimiterOp
  | querySpec
  | setSpec (spec : DeviceSpec)
  | spec
  | limit
  | tokens
  | nextShare (limit user share : Int)
  | change (amount : Int)
  | note
  | launch (grid : UInt64) (relief : Relief)
  deriving Repr

namespace LimiterOp

/-- Shows the bucket of a limiter. -/
def tokensAnswer (m : Member) (r : Region) (l : Limiter) : Answer :=
  .tokens l.tokens.current l.tokens.total l.share (l.throttling m r)

/-- Carries an operation out. -/
def run (m : Member) (clock : UInt64) (op : LimiterOp) : StateM LimiterBench Answer := fun b =>
  let l := b.limiter
  let r := b.seat.region
  match op with
  | .querySpec =>
    let (result, limiter, driver) := Limiter.querySpec (l, b.driver)
    (.ofDriver .spec result, { b with limiter, driver })
  | .setSpec s => (.done, { b with limiter := l.setSpec s })
  | .spec => (.specKnown l.spec l.hasSpec, b)
  | .limit => (.number (Limiter.limit r).toNat, b)
  | .tokens => (tokensAnswer m r l, b)
  | .nextShare bound user share => (.number (l.nextShare bound user share), b)
  | .change n =>
    let limiter := l.credit n
    (.number limiter.tokens.current, { b with limiter })
  | .note =>
    let ((noted, limiter), seat) := (l.noteLaunch m clock).run b.seat
    (.truth noted, { b with limiter, seat })
  | .launch grid relief =>
    let (outcome, limiter, region) := l.launch m r grid relief
    (.launch outcome limiter.tokens.current region.recentKernel,
      { b with limiter, seat := { b.seat with region } })

end LimiterOp

/-- What a script asks of a tenant. -/
inductive TenantOp
  | seat (op : SeatOp)
  | allocator (op : AllocatorOp)
  | memoryInfo (dev : Nat) (physical : MemoryInfo)
  | launch (grid : UInt64) (relief : Relief)
  | setHostPid (pid : PidRef)
  | tokens
  | change (amount : Int)
  | settle
  | stopWatcher
  | shutdown
  /-- Signals all others; handled where the processes are. -/
  | signalAll (status : ProcStatus)
  deriving Repr

/-- What a tenant of a script works on. -/
structure TenantBench where
  /-- The tenant at work. -/
  tenancy : Tenancy Device
  /-- The management interface that its watcher looks at, if there is one. -/
  host : Option HostApi
  /-- The named pointers. -/
  pointers : Pointers

namespace TenantOp

/-- An operation of the tenancy alone. -/
def onTenancy (op : Tenancy.M Device α) : StateM TenantBench α := fun b =>
  let (a, tenancy) := op.run b.tenancy
  (a, { b with tenancy })

/-- Carries an operation of the allocator out. -/
def runAllocator (m : Member) (op : AllocatorOp) : StateM TenantBench Answer := fun b =>
  let t := b.tenancy
  let (answer, desk, pointers) := op.run m
    ({ seat := t.seat, holdings := t.tenant.holdings, driver := t.driver }, b.pointers)
  let tenant := { t.tenant with holdings := desk.holdings }
  (answer, { b with pointers, tenancy := { seat := desk.seat, driver := desk.driver, tenant } })

/-- Carries a launch out. -/
def runLaunch (m : Member) (clock : UInt64) (grid : UInt64) (relief : Relief) :
    StateM TenantBench Answer := do
  let outcome ← onTenancy (Tenancy.launch m grid relief clock)
  let t := (← get).tenancy
  return .launch outcome t.tenant.limiter.tokens.current t.seat.region.recentKernel

/-- Waits for the watcher to settle the limiter. -/
def runSettle (m : Member) : StateM TenantBench Answer := fun b =>
  match b.host with
  | some host =>
    let ((settled, host), tenancy) := (Tenancy.settle m host).run b.tenancy
    (.truth settled, { b with tenancy, host := some host })
  | none => (.truth b.tenancy.tenant.limiter.isSettled, b)

/-- Carries an operation out; `own` is the process that runs it. -/
def run (own : Pid) (clock : UInt64) (m : Member) (op : TenantOp) : StateM TenantBench Answer :=
  match op with
  | .seat op => onTenancy (Tenancy.onSeat (op.run own clock m))
  | .allocator op => runAllocator m op
  | .memoryInfo dev physical => do
    return .ofRegion .memoryInfo
      (← onTenancy (Tenancy.onSeat (Tenancy.memoryInfo dev physical).run))
  | .launch grid relief => runLaunch m clock grid relief
  | .setHostPid pid => do
    return .ofRegion (fun _ => .done) (← onTenancy (Tenancy.setHostPid m (pid.resolve own)))
  | .tokens => do
    let t := (← get).tenancy
    return LimiterOp.tokensAnswer m t.seat.region t.tenant.limiter
  | .change n => do
    onTenancy (Tenancy.modifyTenant fun t => { t with limiter := t.limiter.credit n })
    return .number (← get).tenancy.tenant.limiter.tokens.current
  | .settle => runSettle m
  | .stopWatcher => do return .ofOption .stopped (← onTenancy Tenancy.stopWatcher)
  | .shutdown => do return .truth (← onTenancy (Tenancy.shutdown m))
  | .signalAll _ => return .done

end TenantOp

/-- How raw memory is asked for. -/
inductive RawPath
  | plain
  | large
  | pool
  deriving DecidableEq, Repr

/-- What a script asks of a device. -/
inductive DeviceOp
  | setCurrent (dev : Nat)
  | setSpecAvailable (on : Bool)
  | failNext (error : DriverError)
  | fault (call : DriverCall) (error : DriverError) (times : Nat)
  | state
  | rawAlloc (size : UInt64) (path : RawPath) (name : Option String)
  | rawFree (pointer : PointerRef) (pool : Bool)
  deriving Repr

namespace DeviceOp

/-- Takes memory past the failures in front of the device. -/
def rawAllocCall (size : UInt64) : RawPath → Call SimulatedDevice (Address × Option UInt64)
  | .plain => fun d =>
    let (result, d) := SimulatedDevice.carve size d
    (result.map (·, none), d)
  | .large => fun d =>
    let (result, d) := SimulatedDevice.allocLarge size d
    (result.map fun (a, handle) => (a, some handle), d)
  | .pool => fun d =>
    let (result, d) := SimulatedDevice.allocAsync size d
    (result.map (·, none), d)

/-- Carries an operation out. -/
def run (op : DeviceOp) : StateM (Device × Pointers) Answer := fun (dev, ps) =>
  let d := dev.inner
  match op with
  | .setCurrent n => (.done, { dev with inner := { d with current := n } }, ps)
  | .setSpecAvailable on => (.done, { dev with inner := { d with specAvailable := on } }, ps)
  | .failNext e => (.done, { dev with inner := { d with failNext := some e } }, ps)
  | .fault call e times => (.done, dev.setFault call e times, ps)
  | .state => (.deviceState d.live.length d.used d.poolReserved, dev, ps)
  | .rawAlloc size path name =>
    match rawAllocCall size path d with
    | (.ok (a, handle), d) => (.rawPointer a handle, { dev with inner := d }, ps.bind name a)
    | (.error e, d) => (.driverError e, { dev with inner := d }, ps)
  | .rawFree p pool =>
    let call := if pool then SimulatedDevice.freeAsync else SimulatedDevice.free
    let (result, d) := call (ps.resolve p) d
    (.ofDriver (fun _ => .done) result, { dev with inner := d }, ps)

end DeviceOp

/-- What a script asks of a file. -/
inductive FileOp
  | write (bytes : ByteArray)
  | resize (length : Nat)
  | remove
  | makeDirectories
  | length
  | peek (offset count : Nat)

namespace FileOp

/-- Carries an operation on the file at a path out. -/
def run (path : String) (op : FileOp) : StateM Files Answer := fun fs =>
  let change (result : Except FileError Files) : Answer × Files :=
    match result with
    | .ok fs => (.done, fs)
    | .error e => (.fileError e, fs)
  let made (result : Except FileError Unit × Files) : Answer × Files :=
    (.ofFile (fun _ => .done) result.1, result.2)
  let look (f : FileNode → Answer) : Answer × Files :=
    (.ofFile (fun id => f (fs.node id)) (fs.file? path), fs)
  match op with
  | .write bytes => change (fs.write path bytes)
  | .resize n => change (fs.resize path n)
  | .remove => change (fs.remove path)
  | .makeDirectories => made ((Files.makeDirectories path).run fs)
  | .length => look fun n => .number n.length
  | .peek offset count => look fun n => .bytes (n.slice offset count)

end FileOp

end GpuQuota.Scenario
