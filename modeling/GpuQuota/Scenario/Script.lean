import GpuQuota.Scenario.Rig

/-!
# Scripted runs

A script is a list of steps. Each works on named objects of a rig and gives one answer.

The module introduces:

* `Step` — a step of a script.
* `Rig.run`, `Rig.runAll` — one step, and a whole script.
-/

namespace GpuQuota.Scenario

/-- A step of a script. -/
inductive Step
  | attach (handle : String) (pid : PidRef) (settings : Settings) (liveness : Liveness)
  | inspect (handle path : String)
  | crash (handle : String)
  | markDead (pid : PidRef)
  | revive (pid : PidRef)
  | seat (handle : String) (op : SeatOp)
  | lock (handle guard : String)
  | tryLock (handle guard : String)
  | lockPostinit (handle guard : String)
  | unlock (guard : String)
  | unlockPostinit (guard : String)
  | leak (guard : String)
  | installHandlers (handle : String)
  | signalSelf (status : ProcStatus)
  | signalAll (handle : String) (status : ProcStatus)
  | file (path : String) (op : FileOp)
  | device (name : String) (spec : DeviceSpec) (capacity : UInt64)
  | onDevice (name : String) (op : DeviceOp)
  | host (name : String) (view : View)
  | hostFault (name : String) (call : DriverCall) (error : DriverError) (times : Nat)
  | allocator (name handle device : String)
  | onAllocator (name : String) (op : AllocatorOp)
  | limiter (name handle device : String)
  | onLimiter (name : String) (op : LimiterOp)
  | watcher (name handle limiter host : String) (hostPid : Option PidRef) (map : Option String)
      (attempts : Nat)
  | look (name : String) (times : Nat)
  | utilization (name : String)
  | spawn (name : String)
  | tenant (name handle device : String) (settings : WatcherSettings)
  | onTenant (name : String) (op : TenantOp)
  | startWatcher (name host : String) (hostPid : Option PidRef) (map : Option String)
  | tool (words : List String)
  | process (program : Program)

namespace Rig

/-- One step; a missing object ends it early. -/
def step : Step → StepM Answer
  | .attach name pid settings liveness => do
    adopt name (Machine.attach settings (pid.resolve (← get).own) liveness)
  | .inspect name path => do adopt name (Machine.inspect path (← get).own)
  | .crash name => do
    crash name (← handle name)
    return .done
  | .markDead pid => do
    modify fun rig => { rig with machine := rig.machine.markDead (pid.resolve rig.own) }
    return .done
  | .revive pid => do
    modify fun rig => { rig with machine := rig.machine.revive (pid.resolve rig.own) }
    return .done
  | .seat name op => do
    let rig ← get
    onSeat name (op.run rig.own rig.machine.clock)
  | .lock name guard => lock name guard
  | .tryLock name guard => tryLock name guard
  | .lockPostinit name guard => lockPostinit name guard
  | .unlock guard => unlock guard
  | .unlockPostinit guard => unlockPostinit guard
  | .leak guard => leak guard
  | .installHandlers name => installHandlers name
  | .signalSelf status => do
    let rig ← get
    let (found, machine) := rig.machine.deliver rig.own status
    set { rig with machine }
    return .truth found
  | .signalAll name status => signalAll name status
  | .file path op => do
    let rig ← get
    let (answer, files) := (op.run path).run rig.machine.files
    set { rig with machine := { rig.machine with files } }
    return answer
  | .device name spec capacity => do
    modify fun rig =>
      { rig with devices := rig.devices.insert name { inner := { spec, capacity } } }
    return .done
  | .onDevice name op => onDevice name op
  | .host name view => setHost name view
  | .hostFault name call error times => do
    let h ← need ((← get).hosts.find? name)
    modify fun rig => { rig with hosts := rig.hosts.insert name (h.setFault call error times) }
    return .done
  | .allocator name handleName deviceName => makeAllocator name handleName deviceName
  | .onAllocator name op => onAllocator name op
  | .limiter name handleName deviceName => makeLimiter name handleName deviceName
  | .onLimiter name op => onLimiter name op
  | .watcher name handleName limiterName hostName hostPid map attempts =>
    makeWatcher name handleName limiterName hostName hostPid map attempts
  | .look name times => look name times
  | .utilization name => utilization name
  | .spawn name => spawn name
  | .tenant name handleName deviceName settings => admitTenant name handleName deviceName settings
  | .onTenant name op => runTenant name op
  | .startWatcher name host hostPid map => startWatcher name host hostPid map
  | .tool words => do
    let rig ← get
    let (run, machine) := Inspect.run words none rig.machine
    set { rig with machine }
    return .tool run machine.clock
  | .process p => do
    let rig ← get
    let (answer, machine) := p.run rig.machine
    set { rig with machine }
    return answer

/-- The answer to one step. -/
def run (s : Step) : RigM Answer := do return (← (step s).run).getD .noSuchObject

/-- The answers to all steps of a script. -/
def runAll (rig : Rig) (steps : List Step) : List Answer := ((steps.mapM run).run rig).1

end Rig

end GpuQuota.Scenario
