import GpuQuota.Diagnostics
import GpuQuota.Host.Machine
import GpuQuota.Tenant

/-!
# The context of a process

A process becomes a tenant on first use, under settings from its environment, and stays the same
tenant until it ends. A forked child inherits the context of its parent, but becomes a tenant of its
own on first use. A process that leaves in good order gives its slot back.

The module introduces:

* `Context`, `Workload` — a process and the tenant it acts as.
* `Workload.ensure` — the context of the process, made if needed.
* `Workload.fork` — a child.
* `Workload.leave` — the end of a process, with its `Ending`.
-/

namespace GpuQuota

/-- A tenant on its region. -/
structure Context where
  /-- The region as the tenant has it mapped. -/
  attachment : Attachment
  /-- The tenant. -/
  tenant : Tenant

/-- How a process ended. -/
inductive Ending
  /-- With an exit code. -/
  | exited (code : Nat)
  /-- By a signal. -/
  | signalled (number : Nat)
  deriving DecidableEq, Repr

/-- The signal of a process that gives up. -/
def Ending.aborted : Ending := .signalled 6

/-- How a process is to end. -/
inductive Leaving
  /-- In good order. -/
  | exit
  /-- At once, as in a crash. -/
  | drop
  /-- By giving up. -/
  | abort
  deriving DecidableEq, Repr

/-- A process on a host. -/
structure Workload (σ μ : Type) where
  /-- Its identifier. -/
  pid : Pid
  /-- Its environment. -/
  env : Environment
  /-- Its driver. -/
  driver : σ
  /-- Its management interface, if it has one. -/
  host : Option μ := none
  /-- The host identity that is found for it, if any. -/
  hostPid : Option Pid := none
  /-- The tenant it acts as. -/
  context : Option Context := none
  /-- What it logs, from first use on. -/
  log : Option LogFilter := none
  /-- It gives its slot back when it leaves in good order. -/
  releasesAtExit : Bool := false

/-- What asking for the context came to. -/
inductive Readiness
  /-- There is a context; it may be the one there was before. -/
  | ready (same : Bool)
  /-- There is none, but the process can go on. -/
  | refused (cause : RegionError)
  /-- The deployment is at fault; the process gives up. -/
  | gaveUp (cause : RegionError)
  deriving Repr

namespace Workload

variable {σ μ : Type}

/-- The job file of an environment, unless it is missing or no text. -/
def jobFile? (files : Files) (env : Environment) : Option JobFile := do
  let path ← JobFile.path? env
  let text ← (files.readText? path).toOption
  return JobFile.ofText path text

/-- The settings of an environment on a host. -/
def settings (files : Files) (env : Environment) : Except ConfigError Settings :=
  Settings.ofEnvironment env (jobFile? files env)

/-- The devices that an environment makes visible. -/
def visibleDevices (env : Environment) (r : Region) : DeviceMap :=
  ((env.text? "CUDA_VISIBLE_DEVICES").bind DeviceMap.ofVisible?).getD
    (.identity r.deviceCount)

/-- Attaches as the process itself and becomes a tenant. -/
def enter [DeviceDriver σ] (p : Workload σ μ) (host : Machine) :
    Except RegionError Context × Workload σ μ × Machine :=
  match settings host.files p.env with
  | .error e => (.error (.config e), p, host)
  | .ok s =>
    match (Machine.attach s p.pid .actual).run host with
    | (.error e, host) => (.error e, p, host)
    | (.ok a, host) =>
      let (outcome, seat, driver) := Tenant.admit (host.member a) (.ofEnvironment p.env) host.clock
        (host.seat a) p.driver
      let p := { p with driver }
      -- The region keeps what an admission did to it, even one that was refused.
      let (a, host) := host.putSeat a seat
      match outcome with
      | .error e => (.error e, p, host)
      | .ok (slot, tenant) =>
        let host := host.install p.pid a slot
        -- Only a process with a management interface is watched.
        let tenancy : Tenancy σ := { seat := host.seat a, driver := p.driver, tenant }
        let start : Tenancy.M σ Bool := match p.host with
          | some _ => Tenancy.startWatcher (visibleDevices p.env (host.region a.node)) p.hostPid
          | none => pure false
        let (_, tenancy) := start.run tenancy
        (.ok { attachment := a, tenant := tenancy.tenant }, p, host)

/-- The context belongs to the process itself, not to one that it was forked from. -/
def owns (p : Workload σ μ) (c : Context) : Bool := c.attachment.pid == p.pid

/-- The context of the process. It is made on first use; a failure that no process may go on after
makes it give up. -/
def ensure [DeviceDriver σ] (p : Workload σ μ) (host : Machine) :
    Readiness × Workload σ μ × Machine :=
  if p.context.any p.owns then (.ready true, p, host)
  else
    -- The log is set up once and outlives a failure.
    let p := { p with log := some (p.log.getD (.ofEnvironment p.env)) }
    match p.enter host with
    | (.error e, p, host) => (if e.isFatal then .gaveUp e else .refused e, p, host)
    | (.ok c, p, host) =>
      (.ready false, { p with context := some c, releasesAtExit := true }, host)

/-- Works as the tenant of the process, if there is a context. -/
def act (p : Workload σ μ) (host : Machine) (op : Member → Tenancy.M σ α) :
    Option (α × Workload σ μ × Machine) :=
  p.context.map fun c =>
    let (result, t) := (op (host.member c.attachment)).run
      { seat := host.seat c.attachment, driver := p.driver, tenant := c.tenant }
    let (attachment, host) := host.putSeat c.attachment t.seat
    (result, { p with driver := t.driver, context := some { attachment, tenant := t.tenant } }, host)

/-- A forked child: the same process under another identifier, with the handlers of its parent but
without its watcher. -/
def fork (p : Workload σ μ) (host : Machine) : Workload σ μ × Machine :=
  let target := (host.running.find? (·.pid == p.pid)).bind (·.target)
  let (pid, host) := host.start target
  let quiet (c : Context) : Context :=
    { c with tenant :=
        { c.tenant with watcher := c.tenant.watcher.map ({ · with stopping := true }) } }
  ({ p with pid, context := p.context.map quiet }, host)

/-- The name under which registry events are logged. -/
def registryTarget : String := "softmig_runtime::registry"

/-- The event that a process reports when it tries to give its slot back, if any. -/
def releaseEvent? (busy removed : Bool) : Option LogEvent :=
  if busy then some { target := registryTarget, level := .warn, fields := ["message", "pid", "wait"] }
  else if removed then
    some { target := registryTarget, level := .debug, fields := ["message", "pid"] }
  else none

/-- Events that every process reports when it becomes a tenant. -/
def entryEvents : List LogEvent :=
  [{ target := "softmig_runtime::config", level := .debug
     fields := ["message", "path", "device_count", "memory_limits", "sm_limits", "priority",
       "utilization_policy", "kernel_record_interval", "init_wait", "lock_wait", "lock_retries",
       "exit_wait", "postinit_wait", "postinit_retries"] },
    { target := "softmig_runtime::region", level := .debug, fields := ["message", "pid", "path"] },
    { target := registryTarget, level := .debug
      fields := ["message", "pid", "idx", "reaped", "procs"] },
    { target := "softmig_runtime::signal::unix", level := .debug, fields := ["message", "pid"] },
    { target := "softmig_runtime::limiter", level := .info
      fields := ["message", "sm_count", "max_threads_per_sm", "total"] }]

/-- The log is closed before the slot is given back. A log that was never consulted is not open
either, and is opened then; one that was in use makes the process give up on the next event for
which it is consulted. -/
def failsOn (f : LogFilter) (e : LogEvent) : Bool := f.examines e && entryEvents.any f.examines

/-- Gives the slot back on the way out, unless the context is inherited. The process may give up
on the event that it reports. -/
def release (p : Workload σ μ) (host : Machine) : Ending × Machine :=
  match p.context with
  | none => (.exited 0, host)
  | some c =>
    if p.releasesAtExit && p.owns c then
      let busy := (host.region c.attachment.node).lock.count == 0
      match p.act host fun m => Tenancy.shutdown m with
      | none => (.exited 0, host)
      | some (removed, _, host) =>
        let fails := (releaseEvent? busy removed).any fun e => p.log.any (failsOn · e)
        (if fails then .aborted else .exited 0, host)
    else (.exited 0, host)

/-- The end of a process. -/
def leave (p : Workload σ μ) (host : Machine) (how : Leaving) : Ending × Machine :=
  let (ending, host) := match how with
    | .exit => p.release host
    | .drop => (.exited 0, host)
    | .abort => (.aborted, host)
  (ending, host.stop p.pid)

end Workload

end GpuQuota
