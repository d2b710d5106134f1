import GpuQuota.Scenario.Operation

/-!
# Processes that a script starts

A process with an environment, a device and perhaps a management interface asks for its context,
works as its tenant, forks, and ends.

The module introduces:

* `View`, `Observed` — what a management interface observes.
* `ProcessStep`, `Program` — a process and its steps.
* `Running` — a process at work, with `Running.step` and `Running.steps`.
* `Program.run` — a process from its start to its end.
-/

namespace GpuQuota.Scenario

/-- What is observed of devices: for each one its number and the samples. -/
abbrev Observed (α : Type) := List (Nat × List (PidRef × α))

/-- What a management interface is to observe. -/
structure View where
  /-- The number of devices, where the interface is new. -/
  deviceCount : Nat := 1
  /-- The processes that hold memory, with the bytes. -/
  memory : Observed UInt64 := []
  /-- Samples of compute time in percent. -/
  compute : Observed Nat := []
  deriving Repr

/-- The samples with identifiers as the host knows them; `own` is the process that runs the step. -/
def resolveSamples (own : Pid) (samples : List (PidRef × α)) : List (Nat × α) :=
  samples.map fun (who, a) => ((who.resolve own).toNat, a)

/-- Stores what is observed on the devices that are named. -/
def View.apply (v : View) (own : Pid) (h : SimulatedHost) : SimulatedHost :=
  let h := v.memory.foldl
    (fun h (d, samples) => h.modifyDevice d ({ · with processes := resolveSamples own samples })) h
  v.compute.foldl
    (fun h (d, samples) => h.modifyDevice d ({ · with utilization := resolveSamples own samples })) h

/-- A new management interface with a view. -/
def View.host (v : View) (own : Pid) : HostApi :=
  { inner := v.apply own { deviceCount := v.deviceCount } }

/-- A step of a process that a script starts. -/
inductive ProcessStep
  /-- Asks for the context. -/
  | ready
  /-- Works as the tenant of the process. -/
  | act (op : TenantOp)
  /-- Runs a forked child to its end. -/
  | fork (steps : List ProcessStep) (leaving : Leaving)
  deriving Inhabited

/-- A process that a script starts. -/
structure Program where
  /-- Its environment. -/
  env : Environment
  /-- Its device. -/
  device : SimulatedDevice
  /-- What its management interface observes, if it has one. -/
  view : Option View
  /-- The host identity that is found for it, if any. -/
  hostPid : Option PidRef
  /-- Its steps. -/
  steps : List ProcessStep
  /-- How it ends. -/
  leaving : Leaving

/-- A process of a script at work. -/
structure Running where
  /-- The process. -/
  process : Workload Device HostApi
  /-- Its named pointers. -/
  pointers : Pointers
  /-- The host. -/
  machine : Machine

/-- An operation of the tenant of a process. -/
def Running.act (s : Running) (op : TenantOp) : Answer × Running :=
  match s.process.context with
  | none => (.noSuchObject, s)
  | some c =>
    match op with
    | .signalAll status =>
      let (sent, machine) := s.machine.signalAll c.attachment status
      (.number sent, { s with machine })
    | op =>
      let host := s.machine
      let (answer, b) := (op.run s.process.pid host.clock (host.member c.attachment)).run
        { tenancy := { seat := host.seat c.attachment, driver := s.process.driver, tenant := c.tenant }
          host := s.process.host
          pointers := s.pointers }
      let (attachment, machine) := host.putSeat c.attachment b.tenancy.seat
      (answer,
        { process :=
            { s.process with
              driver := b.tenancy.driver
              host := b.host
              context := some { attachment, tenant := b.tenancy.tenant } }
          pointers := b.pointers
          machine })

/-- Asks for the context of a process. Without an answer the process gives up. -/
def Running.ready (s : Running) : Option Answer × Running :=
  let (readiness, process, machine) := s.process.ensure s.machine
  let answer := match readiness with
    | .ready same => some (.readiness same (process.context.any process.owns))
    | .refused e => some (.regionError e)
    | .gaveUp _ => none
  (answer, { s with process, machine })

mutual

/-- One step of a process. Without an answer the process gives up. -/
def Running.step (s : Running) : ProcessStep → Option Answer × Running
  | .ready => s.ready
  | .act op =>
    let (answer, s) := s.act op
    (some answer, s)
  | .fork steps leaving =>
    let (child, machine) := s.process.fork s.machine
    let (answers, ending, machine) := Running.steps { s with process := child, machine } leaving steps
    (some (.process child.pid answers ending), { s with machine })

/-- The steps of a process up to its end: its answers and how it ended. -/
def Running.steps (s : Running) (leaving : Leaving) :
    List ProcessStep → List Answer × Ending × Machine
  | [] =>
    let (ending, machine) := s.process.leave s.machine leaving
    ([], ending, machine)
  | p :: ps =>
    match Running.step s p with
    | (none, s) =>
      let (ending, machine) := s.process.leave s.machine .abort
      ([], ending, machine)
    | (some answer, s) =>
      let (answers, ending, machine) := Running.steps s leaving ps
      (answer :: answers, ending, machine)

end

/-- Runs a process from its start to its end. -/
def Program.run (p : Program) (host : Machine) : Answer × Machine :=
  let (pid, machine) := host.start none
  let process : Workload Device HostApi :=
    { pid
      env := p.env
      driver := { inner := p.device }
      host := p.view.map (·.host pid)
      hostPid := p.hostPid.map (·.resolve pid) }
  let (answers, ending, machine) :=
    Running.steps { process, pointers := [], machine } p.leaving p.steps
  (.process pid answers ending, machine)

end GpuQuota.Scenario
