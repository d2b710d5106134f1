import GpuQuota.Tool.Inspect
import GpuQuota.Tool.Stress.Arguments

/-!
# The stress test

Several worker processes allocate and free against one memory limit on simulated devices, then all
pause with what they hold; the sum must be within the limit. The workers run one after the other
here up to the pause.

The module introduces:

* `Stress.Worker`, `Stress.churn` — a worker and its rounds.
* `Stress.run` — one run of the test.
-/

namespace GpuQuota.Stress

/-- A worker that pauses. -/
structure Worker where
  /-- The region as the worker has it mapped. -/
  attachment : Attachment
  /-- What its allocator tracks. -/
  holdings : Holdings := {}
  /-- Its device. -/
  driver : SimulatedDevice := { spec := ⟨80, 2048⟩ }
  /-- The memory it holds, the oldest first. -/
  held : List Address := []

/-- The rounds of a worker. A refusal for the quota makes it give the older half back; any other
failure ends it. -/
def churn (m : Member) (chunk : UInt64) :
    (rounds : Nat) → List Address → AllocM SimulatedDevice (List Address)
  | 0, held => return held
  | rounds + 1, held => do
    let outcome ← tryCatch (some <$> Allocator.allocate m chunk) fun e =>
      if e.isOutOfMemory then return none else throw e
    match outcome with
    | some address => churn m chunk rounds (held ++ [address])
    | none =>
      let half := held.length / 2
      (held.take half).forM fun address => discard (Allocator.free m address)
      churn m chunk rounds (held.drop half)

/-- Runs an operation of a worker's allocator. -/
def Worker.run (w : Worker) (host : Machine) (op : Member → AllocM SimulatedDevice α) :
    Except AllocError α × Worker × Machine :=
  let (result, desk) := (op (host.member w.attachment)).run
    { seat := host.seat w.attachment, holdings := w.holdings, driver := w.driver }
  let (attachment, host) := host.putSeat w.attachment desk.seat
  (result, { w with attachment, holdings := desk.holdings, driver := desk.driver }, host)

/-- Starts a worker and lets it run up to its pause, unless it fails before. -/
def startWorker (settings : Settings) (chunk : UInt64) (rounds : Nat) (host : Machine) :
    Option Worker × Machine :=
  let (pid, host) := host.start none
  match (Machine.attach settings pid .actual).run host with
  | (.error _, host) => (none, host.stop pid)
  | (.ok a, host) =>
    let (slot, a, host) := host.onSeat a (·.registerSelf.run)
    match slot with
    | .error _ => (none, host.stop pid)
    | .ok _ =>
      let w : Worker := { attachment := a }
      match w.run host (churn · chunk rounds []) with
      | (.error _, _, host) => (none, host.stop pid)
      | (.ok held, w, host) => (some { w with held }, host)

/-- Lets a worker free what it holds and leave. -/
def finishWorker (host : Machine) (w : Worker) : Machine :=
  let (_, w, host) := w.run host fun m =>
    w.held.forM fun address =>
      tryCatch (discard (Allocator.free m address)) fun _ => pure ()
  let (_, a, host) := host.onSeat w.attachment (·.removeSelf)
  host.stop a.pid

/-! ## The measurement -/

/-- What the test measures. -/
structure Result where
  /-- The workers that reached the pause. -/
  paused : Nat
  /-- The processes registered then. -/
  registered : Int
  /-- The usage then. -/
  usage : UsageSum
  /-- The usage after all workers have left. -/
  after : UInt64
  deriving DecidableEq, Repr

/-- Runs the workers of the test. -/
def measure (settings : Settings) (chunk : UInt64) (o : Options) (pid : Pid) :
    Machine.Op Result := do
  let a ← Machine.attach settings pid .actual
  let started ← (List.range o.children).mapM fun _ => do
    let (w, host) := startWorker settings chunk o.rounds (← get)
    set host
    return w
  let workers := started.filterMap id
  let region := (← get).region a.node
  modify fun host => workers.foldl finishWorker host
  return {
    paused := workers.length
    registered := region.procNum
    usage := region.usageSum governedDevice
    after := (((← get).region a.node).usageSum governedDevice).bytes }

/-- The usage is within the limit. -/
def Result.within (r : Result) (limit : UInt64) : Bool := limit == 0 || r.usage.bytes ≤ limit

/-- The test is passed. -/
def Result.passed (r : Result) (o : Options) (limit : UInt64) : Bool :=
  r.within limit && r.paused == o.children

/-- What the test prints about its workers. -/
def Result.lines (r : Result) (o : Options) (limit : UInt64) : List String :=
  let bytes := r.usage.bytes.toNat
  let mark := if r.usage.isExact then "" else " (approximate)"
  ["",
    "=== Results ===",
    s!"Workers paused: {r.paused}/{o.children}",
    s!"Registered:     {r.registered}",
    s!"Usage at pause: {bytes} bytes" ++ mark,
    s!"After exit:     {r.after.toNat} bytes",
    s!"Failed workers: {o.children - r.paused}"] ++
  if r.within limit then [] else [s!"usage {bytes} exceeds limit {limit.toNat}"]

/-- What the test prints before it runs. -/
def headLines (o : Options) (limit chunk : UInt64) : List String :=
  ["=== softmig stress ===",
    "",
    s!"Workers: {o.children}",
    s!"Limit:   {limit.toNat} bytes",
    s!"Chunk:   {chunk.toNat} bytes",
    s!"Rounds:  {o.rounds}"]

/-- Runs the test with its options as a process. -/
def runWith (o : Options) (limit chunk : UInt64) (host : Machine) : ToolRun × Machine :=
  let (pid, host) := host.start none
  let path := o.path.getD s!"/tmp/softmig-stress-{pid}.cache"
  let settings := ({ path } : Settings).withMemoryLimit governedDevice limit
  let (outcome, host) := (measure settings chunk o pid).run host
  let host := match o.path with
    | some _ => host
    | none => { host with files := (host.files.remove path).toOption.getD host.files }
  let verdict (ok : Bool) := ["", if ok then "✓ PASSED" else "✗ FAILED"]
  let ending (ok : Bool) : Ending := .exited (if ok then 0 else 1)
  let run : ToolRun := match outcome with
    | .error e =>
      { out := headLines o limit chunk ++ verdict false
        err := ["softmig-stress: " ++ e.message]
        ending := ending false }
    | .ok r =>
      let ok := r.passed o limit
      { out := headLines o limit chunk ++ r.lines o limit ++ verdict ok, ending := ending ok }
  (run, host.stop pid)

/-- One run of the test from its command line. -/
def run (words : List String) (host : Machine) : ToolRun × Machine :=
  match Arguments.read words with
  | .help => ({ out := helpLines }, host)
  | .refused => ({ ending := .exited 2 }, host)
  | .options o =>
    match Limit.parse o.limit, Limit.parse o.chunk with
    | .ok limit, .ok chunk =>
      if chunk = 0 then invalid host else runWith o limit chunk host
    | _, _ => invalid host
where
  /-- The test complains about its sizes. -/
  invalid (host : Machine) : ToolRun × Machine :=
    ({ err := ["softmig-stress: invalid --limit or --chunk"], ending := .exited 1 }, host)

end GpuQuota.Stress
