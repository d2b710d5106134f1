import GpuQuota.ProcessRecord
import GpuQuota.Tool.Stress

/-!
# The command line

Two tools under one name: `smi` inspects a region file, `stress` runs the stress test on a simulated
host. The first works on the file alone: where it is to signal a process, it stores the status that
the handlers of the process would store.

The module introduces `CommandLine.inspect`, `CommandLine.stress` and `main`.
-/

namespace GpuQuota.CommandLine

/-- Prints what a tool prints; its exit code. -/
def report (run : ToolRun) : IO UInt32 := do
  run.out.forM fun line => IO.println line
  run.err.forM fun line => IO.eprintln line
  return match run.ending with
    | .exited code => UInt32.ofNat code
    | .signalled number => UInt32.ofNat (128 + number)

/-- Whether a process runs: the kernel has a record of it, which is not all that is left. -/
def isRunning (pid : Pid) : IO Bool := do
  if pid ≤ 0 then return false
  match ← (IO.FS.readFile s!"/proc/{pid}/stat").toBaseIO with
  | .ok stat => return !ProcessRecord.isDefunct stat
  | .error _ => return false

/-- The identifier of the tool itself, above those that a kernel gives out. -/
def toolPid : Pid := 0x400001

/-- The registered processes that run, with handlers that point at their slots. -/
def runningMembers (node : NodeId) (r : Region) : IO (List RunningProcess) := do
  let views ← r.snapshot.filterM fun view => isRunning view.pid
  return views.map fun view =>
    { pid := view.pid, target := some { mapping := 0, node, slot := view.index } }

/-- A host with the file of a region, as far as it can be read. -/
def hostOf (path : String) (bytes : ByteArray) : IO Machine := do
  let files := ((Files.towards path).write path bytes).toOption.getD {}
  let node := (files.file? path).toOption.getD 0
  return {
    files
    running := ← runningMembers node (Region.ofBytes bytes)
    nextPid := toolPid
    clock := 0 }

/-- Runs the inspection tool on a file, and writes back what has changed. -/
def inspectFile (words : List String) (environmentPath : Option String) (path : String) :
    IO UInt32 := do
  match ← (IO.FS.readBinFile path).toBaseIO with
  | .error _ => report (Inspect.run words environmentPath { clock := 0 }).1
  | .ok bytes =>
    let (run, host) := Inspect.run words environmentPath (← hostOf path bytes)
    match host.files.read? path with
    | .ok after => if after != bytes then IO.FS.writeBinFile path after
    | .error _ => pure ()
    report run

/-- Runs the inspection tool. -/
def inspect (words : List String) : IO UInt32 := do
  let environmentPath ← IO.getEnv "CUDA_DEVICE_MEMORY_SHARED_CACHE"
  match Inspect.Arguments.read words with
  | .perform _ named =>
    inspectFile words environmentPath ((Inspect.target? named environmentPath).getD "")
  | _ => report (Inspect.run words environmentPath { clock := 0 }).1

/-- Where the stress test keeps its region. -/
def stressPath (words : List String) : String :=
  match Stress.Arguments.read words with
  | .options { path := some path, .. } => path
  | _ => "/tmp/region"

/-- Runs the stress test on a simulated host that has the directories it needs. -/
def stress (words : List String) : IO UInt32 :=
  report (Stress.run words
    { files := .towards (stressPath words), nextPid := toolPid, clock := 0 }).1

/-- How the command line is used. -/
def usageLine : String := "usage: (smi | stress) OPTION..."

end GpuQuota.CommandLine

open GpuQuota in
/-- The command line; the first word names the tool. -/
def main (words : List String) : IO UInt32 :=
  match words with
  | "smi" :: words => CommandLine.inspect words
  | "stress" :: words => CommandLine.stress words
  | _ => CommandLine.report { err := [CommandLine.usageLine], ending := .exited 2 }
