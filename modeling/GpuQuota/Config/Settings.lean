import GpuQuota.Config.JobFile

/-!
# Settings

The settings of a process: where its region lies, the limits it expects there, and the times and
budgets of its waits. They come from defaults, from the environment, and for the limits first of
all from the job file.

The module introduces:

* `LockSettings`, `Settings`, `WatcherSettings` — the settings with their defaults.
* `Settings.validate`, `WatcherSettings.validate` — the ranges they must keep.
* `Settings.ofEnvironment` — the settings that an environment and a job file make.
-/

namespace GpuQuota

/-- Times, in milliseconds, and budgets of waits for the locks of a region. -/
structure LockSettings where
  /-- One timed wait for the region lock. -/
  wait : Nat := 10000
  /-- Expired waits before recovery from a living holder. -/
  retries : Nat := 30
  /-- The wait for the region lock when a process leaves. -/
  exitWait : Nat := 3000
  /-- One timed wait for the lock of host identities. -/
  postinitWait : Nat := 30000
  /-- Further waits for the lock of host identities. -/
  postinitRetries : Nat := 10
  deriving DecidableEq, Repr, Inhabited

namespace LockSettings

/-- Waits must take time. -/
def validate (s : LockSettings) : Except ConfigError Unit :=
  if s.wait = 0 then .error (.badSetting .lockWait)
  else if s.postinitWait = 0 then .error (.badSetting .postinitWait)
  else .ok ()

/-- The settings that an environment makes. -/
def ofEnvironment (env : Environment) : LockSettings :=
  let d : LockSettings := {}
  { wait := (env.natural? wordMax "SOFTMIG_LOCK_TIMEOUT_MS").getD d.wait
    retries := (env.natural? 0xFFFFFFFF "SOFTMIG_LOCK_RETRIES").getD d.retries
    exitWait := (env.natural? wordMax "SOFTMIG_EXIT_LOCK_TIMEOUT_MS").getD d.exitWait
    postinitWait := (env.natural? wordMax "SOFTMIG_POSTINIT_TIMEOUT_MS").getD d.postinitWait
    postinitRetries :=
      (env.natural? 0xFFFFFFFF "SOFTMIG_POSTINIT_RETRIES").getD d.postinitRetries }

end LockSettings

/-- The region file unless the environment names another. -/
def defaultRegionPath : String := "/tmp/cudevshr.cache"

/-- The compute limit that limits nothing, in percent. -/
def unlimitedCompute : UInt64 := 100

/-- The settings of a process for its region. -/
structure Settings where
  /-- The region file. -/
  path : String := defaultRegionPath
  /-- The number of devices. -/
  deviceCount : Nat := maxDevices
  /-- Memory limit of each device in bytes; zero is no limit. -/
  memoryLimits : Vector UInt64 maxDevices := .replicate _ 0
  /-- Compute limit of each device in percent. -/
  computeLimits : Vector UInt64 maxDevices := .replicate _ unlimitedCompute
  /-- The priority of the job. -/
  priority : Int := 1
  /-- Whether the switch of the region decides about throttling. -/
  policy : UtilizationPolicy := .default
  /-- Seconds between recorded kernel launches. -/
  recordInterval : Nat := 1
  /-- How long another process may take to set up the region, in milliseconds. -/
  setupWait : Nat := 10000
  /-- How often the setup is looked at, in milliseconds. -/
  setupPoll : Nat := 1
  /-- Waits for the locks. -/
  lock : LockSettings := {}
  deriving DecidableEq, Repr, Inhabited

namespace Settings

/-- The default settings. -/
def standard : Settings := {}

/-- Sets the memory limit of a device; other indices are ignored. -/
def withMemoryLimit (s : Settings) (dev : Nat) (bytes : UInt64) : Settings :=
  { s with memoryLimits := s.memoryLimits.setIfInBounds dev bytes }

/-- Sets the compute limit of a device; other indices are ignored. -/
def withComputeLimit (s : Settings) (dev : Nat) (percent : UInt64) : Settings :=
  { s with computeLimits := s.computeLimits.setIfInBounds dev percent }

/-- The first fault of the settings. -/
def validate (s : Settings) : Except ConfigError Unit :=
  if s.deviceCount = 0 ∨ s.deviceCount > maxDevices then .error (.badSetting .deviceCount)
  else if s.computeLimits.any (· > unlimitedCompute) then .error (.badSetting .computeLimit)
  else if s.path = "" then .error (.badSetting .regionPath)
  else s.lock.validate

/-- The text of a limit variable: what the job file says, even if that is blank, and else what the
environment says. -/
def limitText? (env : Environment) (job : Option JobFile) (key : String) : Option String :=
  (job.bind (·.get? key)).or (env.text? key)

/-- The value of a limit variable; a blank one is unset. -/
def limit? (env : Environment) (job : Option JobFile) (key : String) :
    Except ConfigError (Option UInt64) :=
  match limitText? env job key with
  | none => .ok none
  | some text =>
    -- A blank text of the job file still hides the environment.
    if Text.trim text.toList = [] then .ok none
    else
      match Limit.parse text with
      | .ok n => .ok (some n)
      | .error cause => .error (.badLimit key text cause)

/-- The variable that limits the memory of all devices. -/
def memoryKey : String := "CUDA_DEVICE_MEMORY_LIMIT"

/-- The variable that limits the compute time of all devices. -/
def computeKey : String := "CUDA_DEVICE_SM_LIMIT"

/-- The variable that does so for one device. -/
def deviceKey (key : String) (d : DeviceIndex) : String := s!"{key}_{d.val}"

/-- A limit of one device: its own if that is positive, else the common one. -/
def deviceLimit (env : Environment) (job : Option JobFile) (key : String) (common : UInt64)
    (d : DeviceIndex) : Except ConfigError UInt64 := do
  return ((← limit? env job (deviceKey key d)).filter (· > 0)).getD common

/-- The memory and compute limits of all devices. The common limits are read first, then the two of
each device in turn. -/
def deviceLimits (env : Environment) (job : Option JobFile) :
    Except ConfigError (List (UInt64 × UInt64)) := do
  let memory := (← limit? env job memoryKey).getD 0
  let compute := ((← limit? env job computeKey).filter (· > 0)).getD unlimitedCompute
  (List.finRange maxDevices).mapM fun d => do
    let m ← deviceLimit env job memoryKey memory d
    let c ← deviceLimit env job computeKey compute d
    return (m, c)

/-- The settings that an environment and a job file make. -/
def ofEnvironment (env : Environment) (job : Option JobFile) : Except ConfigError Settings := do
  let limits ← deviceLimits env job
  let d := standard
  let s : Settings :=
    { path := (env.text? "CUDA_DEVICE_MEMORY_SHARED_CACHE").getD d.path
      deviceCount := max 1 (min ((env.natural? wordMax "CUDA_DEVICE_COUNT").getD d.deviceCount)
        maxDevices)
      memoryLimits := .ofFn fun i => (limits.map Prod.fst)[i.val]?.getD 0
      computeLimits := .ofFn fun i => (limits.map Prod.snd)[i.val]?.getD 0
      priority := (env.integer? (-0x80000000) 0x7FFFFFFF "CUDA_TASK_PRIORITY").getD d.priority
      policy := ((env.text? "GPU_CORE_UTILIZATION_POLICY").map UtilizationPolicy.ofText).getD
        d.policy
      recordInterval := (env.natural? wordMax "RECORD_KERNEL_INTERVAL").getD d.recordInterval
      setupWait := (env.natural? wordMax "SOFTMIG_INIT_WAIT_MS").getD d.setupWait
      lock := .ofEnvironment env }
  s.validate
  return s

end Settings

/-- The settings of the watcher of a process. -/
structure WatcherSettings where
  /-- Milliseconds between two looks. -/
  interval : Nat := 120
  /-- How long a launch waits for tokens at a time, in milliseconds. -/
  launchBackoff : Nat := 10
  /-- How long a launch waits at the gate at a time, in milliseconds. -/
  gateWait : Nat := 1000
  /-- How often the host identity is looked up before the own identifier is taken. -/
  hostPidAttempts : Nat := 5
  /-- The name of the watcher. -/
  name : String := "softmig-watcher"
  deriving DecidableEq, Repr, Inhabited

namespace WatcherSettings

/-- Looks must take time. -/
def validate (s : WatcherSettings) : Except ConfigError Unit :=
  if s.interval = 0 then .error (.badSetting .watchInterval) else .ok ()

/-- The settings that an environment makes. -/
def ofEnvironment (env : Environment) : WatcherSettings :=
  let d : WatcherSettings := {}
  { interval := (env.natural? wordMax "SOFTMIG_WATCH_INTERVAL_MS").getD d.interval
    launchBackoff := (env.natural? wordMax "SOFTMIG_LAUNCH_BACKOFF_MS").getD d.launchBackoff
    hostPidAttempts :=
      (env.natural? 0xFFFFFFFF "SOFTMIG_HOSTPID_ATTEMPTS").getD d.hostPidAttempts }

end WatcherSettings

end GpuQuota
