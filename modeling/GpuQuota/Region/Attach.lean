import GpuQuota.Config.Settings
import GpuQuota.Error

/-!
# Setting up and checking a region

The first process to attach to a zero-filled region sets it up; every process checks that the
region has its version and the limits that it is configured with.

The module introduces:

* `Region.setUp` — the region with a header made of settings.
* `Region.check` — version and limits against settings.
* `Region.attach` — set up if needed, then checked.
* `Region.inspect` — checked for version only, never set up.
-/

namespace GpuQuota

namespace Region

/-- The value that the launch gate starts with. -/
def recentKernelDefault : Int := 2

/-- Sets up the header. The slots stay as they are. -/
def setUp (r : Region) (s : Settings) (now : UInt64) : Region :=
  { r with
    flag := completeFlag
    major := layoutMajor
    minor := layoutMinor
    computeFlag := 0
    lock := { count := 1, owner := 0 }
    postinit := 1
    deviceNum := UInt64.ofNat s.deviceCount
    memoryLimits := s.memoryLimits
    computeLimits := s.computeLimits
    procNum := 0
    highWater := 0
    switch := 1
    recentKernel := recentKernelDefault
    priority := s.priority
    lastKernel := now }

/-- The region has the version of this library. -/
def checkVersion (r : Region) : Except RegionError Unit :=
  if r.major = layoutMajor ∧ r.minor = layoutMinor then .ok ()
  else .error (.versionMismatch r.major r.minor)

/-- The first limit of a device, memory before compute, that differs from the settings. -/
def limitMismatch? (r : Region) (s : Settings) (d : DeviceIndex) : Option RegionError :=
  if r.memoryLimits.get d ≠ s.memoryLimits.get d then
    some (.limitMismatch d .memory (r.memoryLimits.get d) (s.memoryLimits.get d))
  else if r.computeLimits.get d ≠ s.computeLimits.get d then
    some (.limitMismatch d .compute (r.computeLimits.get d) (s.computeLimits.get d))
  else none

/-- The region agrees with the settings: first the version, then the limits in device order. -/
def check (r : Region) (s : Settings) : Except RegionError Unit := do
  r.checkVersion
  match (List.finRange maxDevices).findSome? (r.limitMismatch? s) with
  | some e => throw e
  | none => return ()

/-- Attaches with settings, nobody else setting up the region meanwhile. -/
def attach (r : Region) (s : Settings) (now : UInt64) : Except RegionError Unit × Region :=
  if r.flag = completeFlag then (r.check s, r)
  else if r.flag = 0 then
    -- Whoever sets the region up checks it like everybody else.
    let r := r.setUp s now
    (r.check s, r)
  else (.error (.setupTimeout r.flag), r)

/-- Looks at a region without settings to compare. -/
def inspect (r : Region) : Except RegionError Unit :=
  if r.flag = completeFlag then r.checkVersion else .error (.notSetUp r.flag)

end Region

end GpuQuota
