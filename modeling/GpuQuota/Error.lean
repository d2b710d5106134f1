import GpuQuota.Device
import GpuQuota.Limit
import GpuQuota.Region

/-!
# Errors

Every failure that a caller can see, by cause, with its wording.

The module introduces:

* `FileError`, `DriverError`, `ConfigError` — failures of files, of the device driver, and of a
  configuration.
* `RegionError` — failures of the shared region; `RegionError.isFatal` says which of them a process
  cannot go on after.
* `AllocError` — failures of an allocation; `AllocError.isOutOfMemory` marks a quota that is used
  up.
-/

namespace GpuQuota

/-- A failure of a file operation. -/
inductive FileError
  | notFound
  | exists
  | notDirectory
  | isDirectory
  | nameTooLong
  | nulInName
  /-- The file is not valid UTF-8. -/
  | notText
  deriving DecidableEq, Repr

/-- The wording of a file error. -/
def FileError.message : FileError → String
  | .notFound => "No such file or directory (os error 2)"
  | .exists => "File exists (os error 17)"
  | .notDirectory => "Not a directory (os error 20)"
  | .isDirectory => "Is a directory (os error 21)"
  | .nameTooLong => "File name too long (os error 36)"
  | .nulInName => "file name contained an unexpected NUL byte"
  | .notText => "stream did not contain valid UTF-8"

/-- A refusal of the device driver. -/
structure DriverError where
  /-- The status code of the driver. -/
  code : Int
  deriving DecidableEq, Repr

namespace DriverError

/-- The driver knows no such pointer. -/
def invalidValue : DriverError := ⟨1⟩

/-- The device has no memory left. -/
def outOfMemory : DriverError := ⟨2⟩

/-- The driver cannot answer the query. -/
def notSupported : DriverError := ⟨801⟩

/-- The wording of a driver error. -/
def message (e : DriverError) : String := s!"driver call failed with status {e.code}"

end DriverError

/-- The setting that makes a configuration unusable. -/
inductive BadSetting
  | lockWait
  | postinitWait
  | deviceCount
  | computeLimit
  | regionPath
  | watchInterval
  deriving DecidableEq, Repr

/-- What is asked of a setting. -/
def BadSetting.message : BadSetting → String
  | .lockWait => "lock wait must be > 0"
  | .postinitWait => "postinit wait must be > 0"
  | .deviceCount => "device_count must be in 1..=16"
  | .computeLimit => "sm limit must be <= 100"
  | .regionPath => "region path must not be empty"
  | .watchInterval => "watch interval must be > 0"

/-- A configuration that is refused. -/
inductive ConfigError
  /-- A setting is out of range. -/
  | badSetting (setting : BadSetting)
  /-- A limit variable holds no limit value. -/
  | badLimit (key value : String) (cause : LimitError)
  deriving DecidableEq, Repr

/-- The wording of a refused configuration. -/
def ConfigError.message : ConfigError → String
  | .badSetting setting => "invalid config: " ++ setting.message
  | .badLimit key value cause =>
    "invalid limit " ++ key ++ "=" ++ Text.quote value ++ ": " ++ cause.message

/-- The two limits of a device. -/
inductive LimitKind
  | memory
  | compute
  deriving DecidableEq, Repr

/-- The name of a limit. -/
def LimitKind.name : LimitKind → String
  | .memory => "memory"
  | .compute => "sm"

/-- A failure of the shared region. -/
inductive RegionError
  /-- The file cannot be opened. -/
  | openFailed (path : String) (cause : FileError)
  /-- Another file operation failed. -/
  | file (cause : FileError)
  /-- The region has another version than this library. -/
  | versionMismatch (major minor : Nat)
  /-- A limit in the region differs from the configured one. -/
  | limitMismatch (device : DeviceIndex) (kind : LimitKind) (found configured : UInt64)
  /-- The setup of the region was not completed in time. -/
  | setupTimeout (flag : Int)
  /-- The region was never set up. -/
  | notSetUp (flag : Int)
  /-- No slot is left. -/
  | capacityExhausted
  /-- The process has no slot. -/
  | slotNotFound (pid : Pid)
  /-- The configuration is refused. -/
  | config (cause : ConfigError)
  /-- The device index is out of range. -/
  | device (cause : InvalidDevice)
  deriving DecidableEq, Repr

/-- The version of the layout that this library reads and writes. -/
def layoutMajor : Nat := 1

@[inherit_doc layoutMajor]
def layoutMinor : Nat := 1

namespace RegionError

/-- The wording of a region error. -/
def message : RegionError → String
  | .openFailed path cause => "failed to open shared region " ++ path ++ ": " ++ cause.message
  | .file cause => "shared region I/O error: " ++ cause.message
  | .versionMismatch major minor =>
    s!"region version {major}.{minor} does not match {layoutMajor}.{layoutMinor}"
  | .limitMismatch dev kind found configured =>
    s!"device {dev.val} {kind.name} limit mismatch: region has {found.toNat}, " ++
      s!"this process configured {configured.toNat}"
  | .setupTimeout flag => s!"region initialization did not complete in time (flag {flag})"
  | .notSetUp flag => s!"region is not initialized (flag {flag})"
  | .capacityExhausted => s!"all {maxProcesses} process slots are in use"
  | .slotNotFound pid => s!"process {pid} is not registered in the region"
  | .config cause => cause.message
  | .device cause => cause.message

/-- The deployment is at fault: the process must not go on without its quota. -/
def isFatal : RegionError → Bool
  | .versionMismatch .. | .limitMismatch .. | .setupTimeout _ | .capacityExhausted
  | .config _ => true
  | _ => false

end RegionError

/-- A failure of an allocation. -/
inductive AllocError
  /-- The quota of the device is used up. -/
  | outOfMemory (device : Nat) (requested usage limit : UInt64)
  /-- The driver refused. -/
  | driver (cause : DriverError)
  /-- The region refused. -/
  | region (cause : RegionError)
  deriving DecidableEq, Repr

namespace AllocError

/-- The wording of an allocation error. -/
def message : AllocError → String
  | .outOfMemory device requested usage limit =>
    s!"out of memory on device {device}: requested {requested.toNat}, in use {usage.toNat}, " ++
      s!"limit {limit.toNat}"
  | .driver cause => cause.message
  | .region cause => cause.message

/-- The quota is used up. -/
def isOutOfMemory : AllocError → Bool
  | .outOfMemory .. => true
  | _ => false

end AllocError

end GpuQuota
