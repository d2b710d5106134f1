import GpuQuota.Workload
import GpuQuota.Tool.Inspect

/-!
# Answers of scripted steps

What a step of a scripted run answers, as values of the library.

The module introduces `Header`, the view of a region's header, and `Answer`.
-/

namespace GpuQuota.Scenario

/-- The header of a region as one member sees it. -/
structure Header where
  /-- The region. -/
  region : Region
  /-- Throttling is on for the member. -/
  effective : Bool

/-- What a step answers. -/
inductive Answer
  /-- It is done. -/
  | done
  /-- There is nothing to show. -/
  | nothing
  /-- The step names an object that does not exist. -/
  | noSuchObject
  | truth (value : Bool)
  | number (value : Int)
  | pid (value : Pid)
  | text (value : String)
  | bytes (value : ByteArray)
  | seconds (value clock : UInt64)
  /-- Registrations in a row: what came of the first and of the last, and the sum of the slots. -/
  | range (first last : Option (Except RegionError Nat)) (sum : Nat)
  | regionError (cause : RegionError)
  | allocError (cause : AllocError)
  | driverError (cause : DriverError)
  | fileError (cause : FileError)
  | usageSum (value : UsageSum)
  | usage (value : Usage)
  | slot (value : Slot)
  | status (value : ProcStatus)
  | header (value : Header)
  | snapshot (views : List Region.SlotView)
  | settings (value : Settings)
  | pointer (address : Address)
  | rawPointer (address : Address) (handle : Option UInt64)
  | freed (outcome : FreeOutcome)
  | memoryType (onDevice : Bool)
  | memoryInfo (value : MemoryInfo)
  | deviceState (live : Nat) (used reserved : UInt64)
  | spec (value : DeviceSpec)
  | specKnown (value : DeviceSpec) (known : Bool)
  | tokens (current total share : Int) (throttling : Bool)
  | launch (outcome : LaunchOutcome) (current recent : Int)
  | report (value : Report)
  | utilization (values : List Int)
  | spawned (settled : Bool) (stats : WatchStats)
  | stopped (stats : WatchStats)
  | readiness (same own : Bool)
  | tool (run : ToolRun) (clock : UInt64)
  | process (pid : Pid) (answers : List Answer) (ending : Ending)
  | many (answers : List Answer)

namespace Answer

/-- The answer of an operation that the region may refuse. -/
def ofRegion (show_ : α → Answer) : Except RegionError α → Answer
  | .ok a => show_ a
  | .error e => regionError e

/-- The answer of an operation of an allocator. -/
def ofAlloc (show_ : α → Answer) : Except AllocError α → Answer
  | .ok a => show_ a
  | .error e => allocError e

/-- The answer of a call of a driver. -/
def ofDriver (show_ : α → Answer) : Except DriverError α → Answer
  | .ok a => show_ a
  | .error e => driverError e

/-- The answer of a file operation. -/
def ofFile (show_ : α → Answer) : Except FileError α → Answer
  | .ok a => show_ a
  | .error e => fileError e

/-- The answer where there may be nothing to show. -/
def ofOption (show_ : α → Answer) : Option α → Answer
  | some a => show_ a
  | none => nothing

end Answer

end GpuQuota.Scenario
