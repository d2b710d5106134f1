import GpuQuota.Text.Blank

/-!
# Stored states

The states that a region stores as plain integers, each with a lossy reading of every integer.

The module introduces:

* `InitState` — how far the setup of a region has come.
* `ProcStatus` — whether the process of a slot runs.
* `UtilizationPolicy` — whether the switch of the region decides about throttling.
-/

namespace GpuQuota

/-- The number that marks a region whose setup is complete. -/
def completeFlag : Int := 19920718

/-- How far the setup of a region has come. -/
inductive InitState
  | uninitialized
  | inProgress
  | complete
  deriving DecidableEq, Repr

namespace InitState

/-- The state that a flag stands for. -/
def ofFlag? (flag : Int) : Option InitState :=
  if flag = 0 then some .uninitialized
  else if flag = 1 then some .inProgress
  else if flag = completeFlag then some .complete
  else none

/-- The name of a state. -/
def name : InitState → String
  | .uninitialized => "uninitialized"
  | .inProgress => "in-progress"
  | .complete => "complete"

end InitState

/-- Whether the process of a slot runs. -/
inductive ProcStatus
  /-- Nobody owns the slot. -/
  | free
  /-- The process may use device memory. -/
  | running
  /-- The process was asked to leave device memory alone. -/
  | suspended
  deriving DecidableEq, Repr

namespace ProcStatus

/-- The number under which a status is stored. -/
def toRaw : ProcStatus → Int
  | .free => 0
  | .running => 1
  | .suspended => 2

/-- The status stored under a number; unknown numbers are read as `free`. -/
def ofRaw (raw : Int) : ProcStatus :=
  if raw = 1 then .running else if raw = 2 then .suspended else .free

@[simp] theorem ofRaw_toRaw (s : ProcStatus) : ofRaw s.toRaw = s := by cases s <;> rfl

/-- The name of a status. -/
def name : ProcStatus → String
  | .free => "Free"
  | .running => "Running"
  | .suspended => "Suspended"

end ProcStatus

/-- Whether the switch of the region decides about throttling. -/
inductive UtilizationPolicy
  /-- The switch decides. -/
  | default
  /-- Launches are throttled whatever the switch says. -/
  | force
  /-- Launches are never throttled. -/
  | disable
  deriving DecidableEq, Repr

/-- Reads a policy; the case of letters and blanks at the ends do not matter, and every other
word leaves the decision to the switch. -/
def UtilizationPolicy.ofText (text : String) : UtilizationPolicy :=
  let word := (Text.trim text.toList).map Char.toLower
  if word = "force".toList then .force
  else if word = "disable".toList then .disable
  else .default

end GpuQuota
