import GpuQuota.Word

/-!
# The compute share

A watcher moves the share of compute time that a job may use towards its limit. Each look gives the
utilization in percent; the share grows while the job stays within the limit and shrinks while it
exceeds it, faster the further it is off.

The module introduces:

* `DeviceSpec` — the size of a device, and `DeviceSpec.totalCores`.
* `DeviceSpec.step` — by how much the share moves.
* `DeviceSpec.nextShare` — the share after a look, which stays between zero and the total
  (`nextShare_nonneg`, `nextShare_le`).
-/

namespace GpuQuota

/-- The size of a device. -/
structure DeviceSpec where
  /-- The number of multiprocessors. -/
  multiprocessors : Int := 0
  /-- The threads that one multiprocessor runs at most. -/
  threads : Int := 0
  deriving DecidableEq, Repr, Inhabited

namespace DeviceSpec

/-- Tokens per thread. -/
def tokensPerThread : Int := 32

/-- The least distance from the limit that a step is sized for, in percent. -/
def minDistance : Int := 5

/-- What the product of the sizes is divided by to give a step. -/
def stepDivisor : Int := 2560

/-- The tokens that a device holds in all. -/
def totalCores (s : DeviceSpec) : Int :=
  saturate (saturate (s.threads * s.multiprocessors) * tokensPerThread)

/-- The distance from the limit that a step is sized for. -/
def distance (limit user : Int) : Int := max ((limit - user).natAbs : Int) minDistance

/-- A step sized by the device and the distance from the limit. -/
def baseStep (s : DeviceSpec) (distance : Int) : Int :=
  (saturate (saturate (saturate (s.multiprocessors * s.multiprocessors) * s.threads) *
    distance)).tdiv stepDivisor

/-- By how much the share moves. A distance of more than half the limit enlarges the step. -/
def step (s : DeviceSpec) (limit user : Int) : Int :=
  let far := distance limit user
  let base := s.baseStep far
  if far > limit.tdiv 2 then (saturate (saturate (base * far) * 2)).tdiv (max (limit + 1) 1)
  else base

/-- The share after a look: up within the limit, down above it, between zero and the total. -/
def nextShare (s : DeviceSpec) (total limit user share : Int) : Int :=
  let moved :=
    if user ≤ limit then min (saturate (share + s.step limit user)) total
    else max (saturate (share - s.step limit user)) 0
  max 0 (min moved (max total 0))

theorem nextShare_nonneg (s : DeviceSpec) (total limit user share : Int) :
    0 ≤ s.nextShare total limit user share := by
  simp only [nextShare]; omega

theorem nextShare_le (s : DeviceSpec) {total : Int} (limit user share : Int) (h : 0 ≤ total) :
    s.nextShare total limit user share ≤ total := by
  simp only [nextShare]; omega

end DeviceSpec

end GpuQuota
