import GpuQuota.Proofs.Allocation.Seat
import GpuQuota.Proofs.Registry.Frame

/-!
# The work of a process

A process that is attached to a region works on it as a member, through its allocator, through its
limiter, and through its watcher. This module lists all that it can ask for and shows that a
property of its seat that endures the operations of a member endures all of that.

The module introduces:

* `Worker` — a process at work on a region.
* `Work` — what it can ask for, with any arguments; `Work.run` carries it out.
* `Work.run_keeps` — enduring properties are kept.
-/

namespace GpuQuota

/-- A process at work on a region. -/
structure Worker (σ μ : Type) where
  /-- The region as the process sees it. -/
  seat : Seat
  /-- What its allocator tracks. -/
  holdings : Holdings
  /-- Its limiter. -/
  limiter : Limiter
  /-- Its watcher. -/
  watcher : Watcher
  /-- The driver. -/
  driver : σ
  /-- The management interface. -/
  host : μ

/-- What a process can ask for. -/
inductive Work
  /-- Registers the process itself. -/
  | registerSelf
  /-- Registers any process. -/
  | register (pid : Pid)
  /-- Gives the own slot back. -/
  | removeSelf
  /-- Clears the slots of dead processes. -/
  | clearDead
  /-- Forgets what was observed of all processes. -/
  | resetObserved
  /-- Notes the own host identity. -/
  | setHostPid (hostPid : Pid)
  /-- Stores the own status. -/
  | setStatus (status : ProcStatus)
  /-- Reads the own status. -/
  | readStatus
  /-- Charges a process. -/
  | addUsage (pid : Pid) (dev : Nat) (bytes : UInt64) (kind : UsageKind)
  /-- Takes back a charge of a process. -/
  | removeUsage (pid : Pid) (dev : Nat) (bytes : UInt64) (kind : UsageKind)
  /-- Sums the usage of all processes. -/
  | usageSum (dev : Nat)
  /-- Reads the usage of a process. -/
  | slotUsage (pid : Pid) (dev : Nat)
  /-- Sums the memory observed of all processes. -/
  | monitorSum (dev : Nat)
  /-- Stores the memory observed of a process. -/
  | setMonitor (hostPid : Pid) (dev : Nat) (bytes : UInt64)
  /-- Stores the share of compute time observed of a process. -/
  | setCompute (hostPid : Pid) (dev : Nat) (share : UInt64)
  /-- Looks whether a request would fit. -/
  | admissible (dev : Nat) (size : UInt64)
  /-- Allocates or frees. -/
  | allocate (call : AllocCall)
  /-- Lets a launch in. -/
  | launch (grid : UInt64) (relief : Relief)
  /-- Records a launch. -/
  | noteLaunch (now : UInt64)
  /-- Opens or closes the gate for launches. -/
  | setRecent (value : Int)
  /-- Turns throttling on or off. -/
  | setSwitch (on : Bool)
  /-- Looks once at all devices. -/
  | look (resolve : Pid → Option Pid)

/-- The operations on the seat that an allocator uses are among those of a member. -/
theorem Seat.Enduring.bearableByAllocator {m : Member} {P : Seat → Prop} (h : Enduring m P) :
    Allocator.Bearable m fun s _ => P s where
  addUsage _ dev bytes kind := h.addUsage m.pid dev bytes kind
  removeUsage _ dev bytes kind := h.removeUsage m.pid dev bytes kind
  clearDead _ := h.clearDead

namespace Work

variable {σ μ : Type} [DeviceDriver σ] [Management μ]

/-- The process after its work, whether or not it was refused. -/
def run (m : Member) : Work → Worker σ μ → Worker σ μ
  | .registerSelf, w => { w with seat := (m.registerSelf w.seat).2 }
  | .register pid, w => { w with seat := (m.register pid w.seat).2 }
  | .removeSelf, w => { w with seat := (m.removeSelf w.seat).2 }
  | .clearDead, w => { w with seat := (m.clearDead w.seat).2 }
  | .resetObserved, w => { w with seat := (m.resetObserved w.seat).2 }
  | .setHostPid hostPid, w => { w with seat := (m.setHostPid hostPid w.seat).2 }
  | .setStatus status, w => { w with seat := (m.setStatus status w.seat).2 }
  | .readStatus, w => { w with seat := (m.status? w.seat).2 }
  | .addUsage pid dev bytes kind, w => { w with seat := (m.addUsage pid dev bytes kind w.seat).2 }
  | .removeUsage pid dev bytes kind, w =>
    { w with seat := (m.removeUsage pid dev bytes kind w.seat).2 }
  | .usageSum dev, w => { w with seat := (Member.usageSum dev w.seat).2 }
  | .slotUsage pid dev, w => { w with seat := (m.slotUsage pid dev w.seat).2 }
  | .monitorSum dev, w => { w with seat := (m.monitorSum dev w.seat).2 }
  | .setMonitor hostPid dev bytes, w => { w with seat := (m.setMonitor hostPid dev bytes w.seat).2 }
  | .setCompute hostPid dev share, w =>
    { w with seat := (Member.setCompute hostPid dev share w.seat).2 }
  | .admissible dev size, w =>
    let desk := (Allocator.admissible m dev size ⟨w.seat, w.holdings, w.driver⟩).2
    { w with seat := desk.seat, holdings := desk.holdings, driver := desk.driver }
  | .allocate call, w =>
    let desk := call.run m ⟨w.seat, w.holdings, w.driver⟩
    { w with seat := desk.seat, holdings := desk.holdings, driver := desk.driver }
  | .launch grid relief, w =>
    let (_, limiter, region) := w.limiter.launch m w.seat.region grid relief
    { w with limiter, seat := { w.seat with region } }
  | .noteLaunch now, w =>
    let ((_, limiter), seat) := w.limiter.noteLaunch m now w.seat
    { w with limiter, seat }
  | .setRecent value, w =>
    { w with seat := { w.seat with region := { w.seat.region with recentKernel := value } } }
  | .setSwitch on, w =>
    { w with
      seat := { w.seat with region := { w.seat.region with switch := if on then 1 else 0 } } }
  | .look resolve, w =>
    let watch := (Watch.look m resolve ⟨w.watcher, w.seat, w.limiter, w.driver, w.host⟩).2
    { w with
      watcher := watch.watcher
      seat := watch.seat
      limiter := watch.limiter
      driver := watch.driver
      host := watch.host }

/-- Whatever a process asks for, a property that endures is kept. -/
theorem run_keeps {m : Member} {P : Seat → Prop} (h : Seat.Enduring m P) (work : Work)
    {w : Worker σ μ} (hw : P w.seat) : P (work.run m w).seat := by
  cases work with
  | registerSelf => exact h.registerSelf w.seat hw
  | register pid => exact h.register pid w.seat hw
  | removeSelf => exact h.removeSelf w.seat hw
  | clearDead => exact h.clearDead w.seat hw
  | resetObserved => exact h.resetObserved w.seat hw
  | setHostPid hostPid => exact h.setHostPid hostPid w.seat hw
  | setStatus status => exact h.setStatus status w.seat hw
  | readStatus => exact h.status? w.seat hw
  | addUsage pid dev bytes kind => exact h.addUsage pid dev bytes kind w.seat hw
  | removeUsage pid dev bytes kind => exact h.removeUsage pid dev bytes kind w.seat hw
  | usageSum dev => exact Member.keeps_usageSum dev w.seat hw
  | slotUsage pid dev => exact h.slotUsage pid dev w.seat hw
  | monitorSum dev => exact h.monitorSum dev w.seat hw
  | setMonitor hostPid dev bytes => exact h.setMonitor hostPid dev bytes w.seat hw
  | setCompute hostPid dev share => exact h.setCompute hostPid dev share w.seat hw
  | admissible dev size =>
    exact Allocator.keeps_admissible (fun _ => h.clearDead) dev size ⟨w.seat, _, w.driver⟩ hw
  | allocate call => exact call.run_keeps h.bearableByAllocator ⟨w.seat, _, w.driver⟩ hw
  | launch grid relief => exact h.congr hw (w.limiter.frame_launch m w.seat.region grid relief) rfl
  | noteLaunch now => exact h.noteLaunch w.limiter now w.seat hw
  | setRecent value => exact h.congr hw rfl rfl
  | setSwitch on => exact h.congr hw rfl rfl
  | look resolve => exact h.bearableByWatcher.look resolve ⟨_, w.seat, _, w.driver, w.host⟩ hw

end Work

end GpuQuota
