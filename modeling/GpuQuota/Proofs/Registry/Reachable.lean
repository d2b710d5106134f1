import GpuQuota.Proofs.Registry.Change
import GpuQuota.Region.Attach

/-!
# Reachable regions

Any number of handles work on one region, each a process of its own or not, in any order. Every
operation may see other processes alive than the last one did, and a process that crashes leaves
its slot behind. This module says which regions can come about in this way and that all of them
have a consistent table.

The module introduces:

* `Handle` — the attachment of a process to a region.
* `Population` — a region with the handles on it; `Population.Step` is one operation of one handle.
* `Population.Reachable` — what comes about from a region that was just set up.
* `Population.Reachable.of_stable` — stable properties hold in all reachable regions.
* `Population.table_of_reachable` — what holds of the table of every reachable region.
-/

namespace GpuQuota

/-- The attachment of a process to a region. -/
structure Handle where
  /-- The process. -/
  pid : Pid
  /-- It has an identifier of its own. -/
  pid_ne_zero : pid ≠ 0
  /-- Its settings. -/
  settings : Settings
  /-- The index at which the process last saw its slot. -/
  remembered : Option Nat := none
  /-- The timed waits that have expired. -/
  expired : Nat := 0

namespace Handle

/-- The process as a member, with the processes that it takes for alive. -/
def member (h : Handle) (alive : Pid → Bool) : Member := ⟨h.pid, h.settings, alive⟩

/-- The region as the process works on it. -/
def seat (h : Handle) (r : Region) : Seat := ⟨r, h.remembered, h.expired⟩

/-- The handle after an operation that ended on the seat. -/
def after (h : Handle) (s : Seat) : Handle :=
  { h with remembered := s.remembered, expired := s.expired }

end Handle

/-- An operation of a process on the region. -/
inductive RegionCall
  /-- Registers the process itself. -/
  | registerSelf
  /-- Registers a process. -/
  | register (pid : Pid) (hpid : pid ≠ 0)
  /-- Gives the own slot back. -/
  | removeSelf
  /-- Clears the slots of dead processes. -/
  | clearDead
  /-- Notes the own host identity. -/
  | setHostPid (hostPid : Pid)
  /-- Stores the own status. -/
  | setStatus (status : ProcStatus)
  /-- Charges a process. -/
  | addUsage (pid : Pid) (dev : Nat) (bytes : UInt64) (kind : UsageKind)
  /-- Takes back a charge of a process. -/
  | removeUsage (pid : Pid) (dev : Nat) (bytes : UInt64) (kind : UsageKind)
  /-- Stores the memory observed of a process. -/
  | setMonitor (hostPid : Pid) (dev : Nat) (bytes : UInt64)
  /-- Stores the share of compute time observed of a process. -/
  | setCompute (hostPid : Pid) (dev : Nat) (share : UInt64)
  /-- Forgets what was observed of all processes. -/
  | resetObserved

/-- The seat after an operation, whether or not it was refused. -/
def RegionCall.run (m : Member) : RegionCall → Seat → Seat
  | .registerSelf, s => (m.registerSelf s).2
  | .register pid _, s => (m.register pid s).2
  | .removeSelf, s => (m.removeSelf s).2
  | .clearDead, s => (m.clearDead s).2
  | .setHostPid hostPid, s => (m.setHostPid hostPid s).2
  | .setStatus status, s => (m.setStatus status s).2
  | .addUsage pid dev bytes kind, s => (m.addUsage pid dev bytes kind s).2
  | .removeUsage pid dev bytes kind, s => (m.removeUsage pid dev bytes kind s).2
  | .setMonitor hostPid dev bytes, s => (m.setMonitor hostPid dev bytes s).2
  | .setCompute hostPid dev share, s => (Member.setCompute hostPid dev share s).2
  | .resetObserved, s => (m.resetObserved s).2

/-- An operation keeps what no change destroys. -/
theorem RegionCall.run_keeps {Q : Region → Prop} (hQ : Region.Stable Q) {m : Member}
    (hm : m.pid ≠ 0) (call : RegionCall) {s : Seat} (hs : Q s.region) :
    Q (call.run m s).region := by
  cases call with
  | registerSelf => exact m.keeps_registerSelf hQ hm s hs
  | register pid hpid => exact m.keeps_register hQ hpid s hs
  | removeSelf => exact m.keeps_removeSelf hQ hm s hs
  | clearDead => exact m.keeps_clearDead hQ s hs
  | setHostPid hostPid => exact m.keeps_setHostPid hQ hm hostPid s hs
  | setStatus status => exact m.keeps_setStatus hQ hm status s hs
  | addUsage pid dev bytes kind => exact m.keeps_addUsage hQ pid dev bytes kind s hs
  | removeUsage pid dev bytes kind => exact m.keeps_removeUsage hQ pid dev bytes kind s hs
  | setMonitor hostPid dev bytes => exact m.keeps_setMonitor hQ hostPid dev bytes s hs
  | setCompute hostPid dev share => exact Member.keeps_setCompute hQ hostPid dev share s hs
  | resetObserved => exact m.keeps_resetObserved hQ s hs

/-- A region and the handles on it. -/
structure Population where
  /-- The region. -/
  region : Region
  /-- The handles; one process may have several. -/
  handles : List Handle

namespace Population

/-- A region that was just set up, without handles. -/
def fresh (settings : Settings) (now : UInt64) : Population where
  region := Region.zero.setUp settings now
  handles := []

/-- One handle moves, or one comes or goes. -/
inductive Step : Population → Population → Prop
  /-- A process attaches. -/
  | attach (r : Region) (hs : List Handle) (h : Handle) : Step ⟨r, hs⟩ ⟨r, h :: hs⟩
  /-- A process carries out an operation. -/
  | operate (r : Region) (hs hs' : List Handle) (h : Handle) (alive : Pid → Bool)
    (call : RegionCall) :
    Step ⟨r, hs ++ h :: hs'⟩
      ⟨(call.run (h.member alive) (h.seat r)).region,
        hs ++ h.after (call.run (h.member alive) (h.seat r)) :: hs'⟩
  /-- The watcher of a process looks, with whatever limiter, driver and management interface. -/
  | look {σ μ : Type} [DeviceDriver σ] [Management μ] (w : Watch σ μ) (hs hs' : List Handle)
    (h : Handle) (alive : Pid → Bool) (resolve : Pid → Option Pid)
    (hseat : w.seat = h.seat w.seat.region) :
    Step ⟨w.seat.region, hs ++ h :: hs'⟩
      ⟨(w.look (h.member alive) resolve).2.seat.region,
        hs ++ h.after (w.look (h.member alive) resolve).2.seat :: hs'⟩
  /-- A process crashes: its handle is gone and its slot stays. -/
  | crash (r : Region) (hs hs' : List Handle) (h : Handle) :
    Step ⟨r, hs ++ h :: hs'⟩ ⟨r, hs ++ hs'⟩

/-- What comes about by steps from a region that was just set up. -/
inductive Reachable : Population → Prop
  | fresh (settings : Settings) (now : UInt64) : Reachable (fresh settings now)
  | step {p p' : Population} (h : Reachable p) (hstep : Step p p') : Reachable p'

/-- A step keeps what no change of the region destroys. -/
theorem Step.keeps {Q : Region → Prop} (hQ : Region.Stable Q) {p p' : Population}
    (hstep : Step p p') (hp : Q p.region) : Q p'.region := by
  cases hstep with
  | attach r hs h => exact hp
  | operate r hs hs' h alive call => exact call.run_keeps hQ h.pid_ne_zero hp
  | look w hs hs' h alive resolve hseat =>
    exact Watch.keeps_look hQ (h.member alive) h.pid_ne_zero resolve w hp
  | crash r hs hs' h => exact hp

/-- What holds after the setup and is not destroyed by changes holds in every reachable region. -/
theorem Reachable.of_stable {Q : Region → Prop} (hQ : Region.Stable Q)
    (hfresh : ∀ settings now, Q (Region.zero.setUp settings now)) {p : Population}
    (h : Reachable p) : Q p.region := by
  induction h with
  | fresh settings now => exact hfresh settings now
  | step _ hstep ih => exact hstep.keeps hQ ih

/-- The slots of a region that was just set up were never used. -/
theorem slotAt_setUp (settings : Settings) (now : UInt64) (i : Fin maxProcesses) :
    (Region.zero.setUp settings now).slotAt i = .empty := by
  show (Vector.replicate maxProcesses Slot.empty)[i] = .empty
  exact Vector.getElem_replicate _

theorem consistent_setUp (settings : Settings) (now : UInt64) :
    (Region.zero.setUp settings now).Consistent := by
  refine .of_unused (fun i => ?_) (fun i => ?_) rfl rfl
  · rw [slotAt_setUp, Slot.pid_empty]
  · rw [slotAt_setUp]
    exact Slot.isBlank_empty

/-- Reachable tables are consistent. -/
theorem Reachable.consistent {p : Population} (h : Reachable p) : p.region.Consistent :=
  h.of_stable Region.stable_consistent consistent_setUp

/-- In every reachable region no process owns two slots, the number of processes is the number of
slots in use, no slot at or beyond the high-water mark is in use, and a free slot holds neither a
host identity nor anything charged or observed. -/
theorem table_of_reachable {p : Population} (h : Reachable p) :
    (∀ i j : Fin maxProcesses, (p.region.slotAt i).pid ≠ 0 →
      (p.region.slotAt i).pid = (p.region.slotAt j).pid → i = j) ∧
    p.region.procNum =
      (Finset.univ.filter fun i : Fin maxProcesses => (p.region.slotAt i).pid ≠ 0).card ∧
    0 ≤ p.region.highWater ∧ p.region.highWater ≤ maxProcesses ∧
    (∀ i : Fin maxProcesses, p.region.highWater ≤ i.val → (p.region.slotAt i).pid = 0) ∧
    ∀ i : Fin maxProcesses, (p.region.slotAt i).pid = 0 →
      (p.region.slotAt i).hostPid = 0 ∧ ∀ d, (p.region.slotAt i).device d = .zero := by
  -- All of it is what makes a table consistent, and that is kept by every step.
  have hc := h.consistent
  exact ⟨hc.pid_injective, hc.procNum_eq, hc.highWater_nonneg, hc.highWater_le,
    hc.free_of_highWater_le, hc.blank_of_free⟩

/-- A process registers and crashes, and another one, which takes it for dead, clears its slot. -/
theorem table_after_crash :
    ∃ p, Reachable p ∧ p.handles.map (·.pid) = [8] ∧
      ∀ i : Fin maxProcesses, p.region.highWater ≤ i.val → (p.region.slotAt i).pid = 0 := by
  let first : Handle := { pid := 7, pid_ne_zero := by decide, settings := .standard }
  let second : Handle := { pid := 8, pid_ne_zero := by decide, settings := .standard }
  let alive : Pid → Bool := (· == 8)
  -- The first process crashes in its slot, and the second one clears it.
  have h₀ := (Reachable.fresh .standard 0).step (.attach _ [] first)
  have h₁ := h₀.step (.operate _ [] [] first alive .registerSelf)
  have h₂ := h₁.step (.crash _ [] [] _)
  have h₃ := h₂.step (.attach _ [] second)
  have h₄ := h₃.step (.operate _ [] [] second alive .clearDead)
  obtain ⟨-, -, -, -, hfree, -⟩ := table_of_reachable h₄
  exact ⟨_, h₄, rfl, hfree⟩

end Population

end GpuQuota
