import GpuQuota.Proofs.Admission.Decision
import GpuQuota.Proofs.Registry.Reachable

/-!
# Admission is exact

A request is looked at by up to two scans of the table with a clearing of dead slots between them,
each scan bounded by a mark that the clearing moves. In a consistent table all of that comes to one
sum over the processes that are not dead, and to one comparison with it.

The module introduces:

* `Region.perished` — the slots of dead processes, wherever in the table they are.
* `Region.Consistent.deadSlots_eq`, `.livingTotal_eq` — in a consistent table scans miss none.
* `Member.slotAt_clearDead` — what clearing does to each slot.
* `Desk.admission_exact` — the answer to a request, and what becomes of the table.
-/

namespace GpuQuota

namespace Region

/-- The slots of the processes that a process takes for dead. It never takes itself for dead. -/
def perished (r : Region) (me : Pid) (alive : Pid → Bool) : Finset (Fin maxProcesses) :=
  r.occupied.filter fun i => (r.slotAt i).pid ≠ me ∧ alive (r.slotAt i).pid = false

namespace Consistent

variable {r : Region} (h : r.Consistent)

include h

theorem inUse_eq : r.inUse = r.occupied := by
  ext i
  rw [mem_inUse, mem_occupied]
  exact and_iff_right_of_imp h.lt_mark

/-- Reaping finds every dead process. -/
theorem deadSlots_eq (me : Pid) (alive : Pid → Bool) :
    r.deadSlots me alive = r.perished me alive := by
  ext i
  rw [mem_deadSlots, isDeadSlot_iff, perished, Finset.mem_filter, mem_occupied]
  exact and_iff_right_of_imp fun hdead => h.lt_mark hdead.1

theorem livingTotal_eq (me : Pid) (alive : Pid → Bool) (d : DeviceIndex) :
    r.livingTotal me alive d = r.totalIn d (r.occupied \ r.perished me alive) := by
  rw [livingTotal, h.inUse_eq, h.deadSlots_eq]

end Consistent

end Region

/-- Clearing empties the slots of dead processes and leaves all others alone. -/
theorem Member.slotAt_clearDead (m : Member) (s : Seat) (i : Fin maxProcesses) :
    (m.clearDead s).2.region.slotAt i =
      if i ∈ s.region.deadSlots m.pid m.alive then .empty else s.region.slotAt i := by
  rw [m.clearDead_apply]
  exact s.region.slotAt_reap m.pid m.alive i

namespace Desk

open Allocator

variable {σ : Type}

/-- The answer to a request depends on one sum, of what the processes that are not dead use: the
request is admitted if it fits with that sum, and the refusal tells it otherwise. Nothing is charged
and nothing tracked. If the request does not fit with what all processes use, the dead among them,
then their slots are emptied and no others; if it does, nothing changes at all. -/
theorem admission_exact (m : Member) (desk : Desk σ) (d : DeviceIndex) (size : UInt64)
    (hconsistent : desk.seat.region.Consistent)
    (hlimit : (desk.seat.region.memoryLimits.get d).toNat < wordMax) :
    let r := desk.seat.region
    let limit := r.memoryLimits.get d
    let dead := r.perished m.pid m.alive
    let used := r.totalIn d (r.occupied \ dead)
    let crowded := limit ≠ 0 ∧ limit.toNat < r.totalIn d r.occupied + size.toNat
    let answer := (admissible m d size desk).1
    let after := (admissible m d size desk).2
    (limit = 0 ∨ used + size.toNat ≤ limit.toNat → answer = .ok ()) ∧
    (limit ≠ 0 → limit.toNat < used + size.toNat →
      answer = .error (.outOfMemory d size (UInt64.ofNat (min used wordMax)) limit)) ∧
    (∀ i, after.seat.region.slotAt i = if crowded ∧ i ∈ dead then .empty else r.slotAt i) ∧
    (¬ crowded → after = desk) ∧ after.holdings = desk.holdings ∧ after.driver = desk.driver := by
  -- The answer and what is left are given by one case distinction; what was living is what is in
  -- use without the perished.
  have heq := admissible_eq m d size desk hlimit
  dsimp only at heq ⊢
  rw [hconsistent.livingTotal_eq, hconsistent.inUse_eq] at heq
  generalize desk.seat.region.memoryLimits.get d = limit at hlimit heq ⊢
  generalize desk.seat.region.totalIn d (desk.seat.region.occupied \ _) = used at heq ⊢
  rw [heq]
  refine ⟨fun hfits => if_pos hfits, fun hzero hlarge => if_neg ?_, fun i => ?_,
    fun hroomy => if_neg hroomy, ?_, ?_⟩
  · exact not_or.2 ⟨hzero, Nat.not_le.2 hlarge⟩
  · dsimp only
    split
    next hcrowded =>
      -- Only a crowded device has the dead cleared.
      rw [m.slotAt_clearDead, hconsistent.deadSlots_eq]
      exact if_congr (and_iff_right hcrowded).symm rfl rfl
    next hroomy => exact (if_neg fun h => hroomy h.1).symm
  · dsimp only
    split <;> rfl
  · dsimp only
    split <;> rfl

/-- A process crashes with 60 of 100 bytes charged. Another one asks for 80, which fit once the dead
one is cleared. -/
theorem admission_after_crash :
    ∃ (m : Member) (desk : Desk SimulatedDevice) (i : Fin maxProcesses) (d : DeviceIndex),
      (desk.seat.region.slotAt i).pid = 8 ∧ (desk.seat.region.usageAt i d).total = 60 ∧
      desk.seat.region.memoryLimits.get d = 100 ∧ (admissible m d 80 desk).1 = .ok () ∧
      (admissible m d 80 desk).2.seat.region.slotAt i = .empty := by
  let settings := Settings.standard.withMemoryLimit 0 100
  let crashing : Handle := { pid := 8, pid_ne_zero := by decide, settings }
  let all : Pid → Bool := fun _ => true
  let i : Fin maxProcesses := ⟨0, by decide⟩
  let d : DeviceIndex := ⟨0, by decide⟩
  have hreach := (((Population.Reachable.fresh settings 0).step (.attach _ [] crashing)).step
    (.operate _ [] [] _ all .registerSelf)).step (.operate _ [] [] _ all (.addUsage 8 0 60 .data))
  have hc := hreach.consistent
  generalize hr : (RegionCall.run _ (.addUsage 8 0 60 .data) _).region = r at hc
  have hpid : (r.slotAt i).pid = 8 := by rw [← hr]; decide +kernel
  have htotal : (r.usageAt i d).total = 60 := by rw [← hr]; decide +kernel
  have hlimit : r.memoryLimits.get d = 100 := by rw [← hr]; decide +kernel
  have hnum : r.procNum = 1 := by rw [← hr]; decide +kernel
  -- The only process is the dead one.
  have hoccupied : r.occupied = {i} := by
    obtain ⟨j, hj⟩ := Finset.card_eq_one.1 (Int.ofNat_inj.1 (hc.procNum_eq.symm.trans hnum))
    have hi : i ∈ r.occupied := by rw [Region.mem_occupied, hpid]; decide
    rw [hj] at hi ⊢
    rw [Finset.mem_singleton.1 hi]
  have hdead : r.perished 7 (· == 7) = {i} := by
    rw [Region.perished, hoccupied, Finset.filter_singleton, hpid, if_pos (by decide)]
  let desk : Desk SimulatedDevice := ⟨⟨r, none, 0⟩, {}, {}⟩
  obtain ⟨hadmitted, -, hslots, -⟩ := admission_exact ⟨7, settings, (· == 7)⟩ desk d 80 hc
    (by rw [hlimit]; decide)
  rw [hlimit, hoccupied, hdead] at hadmitted hslots
  refine ⟨_, desk, i, d, hpid, htotal, hlimit, hadmitted (.inr ?_), (hslots i).trans (if_pos ?_)⟩
  · rw [sdiff_self, Region.totalIn, Finset.bot_eq_empty, Finset.sum_empty]
    decide
  · rw [Region.totalIn, Finset.sum_singleton, htotal]
    decide

end Desk

end GpuQuota
