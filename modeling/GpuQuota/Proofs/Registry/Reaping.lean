import GpuQuota.Proofs.Lock.Progress
import GpuQuota.Proofs.Registry.Reachable
import Mathlib.Order.Lattice.Nat

/-!
# Reaping is exact

Reaping goes over the slots below the high-water mark twice: once to clear those of dead processes,
and once, from the end, to lower the mark that bounds both. In a consistent table it misses none of
the dead and clears nobody else, and the mark comes to lie right behind the last slot in use. So
there is nothing left to do for a second time.

The module introduces:

* `Region.occupiedEnd` — one past the last slot in use.
* `Region.occupied_reap`, `Region.card_occupied_sdiff_reap` — which slots are still in use, and how
  many are not.
* `Region.Consistent.procNum_reap`, `.highWater_reap`, `.not_dead_reap` — the table after reaping.
* `Region.Consistent.reap_eq_self` — where nobody is dead and the mark is right nothing changes.
* `Member.clearDead_exact` — what a member that reaps makes of the table.
-/

namespace GpuQuota

namespace Region

/-- One past the last slot in use; zero if none is. -/
def occupiedEnd (r : Region) : Nat := r.occupied.sup fun i => i.val + 1

/-- From a position on all slots are free exactly if the last slot in use lies before it. -/
theorem occupiedEnd_le_iff {r : Region} {n : Nat} :
    r.occupiedEnd ≤ n ↔ ∀ i : Fin maxProcesses, n ≤ i.val → (r.slotAt i).pid = 0 := by
  rw [occupiedEnd, Finset.sup_le_iff]
  constructor
  · intro h i hn
    by_contra hi
    have := h i (mem_occupied.2 hi)
    omega
  · intro h i hi
    by_contra hn
    exact mem_occupied.1 hi (h i (by omega))

section Reap

variable (r : Region) (me : Pid) (alive : Pid → Bool)

/-- The slots that were cleared are no longer in use. -/
theorem occupied_reap :
    (r.reap me alive).2.occupied = r.occupied \ r.deadSlots me alive := by
  ext i
  rw [Finset.mem_sdiff, mem_occupied, mem_occupied, pid_reap]
  by_cases hdead : i ∈ r.deadSlots me alive <;> simp [hdead]

/-- The slots that were in use before and no longer are have been counted. -/
theorem card_occupied_sdiff_reap :
    (r.occupied \ (r.reap me alive).2.occupied).card = (r.reap me alive).1 := by
  rw [occupied_reap, Finset.sdiff_sdiff_eq_self (Consistent.deadSlots_subset r me alive), fst_reap]

end Reap

variable {r : Region} {me : Pid} {alive : Pid → Bool}

namespace Consistent

variable (h : r.Consistent) (me : Pid) (alive : Pid → Bool)

include h

/-- The number of processes goes down by the number of slots cleared. -/
theorem procNum_reap : (r.reap me alive).2.procNum = r.procNum - (r.reap me alive).1 := by
  have hsub := deadSlots_subset r me alive
  have hcard := Finset.card_le_card hsub
  rw [(h.reap me alive).procNum_eq, h.procNum_eq, occupied_reap,
    Finset.card_sdiff_of_subset hsub, fst_reap]
  omega

/-- Reaping leaves the mark one past the last slot in use. -/
theorem highWater_reap : (r.reap me alive).2.highWater = (r.reap me alive).2.occupiedEnd := by
  have hreap := h.reap me alive
  -- Both are the least position behind which all slots are free.
  have hend : ∀ n : Nat, (r.reap me alive).2.highWater ≤ n ↔
      (r.reap me alive).2.occupiedEnd ≤ n := by
    intro n
    rw [occupiedEnd_le_iff]
    refine ⟨fun hle i hn => hreap.free_of_highWater_le i (by omega), fun hfree => ?_⟩
    rw [reap_eq] at hfree ⊢
    exact highWater_trim_le_iff.2 fun i _ hn => hfree i hn
  obtain ⟨n, hn⟩ := Int.eq_ofNat_of_zero_le hreap.highWater_nonneg
  rw [hn]
  simp only [hn, Int.ofNat_le] at hend
  exact congrArg _ (eq_of_forall_ge_iff hend)

/-- No dead process has a slot any more. -/
theorem not_dead_reap (i : Fin maxProcesses) :
    isDeadSlot me alive ((r.reap me alive).2.slotAt i) = false := by
  rw [h.slotAt_reap]
  split
  next => rfl
  next hnot => simpa using hnot

variable {me alive} in
/-- Where no dead process has a slot and the mark stands one past the last slot in use, reaping
changes nothing. -/
theorem reap_eq_self (hliving : ∀ i, isDeadSlot me alive (r.slotAt i) = false)
    (hend : r.highWater = r.occupiedEnd) : r.reap me alive = (0, r) := by
  have hdead : r.deadSlots me alive = ∅ := by simp [deadSlots, hliving]
  have hsweep : r.sweep me alive = r := by
    rw [sweep, countP_scanned, ← deadSlots, hdead, if_pos Finset.card_empty]
  -- The slots are the same as before, and so is where the last one in use lies.
  have htrim := h.highWater_reap me alive
  rw [reap_eq, hdead, hsweep, Finset.card_empty] at htrim ⊢
  have hmark : (occupiedLength r.scanned : Int) = r.highWater := htrim.trans hend.symm
  rw [trim, hmark]

end Consistent

end Region

namespace Member

open Region

/-- Work that leaves a free lock as it finds it leaves the whole seat alone if it leaves the rest of
the region alone. -/
theorem locked_eq_self {α : Type} (m : Member) {body : Region → α × Region} {a : α} {s : Seat}
    (hpos : 0 < s.region.lock.count) (hcount : s.region.lock.count ≤ countMax)
    (howner : s.region.lock.owner = 0)
    (hbody : ∀ word, body { s.region with lock := word } = (a, { s.region with lock := word })) :
    m.locked body s = (a, s) := by
  -- The release undoes just what the acquisition did.
  have hpost : postCount (s.region.lock.count - 1) = s.region.lock.count := by
    rw [postCount_of_lt (by omega)]
    exact Nat.sub_add_cancel hpos
  have hword : (⟨s.region.lock.count, 0⟩ : LockWord) = s.region.lock := by rw [← howner]
  unfold locked
  rw [LockWord.acquire_of_pos m.pid m.alive m.settings.lock.retries hpos]
  dsimp only
  rw [hbody]
  dsimp only
  rw [LockWord.release, hpost, hword]
  rfl

/-- Clearing leaves every slot of a living process and of the member itself as it is, and all other
slots are free afterwards, with nothing charged and nothing observed. The slots cleared are counted,
the number of processes goes down by that, and the high-water mark stands one past the last slot in
use. Clearing again with the same processes alive finds nothing to clear and changes nothing. -/
theorem clearDead_exact (m : Member) {s : Seat} (hs : s.region.Consistent) :
    let cleared := (m.clearDead s).1
    let t := (m.clearDead s).2
    (∀ i, (s.region.slotAt i).pid = m.pid ∨ m.alive (s.region.slotAt i).pid →
      t.region.slotAt i = s.region.slotAt i) ∧
    (∀ i, ¬ ((s.region.slotAt i).pid = m.pid ∨ m.alive (s.region.slotAt i).pid) →
      (t.region.slotAt i).pid = 0 ∧ (t.region.slotAt i).IsBlank) ∧
    cleared = (s.region.occupied \ t.region.occupied).card ∧
    t.region.procNum = s.region.procNum - cleared ∧
    t.region.highWater = t.region.occupiedEnd ∧
    (m.clearDead t).1 = 0 ∧
    (∃ word, (m.clearDead t).2.region = { t.region with lock := word }) ∧
    (s.region.lock.count ≤ countMax → (m.clearDead t).2 = t) := by
  have hreap := hs.reap m.pid m.alive
  have hslot (i : Fin maxProcesses) : (s.region.reap m.pid m.alive).2.slotAt i =
      if isDeadSlot m.pid m.alive (s.region.slotAt i) then .empty else s.region.slotAt i :=
    hs.slotAt_reap i
  have hdead := hs.not_dead_reap m.pid m.alive
  have hprocs := hs.procNum_reap m.pid m.alive
  have hend := hs.highWater_reap m.pid m.alive
  have hfreed := s.region.card_occupied_sdiff_reap m.pid m.alive
  have hword (hcount : s.region.lock.count ≤ countMax) :
      (s.region.lock.acquire m.pid m.alive m.settings.lock.retries).word.count ≤ countMax :=
    LockWord.count_acquire_le m.settings.lock.retries hcount
  rw [m.clearDead_apply s]
  -- From here on it matters what reaping has made of the table, and not how.
  generalize s.region.reap m.pid m.alive = reaped at hreap hslot hdead hprocs hend hfreed ⊢
  generalize s.region.lock.acquire m.pid m.alive m.settings.lock.retries = attempt at hword ⊢
  intro cleared t
  have hagain : t.region.reap m.pid m.alive = (0, t.region) :=
    (hreap.setLock _).reap_eq_self hdead hend
  refine ⟨fun i hliving => ?_, fun i hother => ?_, hfreed.symm, hprocs, hend, ?_, ?_,
    fun hcount => ?_⟩
  · refine (hslot i).trans (if_neg ?_)
    rw [isDeadSlot_eq_false_of_living hliving]
    exact Bool.false_ne_true
  · -- The slot was free already, or its owner is dead.
    have hfree : (t.region.slotAt i).pid = 0 := by
      refine (congrArg Slot.pid (hslot i)).trans ?_
      split
      next => rfl
      next hnot =>
        obtain ⟨hne, hdead⟩ := not_or.1 hother
        by_contra hpid
        exact hnot ((isDeadSlot_iff _ _).2 ⟨hpid, hne, by simpa using hdead⟩)
    exact ⟨hfree, hreap.blank_of_free i hfree⟩
  · rw [m.clearDead_apply t, hagain]
  · rw [m.clearDead_apply t, hagain]
    exact ⟨_, rfl⟩
  · -- The first call has left the lock free, so the second one gives back what it takes.
    obtain ⟨hpos, hle⟩ := postCount_mem (hword hcount)
    have hself : m.clearDead t = (0, t) :=
      m.locked_eq_self hpos hle rfl fun word => by rw [reap_setLock, hagain]
    rw [hself]

/-- Three processes register, the first and the last one crash, and another process clears. -/
theorem clearDead_exact_after_crashes :
    ∃ (m : Member) (s : Seat) (i j : Fin maxProcesses),
      (s.region.slotAt i).pid = 9 ∧ m.alive 9 ∧ (s.region.slotAt j).pid = 10 ∧ ¬ m.alive 10 ∧
      (m.clearDead s).2.region.slotAt i = s.region.slotAt i ∧
      ((m.clearDead s).2.region.slotAt j).pid = 0 ∧ (m.clearDead (m.clearDead s).2).1 = 0 := by
  let all : Pid → Bool := fun _ => true
  let m : Member := ⟨7, .standard, (· == 9)⟩
  let i : Fin maxProcesses := ⟨1, by decide⟩
  let j : Fin maxProcesses := ⟨2, by decide⟩
  -- Three processes in a row, of which only the second one is alive afterwards.
  have h₁ := (Population.consistent_setUp .standard 0).register 8 all (show (8 : Pid) ≠ 0 by decide)
  have h₂ := h₁.register 9 all (show (9 : Pid) ≠ 0 by decide)
  have hc := h₂.register 10 all (show (10 : Pid) ≠ 0 by decide)
  generalize hr : (Region.register _ 10 all 10).2 = r at hc
  have hi : (r.slotAt i).pid = 9 := by rw [← hr]; decide +kernel
  have hj : (r.slotAt j).pid = 10 := by rw [← hr]; decide +kernel
  obtain ⟨hkept, hfreed, -, -, -, hagain, -⟩ := m.clearDead_exact (s := ⟨r, none, 0⟩) hc
  refine ⟨m, _, i, j, hi, rfl, hj, by decide, hkept i (.inr ?_), (hfreed j ?_).1, hagain⟩
  · rw [hi]
    rfl
  · rw [hj]
    decide

end Member

end GpuQuota
