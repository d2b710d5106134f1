import GpuQuota.Proofs.Work
import Mathlib.Logic.Relation

/-!
# Locks are given back

No operation takes a lock while it holds it, and none ends, refused or not, without giving back
what it took. So a process that finds both locks free never waits in vain, and leaves both free.

The module introduces:

* `Region.Unlocked` — both locks are free, and nobody is noted as the owner.
* `Seat.enduring_unlocked` — that endures the operations of a member, without an expired wait.
* `Work.locks_balanced` — whatever a process asks for gives its locks back.
* `Region.Worked`, `Region.Unlocked.of_worked` — and so does all that any processes ask for, one
  after the other.
-/

namespace GpuQuota

namespace Region

/-- Both locks of the region are free. -/
structure Unlocked (r : Region) : Prop where
  /-- The semaphore of the region lock stands at one. -/
  count_eq : r.lock.count = 1
  /-- Nobody owns the region lock. -/
  owner_eq : r.lock.owner = 0
  /-- The semaphore for host identities stands at one. -/
  postinit_eq : r.postinit = 1

/-- A free lock lets the next process pass. -/
theorem Unlocked.count_pos {r : Region} (h : r.Unlocked) : 0 < r.lock.count := by
  rw [h.count_eq]
  exact Nat.one_pos

/-- Whether the locks are free is a matter of the frame. -/
theorem Unlocked.congr {r r' : Region} (h : r.Unlocked) (hframe : r'.frame = r.frame) :
    r'.Unlocked where
  count_eq := (congrArg (·.lock.count) hframe).trans h.count_eq
  owner_eq := (congrArg (·.lock.owner) hframe).trans h.owner_eq
  postinit_eq := (congrArg (·.postinit) hframe).trans h.postinit_eq

/-- A lock that its taker gives back is free again. -/
theorem Unlocked.release {r r' : Region} (h : r.Unlocked) {me : Pid}
    (hframe : r'.frame = { r with lock := ⟨r.lock.count - 1, me⟩ }.frame) :
    { r' with lock := r'.lock.release }.Unlocked where
  count_eq := by
    have hcount : r'.lock.count = r.lock.count - 1 := congrArg (·.lock.count) hframe
    show postCount r'.lock.count = 1
    rw [hcount, h.count_eq]
    rfl
  owner_eq := rfl
  postinit_eq := (congrArg (·.postinit) hframe).trans h.postinit_eq

end Region

/-- Free locks are free again after every operation of a member, and no wait for them expires. -/
theorem Seat.enduring_unlocked (m : Member) (expired : Nat) :
    Enduring m fun s => s.region.Unlocked ∧ s.expired = expired where
  congr hs hframe hexpired := ⟨hs.1.congr hframe, hexpired.trans hs.2⟩
  locked hbody s hs := by
    obtain ⟨hfree, hexpired⟩ := hs
    -- A lock that is free is taken at the first attempt, and so no wait expires.
    have hattempt :=
      LockWord.acquire_of_pos m.pid m.alive m.settings.lock.retries hfree.count_pos
    unfold Member.locked
    rw [hattempt]
    exact ⟨hfree.release (hbody _), hexpired⟩
  tryLocked hbody s hs := by
    obtain ⟨hfree, hexpired⟩ := hs
    unfold Member.tryLocked
    rw [LockWord.tryAcquire, if_pos hfree.count_pos]
    exact ⟨hfree.release (hbody _), hexpired⟩
  passPostinit s hs := by
    obtain ⟨hfree, hexpired⟩ := hs
    have hpos : 0 < s.region.postinit := by
      rw [hfree.postinit_eq]
      exact Nat.one_pos
    have htake : m.takePostinit s =
        (true, { s with region := { s.region with postinit := s.region.postinit - 1 } }) :=
      if_pos hpos
    have hpass : (m.passPostinit s).2 =
        { s with region := { s.region with postinit := postCount (s.region.postinit - 1) } } := by
      show (StateT.bind m.takePostinit _ s).2 = _
      simp only [StateT.bind, htake]
      rfl
    rw [hpass, hfree.postinit_eq]
    exact ⟨⟨hfree.count_eq, hfree.owner_eq, rfl⟩, hexpired⟩

section

variable {σ μ : Type} [DeviceDriver σ] [Management μ]

/-- A process that finds both locks free leaves them free, whatever it asks for, whichever processes
it takes for alive, and whatever the driver and the management interface answer; and none of its
timed waits expires. -/
theorem Work.locks_balanced (m : Member) (work : Work) (w : Worker σ μ)
    (hfree : w.seat.region.Unlocked) :
    (work.run m w).seat.region.Unlocked ∧ (work.run m w).seat.expired = w.seat.expired :=
  work.run_keeps (Seat.enduring_unlocked m w.seat.expired) ⟨hfree, rfl⟩

end

/-- A process has died in its slot. Another one registers and in doing so reaps that slot, all of it
under the lock of the region. A registered process looks for its host identity and at the devices,
for which it takes both locks. -/
theorem Work.locks_balanced_of_crash :
    ∃ (m : Member) (w w' : Worker SimulatedDevice SimulatedHost) (i j : Fin maxProcesses),
      let registered := Work.registerSelf.run m w
      let looked := (Work.look fun _ => some 70).run m w'
      w.seat.region.Unlocked ∧
      (w.seat.region.slotAt i).pid = 7 ∧ m.alive 7 = false ∧
      (registered.seat.region.slotAt i).pid = 0 ∧ (registered.seat.region.slotAt j).pid = 8 ∧
      registered.seat.region.Unlocked ∧ registered.seat.expired = w.seat.expired ∧
      w'.seat.region.Unlocked ∧ (looked.seat.region.slotAt i).hostPid = 70 ∧
      looked.seat.region.Unlocked ∧ looked.seat.expired = w'.seat.expired := by
  let m : Member := ⟨8, .standard, (· != 7)⟩
  -- Whoever works finds one process in the table: the one that died, or the member itself.
  let worker (pid : Pid) : Worker SimulatedDevice SimulatedHost :=
    { seat := { region := ((Region.zero.setUp .standard 0).register pid (fun _ => true) pid).2 }
      holdings := {}
      limiter := .startingAt 0
      watcher := { map := .identity 1, attempts := 1 }
      driver := {}
      host := { deviceCount := 1 } }
  have hfree : (worker 7).seat.region.Unlocked := by
    refine ⟨?_, ?_, ?_⟩
    all_goals decide +kernel
  have hfree' : (worker 8).seat.region.Unlocked := by
    refine ⟨?_, ?_, ?_⟩
    all_goals decide +kernel
  obtain ⟨hregistered, hexpired⟩ := locks_balanced m .registerSelf (worker 7) hfree
  obtain ⟨hlooked, hexpired'⟩ := locks_balanced m (.look fun _ => some 70) (worker 8) hfree'
  refine ⟨m, worker 7, worker 8, ⟨0, by decide⟩, ⟨1, by decide⟩, hfree, ?_, by decide, ?_, ?_,
    hregistered, hexpired, hfree', ?_, hlooked, hexpired'⟩
  all_goals decide +kernel

/-- One process has worked on the region, with whatever driver and management interface. -/
inductive Region.Worked : Region → Region → Prop
  | work {σ μ : Type} [DeviceDriver σ] [Management μ] (m : Member) (work : Work) (w : Worker σ μ) :
    Worked w.seat.region (work.run m w).seat.region

/-- Free locks are free again after any processes have worked on the region one after the other. -/
theorem Region.Unlocked.of_worked {r r' : Region} (h : r.Unlocked)
    (hworked : Relation.ReflTransGen Worked r r') : r'.Unlocked := by
  induction hworked with
  | refl => exact h
  | tail _ hstep ih =>
    obtain ⟨m, work, w⟩ := hstep
    exact (work.run_keeps (Seat.enduring_unlocked m w.seat.expired) ⟨ih, rfl⟩).1

end GpuQuota
