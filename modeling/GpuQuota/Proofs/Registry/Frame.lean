import GpuQuota.Limiter
import GpuQuota.Proofs.Registry.Look

/-!
# What work on the table leaves alone

Whatever is done to the table while the lock is held leaves the rest of the region as it is: the
setup flag, the version, the limits, and the lock words themselves. So a property that looks at the
rest only, and that outlasts the taking and giving back of the locks, outlasts every operation of a
member and every look of its watcher, with any arguments.

The module introduces:

* `Region.offTable`, `Region.frame` — the region without its table, and also without its notes of
  launches.
* `Region.offTable_register`, `Region.frame_register` and their kind — both after work on the table.
* `Seat.Enduring` — a property of seats that looks at the frame and outlasts the locks.
* `Seat.Enduring.register`, `.addUsage` and their kind — every operation of a member keeps it.
* `Limiter.launch_eq` — what a launch changes.
-/

namespace GpuQuota

namespace Region

/-- The region without its table. -/
def offTable (r : Region) : Region :=
  { r with
    slots := .replicate _ .empty
    procNum := 0
    highWater := 0 }

/-- The region without its table, the throttling switch and the notes of launches. -/
def frame (r : Region) : Region :=
  { r with
    slots := .replicate _ .empty
    procNum := 0
    highWater := 0
    switch := 0
    recentKernel := 0
    lastKernel := 0 }

/-! ## The table -/

variable (r : Region) (me pid : Pid) (alive : Pid → Bool)

@[simp] theorem offTable_modifySlot (i : Nat) (f : Slot → Slot) :
    (r.modifySlot i f).offTable = r.offTable := by
  unfold modifySlot
  split <;> rfl

@[simp] theorem offTable_reap : (r.reap me alive).2.offTable = r.offTable := by
  unfold reap
  dsimp only
  split <;> rfl

/-- Taking a slot concerns the table only. -/
theorem offTable_occupy {n : Nat} {r r' : Region} (h : r.occupy pid = some (n, r')) :
    r'.offTable = r.offTable := by
  unfold occupy at h
  dsimp only at h
  split at h
  next =>
    cases h
    exact r.offTable_modifySlot _ _
  next => cases h

@[simp] theorem offTable_claim : (r.claim me alive pid).2.offTable = r.offTable := by
  unfold claim
  split
  next => exact r.offTable_modifySlot _ _
  next =>
    split
    next h => exact offTable_occupy pid h
    next =>
      dsimp only
      split
      next => exact r.offTable_reap me alive
      next =>
        split
        next h => exact (offTable_occupy pid h).trans (r.offTable_reap me alive)
        next => exact r.offTable_reap me alive

@[simp] theorem offTable_register : (r.register me alive pid).2.offTable = r.offTable := by
  have hclaim := r.offTable_claim me pid alive
  unfold register
  -- A process that finds no slot has reaped the dead ones, and one that finds one has been given
  -- it.
  split
  next heq =>
    rw [heq] at hclaim
    exact (offTable_reap _ me alive).trans hclaim
  next heq =>
    rw [heq] at hclaim
    exact hclaim

@[simp] theorem offTable_unregister : (r.unregister pid).2.offTable = r.offTable := by
  unfold unregister
  split
  next => exact r.offTable_modifySlot _ _
  next => rfl

@[simp] theorem offTable_resetObserved : r.resetObserved.offTable = r.offTable := rfl

/-- The frame is part of what is left without the table. -/
theorem frame_congr {r r' : Region} (h : r'.offTable = r.offTable) : r'.frame = r.frame := by
  have hframe : r'.offTable.frame = r.offTable.frame := congrArg frame h
  exact hframe

@[simp] theorem frame_modifySlot (i : Nat) (f : Slot → Slot) :
    (r.modifySlot i f).frame = r.frame := frame_congr (r.offTable_modifySlot i f)

@[simp] theorem frame_reap : (r.reap me alive).2.frame = r.frame :=
  frame_congr (r.offTable_reap me alive)

@[simp] theorem frame_register : (r.register me alive pid).2.frame = r.frame :=
  frame_congr (r.offTable_register me pid alive)

@[simp] theorem frame_unregister : (r.unregister pid).2.frame = r.frame :=
  frame_congr (r.offTable_unregister pid)

@[simp] theorem frame_resetObserved : r.resetObserved.frame = r.frame := rfl

/-- No observation changes the frame. -/
theorem outlastsObserving_frame (f : Region) : OutlastsObserving fun r => r.frame = f :=
  fun r _ _ _ _ _ hr => (r.frame_modifySlot _ _).trans hr

end Region

/-! ## Members -/

namespace Seat

/-- A property of seats that outlasts work on the table and the taking and giving back of locks. -/
structure Enduring (m : Member) (P : Seat → Prop) : Prop where
  /-- It looks at the frame and at the waits that expired. -/
  congr : ∀ {s s' : Seat}, P s → s'.region.frame = s.region.frame → s'.expired = s.expired → P s'
  locked : ∀ {α : Type} {body : Region → α × Region}, (∀ r, (body r).2.frame = r.frame) →
    Keeps P (m.locked body)
  tryLocked : ∀ {α : Type} {body : Region → α × Region}, (∀ r, (body r).2.frame = r.frame) →
    Keeps P (m.tryLocked body)
  passPostinit : Keeps P m.passPostinit

namespace Enduring

variable {m : Member} {P : Seat → Prop} (h : Enduring m P)

include h

/-- Registering a process keeps the property, as it works on the table under the lock. -/
theorem register (pid : Pid) : Keeps P (m.register pid) := by
  have hlocked := h.locked fun r => r.frame_register m.pid pid m.alive
  refine Keeps.bind_except hlocked.lift fun i? => ?_
  cases i? with
  | some i => exact keeps_pure _
  | none => exact keeps_throw _

/-- Remembering an index changes neither the region nor the waits. -/
theorem remember (n : Option Nat) :
    Keeps P (modify fun s => { s with remembered := n } : SeatM Unit) :=
  keeps_modify fun _ hs => h.congr hs rfl rfl

/-- So does registering itself, which remembers an index beside. -/
theorem registerSelf : Keeps P m.registerSelf := by
  refine Keeps.bind_except (h.register m.pid) fun i => ?_
  exact Keeps.bind_except (h.remember (some i)).lift fun _ => keeps_pure _

/-- So does clearing the slots of dead processes. -/
theorem clearDead : Keeps P m.clearDead := h.locked fun r => r.frame_reap m.pid m.alive

/-- So does giving the own slot back, which only tries to take the lock. -/
theorem removeSelf : Keeps P m.removeSelf := by
  refine Keeps.bind (h.tryLocked fun r => r.frame_unregister m.pid) fun had? => ?_
  cases had? with
  | none => exact keeps_pure _
  | some had => exact Keeps.bind (h.remember none) fun _ => keeps_pure _

/-- So does forgetting what was observed. -/
theorem resetObserved : Keeps P m.resetObserved := h.locked fun r => r.frame_resetObserved

/-- A change of one slot keeps the property without any lock. -/
theorem modifySlot (i : Nat) (f : Slot → Slot) : Keeps P (Seat.modifySlot i f) :=
  keeps_modify fun s hs => h.congr hs (s.region.frame_modifySlot i f) rfl

/-- Looking for the own slot changes at most the index remembered. -/
theorem mySlot? : Keeps P m.mySlot? := by
  intro s hs
  rw [m.mySlot?_apply]
  split
  next => exact h.congr hs rfl rfl
  next => exact hs

/-- Looking for the slot of another process changes no more. -/
theorem slotOf? (pid : Pid) : Keeps P (m.slotOf? pid) := by
  intro s hs
  rw [m.slotOf?_apply]
  split
  next => exact hs
  next =>
    split
    next => exact h.mySlot? s hs
    next => exact hs

/-- Nor does it where a missing slot is refused. -/
theorem mySlot : Keeps P m.mySlot := by
  refine Keeps.bind_except h.mySlot?.lift fun i? => ?_
  cases i? with
  | some i => exact keeps_pure _
  | none => exact keeps_throw _

/-- Nor does it for another process where a missing slot is refused. -/
theorem slotOf (pid : Pid) : Keeps P (m.slotOf pid) := by
  refine Keeps.bind_except (h.slotOf? pid).lift fun i? => ?_
  cases i? with
  | some i => exact keeps_pure _
  | none => exact keeps_throw _

/-- Noting a host identity changes one slot at most. -/
theorem setHostPid (hostPid : Pid) : Keeps P (m.setHostPid hostPid) :=
  Keeps.bind_except h.mySlot fun i => (h.modifySlot i _).lift

/-- Storing a status changes one slot at most. -/
theorem setStatus (status : ProcStatus) : Keeps P (m.setStatus status) :=
  Keeps.bind_except h.mySlot fun i => (h.modifySlot i _).lift

theorem status? : Keeps P m.status? :=
  Keeps.bind h.mySlot? fun _ => Keeps.bind keeps_get fun _ => keeps_pure _

/-! ## Charges and observations -/

/-- Charging changes one slot at most. -/
theorem addUsage (pid : Pid) (dev : Nat) (bytes : UInt64) (kind : UsageKind) :
    Keeps P (m.addUsage pid dev bytes kind) :=
  Keeps.bind_except (Member.keeps_refuse _ _) fun _ =>
    Keeps.bind_except (h.slotOf pid) fun i => (h.modifySlot i _).lift

/-- Taking back a charge changes one slot at most. -/
theorem removeUsage (pid : Pid) (dev : Nat) (bytes : UInt64) (kind : UsageKind) :
    Keeps P (m.removeUsage pid dev bytes kind) :=
  Keeps.bind_except (Member.keeps_refuse _ _) fun _ =>
    Keeps.bind_except (h.slotOf pid) fun i => (h.modifySlot i _).lift

/-- Reading the usage of a process changes at most the index remembered. -/
theorem slotUsage (pid : Pid) (dev : Nat) : Keeps P (m.slotUsage pid dev) :=
  Keeps.bind_except (Member.keeps_refuse _ _) fun _ =>
    Keeps.bind_except (h.slotOf? pid).lift fun _ =>
      Keeps.bind_except keeps_get.lift fun _ => keeps_pure _

/-- Summing up the memory observed changes at most the index remembered. -/
theorem monitorSum (dev : Nat) : Keeps P (m.monitorSum dev) :=
  Keeps.bind_except (Member.keeps_refuse _ _) fun _ => (h.locked fun _ => rfl).lift

/-- Storing the memory observed changes one slot at most. -/
theorem setMonitor (hostPid : Pid) (dev : Nat) (bytes : UInt64) :
    Keeps P (m.setMonitor hostPid dev bytes) := by
  refine Keeps.bind_except (Member.keeps_refuse _ _) fun d => (h.locked fun r => ?_).lift
  exact Member.keeps_observe (Region.outlastsObserving_frame r.frame) hostPid d (fun _ => rfl) rfl

/-- Storing the share observed changes one slot at most. -/
theorem setCompute (hostPid : Pid) (dev : Nat) (share : UInt64) :
    Keeps P (Member.setCompute hostPid dev share) := by
  refine Keeps.bind_except (Member.keeps_refuse _ _) fun d s hs => ?_
  have hframe := Member.keeps_observe (f := ({ · with compute := share }))
    (Region.outlastsObserving_frame s.region.frame) hostPid d (fun _ => rfl) rfl
  exact h.congr hs hframe rfl

/-! ## Limiters and watchers -/

/-- A launch is noted outside the table and outside the frame. -/
theorem noteLaunch (l : Limiter) (now : UInt64) : Keeps P (l.noteLaunch m now) := by
  unfold Limiter.noteLaunch
  split
  next => exact keeps_pure _
  next => exact Keeps.bind (h.locked fun _ => rfl) fun _ => keeps_pure _

/-- The operations of a look are among those of a member. -/
theorem bearableByWatcher : Watch.Bearable m P where
  passPostinit := h.passPostinit
  mySlot? := h.mySlot?
  setHostPid := h.setHostPid
  resetObserved := h.resetObserved
  observeAll map count host := h.locked fun r =>
    Watch.keeps_observeAll (Region.outlastsObserving_frame r.frame) map count host rfl

end Enduring

end Seat

/-! ## Launches -/

namespace Limiter

variable {l paid : Limiter} {m : Member} {r : Region} {grid : UInt64}

/-- A launch is paid for with tokens only. -/
theorem pay_eq (h : l.pay m r grid = some paid) : ∃ tokens, paid = { l with tokens } := by
  rw [pay] at h
  split at h
  next =>
    obtain ⟨tokens, -, rfl⟩ := Option.map_eq_some_iff.1 h
    exact ⟨tokens, rfl⟩
  next =>
    cases h
    exact ⟨l.tokens, rfl⟩

/-- A launch changes the bucket and the gate only. -/
theorem launch_eq (l : Limiter) (m : Member) (r : Region) (grid : UInt64) (relief : Relief) :
    ∃ tokens recentKernel,
      (l.launch m r grid relief).2 = ({ l with tokens }, { r with recentKernel }) := by
  unfold launch
  dsimp only
  split
  next => exact ⟨l.tokens, r.recentKernel, rfl⟩
  next =>
    split
    next paid hpaid =>
      obtain ⟨tokens, rfl⟩ := pay_eq hpaid
      exact ⟨tokens, 2, rfl⟩
    next =>
      split
      next paid hpaid =>
        -- The launch waited for a credit, out of which it is paid for.
        obtain ⟨amount, -, hpaid⟩ := Option.bind_eq_some_iff.1 hpaid
        obtain ⟨tokens, rfl⟩ := pay_eq hpaid
        exact ⟨tokens, 2, rfl⟩
      next => exact ⟨l.tokens, r.recentKernel, rfl⟩

/-- A launch leaves the frame alone. -/
theorem frame_launch (l : Limiter) (m : Member) (r : Region) (grid : UInt64) (relief : Relief) :
    (l.launch m r grid relief).2.2.frame = r.frame := by
  obtain ⟨tokens, recentKernel, hlaunch⟩ := l.launch_eq m r grid relief
  rw [hlaunch]
  rfl

end Limiter

end GpuQuota
