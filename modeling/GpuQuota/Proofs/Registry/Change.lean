import GpuQuota.Proofs.Registry.Look

/-!
# Changes of the table

Whatever members and watchers do to a region is made of a few kinds of changes. A property of the
region that no such change destroys is therefore kept by every operation, which is shown here once
for all properties.

The module introduces:

* `Region.Change` — one change of the region.
* `Region.Stable` — a property that no change destroys.
* `Member.keeps_register`, `Member.keeps_addUsage` and their kind — the operations of a member.
* `Watch.keeps_look` — one whole look of a watcher.
* `Region.stable_forall_slotAt`, `Region.stable_consistent` — properties of single slots and the
  consistency of the table are stable.
-/

namespace GpuQuota

/-- One change that an operation makes to the region. Slots are changed in place only while they
belong to a process. -/
inductive Region.Change (r : Region) : Region → Prop
  /-- The lock is taken or given back. -/
  | lock (word : LockWord) : Change r { r with lock := word }
  /-- The semaphore for host identities is taken or given back. -/
  | postinit (count : Nat) : Change r { r with postinit := count }
  /-- Slots of dead processes are cleared. -/
  | reap (me : Pid) (alive : Pid → Bool) : Change r (r.reap me alive).2
  /-- A process is registered. -/
  | register (me : Pid) (alive : Pid → Bool) (pid : Pid) (hpid : pid ≠ 0) :
    Change r (r.register me alive pid).2
  /-- A process gives its slot back. -/
  | unregister (pid : Pid) (hpid : pid ≠ 0) : Change r (r.unregister pid).2
  /-- What was observed is forgotten. -/
  | resetObserved : Change r r.resetObserved
  /-- A process is charged. -/
  | addUsage (i : Fin maxProcesses) (hi : (r.slotAt i).pid ≠ 0) (d : DeviceIndex)
    (kind : UsageKind) (bytes : UInt64) : Change r (r.modifySlot i (·.addUsage d kind bytes))
  /-- A charge is taken back. -/
  | removeUsage (i : Fin maxProcesses) (hi : (r.slotAt i).pid ≠ 0) (d : DeviceIndex)
    (kind : UsageKind) (bytes : UInt64) : Change r (r.modifySlot i (·.removeUsage d kind bytes))
  /-- A host identity is noted. -/
  | setHostPid (i : Fin maxProcesses) (hi : (r.slotAt i).pid ≠ 0) (hostPid : Pid) :
    Change r (r.modifySlot i (·.setHostPid hostPid))
  /-- A status is stored. -/
  | setStatus (i : Fin maxProcesses) (hi : (r.slotAt i).pid ≠ 0) (status : ProcStatus) :
    Change r (r.modifySlot i (·.setStatus status))
  /-- Something is observed of a process on a device. -/
  | observe (i : Fin maxProcesses) (hi : (r.slotAt i).pid ≠ 0) (d : DeviceIndex)
    (f : DeviceRecord → DeviceRecord) (hf : ∀ x, (f x).usage = x.usage) :
    Change r (r.modifySlot i (·.modifyDevice d f))

/-- No change destroys the property. -/
def Region.Stable (Q : Region → Prop) : Prop := ∀ r r', Region.Change r r' → Q r → Q r'

/-- An observation is one of the changes. -/
theorem Region.Stable.outlastsObserving {Q : Region → Prop} (hQ : Stable Q) : OutlastsObserving Q :=
  fun _ i hi d f hf hr => hQ _ _ (.observe i hi d f hf) hr

section

variable {Q : Region → Prop} (hQ : Region.Stable Q)

include hQ

/-! ## The operations of a member -/

namespace Member

variable (m : Member)

/-- Work under the lock keeps what the work itself keeps. -/
theorem keeps_locked {α : Type} {body : Region → α × Region} (hbody : ∀ r, Q r → Q (body r).2) :
    Keeps (fun s => Q s.region) (m.locked body) := by
  intro s hs
  -- The lock is taken, the work is done, and the lock is given back.
  let attempt := s.region.lock.acquire m.pid m.alive m.settings.lock.retries
  have hr := hbody _ (hQ _ _ (.lock attempt.word) hs)
  exact hQ _ _ (.lock _) hr

/-- Work under the lock, if it is free in time, keeps what the work itself keeps. -/
theorem keeps_tryLocked {α : Type} {body : Region → α × Region}
    (hbody : ∀ r, Q r → Q (body r).2) : Keeps (fun s => Q s.region) (m.tryLocked body) := by
  intro s hs
  unfold tryLocked
  split
  next => exact hs
  next word _ =>
    have hr := hbody _ (hQ _ _ (.lock word) hs)
    exact hQ _ _ (.lock _) hr

/-- Registering a process keeps a stable property. -/
theorem keeps_register {pid : Pid} (hpid : pid ≠ 0) :
    Keeps (fun s => Q s.region) (m.register pid) := by
  have hlocked := m.keeps_locked hQ fun r hr => hQ _ _ (.register m.pid m.alive pid hpid) hr
  refine Keeps.bind_except hlocked.lift fun i? => ?_
  cases i? with
  | some i => exact keeps_pure _
  | none => exact keeps_throw _

/-- So does registering itself. -/
theorem keeps_registerSelf (hm : m.pid ≠ 0) : Keeps (fun s => Q s.region) m.registerSelf := by
  refine Keeps.bind_except (m.keeps_register hQ hm) fun i => ?_
  exact Keeps.bind_except (keeps_modify fun s hs => hs) fun _ => keeps_pure _

/-- So does clearing the slots of dead processes. -/
theorem keeps_clearDead : Keeps (fun s => Q s.region) m.clearDead :=
  m.keeps_locked hQ fun _ hr => hQ _ _ (.reap m.pid m.alive) hr

/-- So does giving the own slot back, whether or not the lock could be had. -/
theorem keeps_removeSelf (hm : m.pid ≠ 0) : Keeps (fun s => Q s.region) m.removeSelf := by
  have htry := m.keeps_tryLocked hQ fun r hr => hQ _ _ (.unregister m.pid hm) hr
  refine Keeps.bind htry fun had? => ?_
  cases had? with
  | none => exact keeps_pure _
  | some had => exact Keeps.bind (keeps_modify fun s hs => hs) fun _ => keeps_pure _

/-- So does forgetting what was observed. -/
theorem keeps_resetObserved : Keeps (fun s => Q s.region) m.resetObserved :=
  m.keeps_locked hQ fun _ hr => hQ _ _ .resetObserved hr

omit hQ in
/-- Looking for the own slot changes nothing of the region. -/
theorem keeps_mySlot? : Keeps (fun s => Q s.region) m.mySlot? := by
  intro s hs
  rwa [m.region_mySlot? s]

omit hQ in
/-- Nor does looking for the slot of another process. -/
theorem keeps_slotOf? (pid : Pid) : Keeps (fun s => Q s.region) (m.slotOf? pid) := by
  intro s hs
  rwa [m.region_slotOf? pid s]

/-- Changing the slot that was found, if one was, in a way that is one of the changes. -/
private theorem keeps_modifyFound {found : Option Nat × Seat} {e : RegionError} {f : Slot → Slot}
    (hs : Q found.2.region)
    (hfound : ∀ n, found.1 = some n →
      ∃ i : Fin maxProcesses, i.val = n ∧ (found.2.region.slotAt i).pid ≠ 0)
    (hf : ∀ r (i : Fin maxProcesses), (r.slotAt i).pid ≠ 0 → Region.Change r (r.modifySlot i f)) :
    Q (match found with
      | (some n, t) => (Except.ok (), { t with region := t.region.modifySlot n f })
      | (none, t) => (.error e, t)).2.region := by
  rcases found with ⟨_ | n, t⟩
  · exact hs
  · obtain ⟨i, rfl, hi⟩ := hfound n rfl
    exact hQ _ _ (hf t.region i hi) hs

omit hQ in
/-- The own slot that is found is in use. -/
private theorem found_mySlot? (hm : m.pid ≠ 0) (s : Seat) (n : Nat)
    (h : (m.mySlot? s).1 = some n) :
    ∃ i : Fin maxProcesses, i.val = n ∧ ((m.mySlot? s).2.region.slotAt i).pid ≠ 0 := by
  obtain ⟨i, hin, hi⟩ := pid_mySlot? h
  exact ⟨i, hin, by rwa [m.region_mySlot? s, hi]⟩

omit hQ in
/-- So is the slot found for another process. -/
private theorem found_slotOf? (pid : Pid) (s : Seat) (n : Nat)
    (h : (m.slotOf? pid s).1 = some n) :
    ∃ i : Fin maxProcesses, i.val = n ∧ ((m.slotOf? pid s).2.region.slotAt i).pid ≠ 0 := by
  obtain ⟨hpid, i, hin, hi⟩ := pid_slotOf? h
  exact ⟨i, hin, by rwa [m.region_slotOf? pid s, hi]⟩

/-- Noting the own host identity keeps a stable property, since the slot is in use. -/
theorem keeps_setHostPid (hm : m.pid ≠ 0) (hostPid : Pid) :
    Keeps (fun s => Q s.region) (m.setHostPid hostPid) := by
  intro s hs
  rw [m.setHostPid_apply]
  exact keeps_modifyFound hQ (m.keeps_mySlot? s hs) (m.found_mySlot? hm s)
    fun r i hi => .setHostPid i hi hostPid

/-- So does storing the own status. -/
theorem keeps_setStatus (hm : m.pid ≠ 0) (status : ProcStatus) :
    Keeps (fun s => Q s.region) (m.setStatus status) := by
  intro s hs
  rw [m.setStatus_apply]
  exact keeps_modifyFound hQ (m.keeps_mySlot? s hs) (m.found_mySlot? hm s)
    fun r i hi => .setStatus i hi status

/-- So does charging a process. -/
theorem keeps_addUsage (pid : Pid) (dev : Nat) (bytes : UInt64) (kind : UsageKind) :
    Keeps (fun s => Q s.region) (m.addUsage pid dev bytes kind) := by
  intro s hs
  rw [m.addUsage_apply]
  cases device? dev with
  | error e => exact hs
  | ok d =>
    exact keeps_modifyFound hQ (m.keeps_slotOf? pid s hs) (m.found_slotOf? pid s)
      fun r i hi => .addUsage i hi d kind bytes

/-- So does taking a charge back. -/
theorem keeps_removeUsage (pid : Pid) (dev : Nat) (bytes : UInt64) (kind : UsageKind) :
    Keeps (fun s => Q s.region) (m.removeUsage pid dev bytes kind) := by
  intro s hs
  rw [m.removeUsage_apply]
  cases device? dev with
  | error e => exact hs
  | ok d =>
    exact keeps_modifyFound hQ (m.keeps_slotOf? pid s hs) (m.found_slotOf? pid s)
      fun r i hi => .removeUsage i hi d kind bytes

/-- So does storing the memory observed of a process. -/
theorem keeps_setMonitor (hostPid : Pid) (dev : Nat) (bytes : UInt64) :
    Keeps (fun s => Q s.region) (m.setMonitor hostPid dev bytes) := by
  refine Keeps.bind_except (keeps_refuse _ _) fun d => ?_
  have hobserve : ∀ r, Q r → Q (observe r hostPid d ({ · with monitor := bytes })).2 :=
    fun r hr => keeps_observe hQ.outlastsObserving hostPid d (fun _ => rfl) hr
  exact (m.keeps_locked hQ hobserve).lift

/-- So does storing the share observed of a process, although that takes no lock. -/
theorem keeps_setCompute (hostPid : Pid) (dev : Nat) (share : UInt64) :
    Keeps (fun s => Q s.region) (setCompute hostPid dev share) := by
  refine Keeps.bind_except (keeps_refuse _ _) fun d => ?_
  intro s hs
  exact keeps_observe hQ.outlastsObserving hostPid d (fun _ => rfl) hs

/-- So does passing the second lock. -/
theorem keeps_passPostinit : Keeps (fun s => Q s.region) m.passPostinit := by
  intro s hs
  obtain ⟨postinit, expired, hpass⟩ := m.passPostinit_apply s
  rw [hpass]
  exact hQ _ _ (.postinit postinit) hs

end Member

/-- A whole look changes the region in the ways listed and in no other. -/
theorem Watch.keeps_look {σ μ : Type} [DeviceDriver σ] [Management μ] (m : Member)
    (hm : m.pid ≠ 0) (resolve : Pid → Option Pid) :
    Keeps (fun w : Watch σ μ => Q w.seat.region) (look m resolve) := by
  have hbearable : Bearable m fun s => Q s.region :=
    { passPostinit := m.keeps_passPostinit hQ
      mySlot? := m.keeps_mySlot?
      setHostPid := m.keeps_setHostPid hQ hm
      resetObserved := m.keeps_resetObserved hQ
      observeAll := fun map count host =>
        m.keeps_locked hQ fun _ hr => keeps_observeAll hQ.outlastsObserving map count host hr }
  exact hbearable.look resolve

end

/-! ## Stable properties -/

section SlotWise

variable {φ : Slot → Prop} {r : Region}

/-- A change that keeps the property of each slot keeps it of the changed one. -/
private theorem forall_modifySlot (hr : ∀ i, φ (r.slotAt i)) (i : Fin maxProcesses)
    {f : Slot → Slot} (hf : ∀ s, φ s → φ (f s)) (j : Fin maxProcesses) :
    φ ((r.modifySlot i f).slotAt j) := by
  rw [Region.slotAt_modifySlot]
  split
  next => exact hf _ (hr i)
  next => exact hr j

/-- Reaping leaves only slots that were there and empty ones. -/
private theorem forall_reap (hempty : φ .empty) (hr : ∀ i, φ (r.slotAt i)) (me : Pid)
    (alive : Pid → Bool) (i : Fin maxProcesses) : φ ((r.reap me alive).2.slotAt i) := by
  have hslot := Region.slotAt_sweep r me alive i
  rw [Region.reap_eq]
  show φ ((r.sweep me alive).slotAt i)
  rw [hslot]
  split
  next => exact hempty
  next => exact hr i

/-- Taking a free slot puts in place one that was reset. -/
private theorem forall_occupy (hreset : ∀ s pid, φ (Slot.resetFor s pid))
    (hr : ∀ i, φ (r.slotAt i)) {pid : Pid} {n : Nat} {r' : Region}
    (ho : r.occupy pid = some (n, r')) (i : Fin maxProcesses) : φ (r'.slotAt i) := by
  unfold Region.occupy at ho
  dsimp only at ho
  split at ho
  next hlt =>
    obtain ⟨-, rfl⟩ := Prod.mk.inj (Option.some.inj ho)
    exact forall_modifySlot hr ⟨_, hlt⟩ (fun s _ => hreset s pid) i
  next => cases ho

/-- Claiming a slot resets one, if it finds any, after reaping or before. -/
private theorem forall_claim (hempty : φ .empty) (hreset : ∀ s pid, φ (Slot.resetFor s pid))
    (hr : ∀ i, φ (r.slotAt i)) (me : Pid) (alive : Pid → Bool) (pid : Pid)
    (i : Fin maxProcesses) : φ ((r.claim me alive pid).2.slotAt i) := by
  rw [Region.claim]
  -- The process has a slot, or there is a free one, or one is free after the dead were reaped.
  split
  next n hfind =>
    obtain ⟨j, rfl, -⟩ := Region.findSlot?_eq_some hfind
    exact forall_modifySlot hr j (fun s _ => hreset s pid) i
  next =>
    split
    next ho => exact forall_occupy hreset hr ho i
    next =>
      have hreap := forall_reap hempty hr me alive
      dsimp only
      split
      next => exact hreap i
      next =>
        split
        next ho => exact forall_occupy hreset hreap ho i
        next => exact hreap i

/-- A property of single slots is stable if cleared slots and slots handed out have it and if no
change in place destroys it. -/
theorem Region.stable_forall_slotAt (hempty : φ .empty) (hreset : ∀ s pid, φ (Slot.resetFor s pid))
    (hadd : ∀ s d kind bytes, φ s → φ (s.addUsage d kind bytes))
    (hremove : ∀ s d kind bytes, φ s → φ (s.removeUsage d kind bytes))
    (hhost : ∀ s hostPid, φ s → φ (s.setHostPid hostPid))
    (hstatus : ∀ s status, φ s → φ (s.setStatus status))
    (hobserve : ∀ s d f, (∀ x : DeviceRecord, (f x).usage = x.usage) → φ s →
      φ (s.modifyDevice d f))
    (hforget : ∀ s, φ s → φ s.resetObserved) : Stable fun r => ∀ i, φ (r.slotAt i) := by
  intro r r' hchange hr i
  cases hchange with
  | lock word => exact hr i
  | postinit count => exact hr i
  | reap me alive => exact forall_reap hempty hr me alive i
  | register me alive pid hpid =>
    -- After a slot was claimed the dead are reaped.
    have hclaim := forall_claim hempty hreset hr me alive pid
    rw [register]
    split
    next heq =>
      rw [heq] at hclaim
      exact forall_reap hempty hclaim me alive i
    next heq =>
      rw [heq] at hclaim
      exact hclaim i
  | unregister pid hpid =>
    rw [unregister]
    split
    next n hfind =>
      obtain ⟨j, rfl, -⟩ := findSlot?_eq_some hfind
      exact forall_modifySlot hr j (fun _ _ => hempty) i
    next => exact hr i
  | resetObserved =>
    rw [slotAt_resetObserved]
    split
    next => exact hforget _ (hr i)
    next => exact hr i
  | addUsage j hj d kind bytes => exact forall_modifySlot hr j (fun s => hadd s d kind bytes) i
  | removeUsage j hj d kind bytes =>
    exact forall_modifySlot hr j (fun s => hremove s d kind bytes) i
  | setHostPid j hj hostPid => exact forall_modifySlot hr j (fun s => hhost s hostPid) i
  | setStatus j hj status => exact forall_modifySlot hr j (fun s => hstatus s status) i
  | observe j hj d f hf => exact forall_modifySlot hr j (fun s => hobserve s d f hf) i

end SlotWise

/-- No change destroys the consistency of the table. -/
theorem Region.stable_consistent : Stable Consistent := by
  intro r r' hchange h
  cases hchange with
  | lock word => exact h.setLock word
  | postinit count => exact h.congr (fun _ => rfl) (fun _ _ => rfl) rfl rfl
  | reap me alive => exact h.reap me alive
  | register me alive pid hpid => exact h.register me alive hpid
  | unregister pid hpid => exact h.unregister hpid
  | resetObserved => exact h.resetObserved
  | addUsage i hi d kind bytes => exact h.modifySlot hi rfl
  | removeUsage i hi d kind bytes => exact h.modifySlot hi rfl
  | setHostPid i hi hostPid => exact h.modifySlot hi rfl
  | setStatus i hi status => exact h.modifySlot hi rfl
  | observe i hi d f hf => exact h.modifySlot hi rfl

end GpuQuota
