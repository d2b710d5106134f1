import GpuQuota.Proofs.Registry.Change
import GpuQuota.Proofs.Registry.Frame
import GpuQuota.Proofs.Registry.Reachable
import GpuQuota.Proofs.Registry.Samples

/-!
# What looks show

A look forgets what was observed of all processes, and then observes them anew, each time under the
lock. What the region shows afterwards depends on what the host tells and on nothing that was shown
before; and no owner, status, charge or limit is touched on the way.

The module introduces:

* `Region.Unmoved` — what a look leaves alone; `Watch.bearable_unmoved` — its operations do so.
* `Watch.look_of_observing`, `Watch.adjust_apply` — a look as one round of observations.
* `Region.Depicts` — a region shows exactly what the host tells.
* `Watch.look_exact` — so it does after every look that is not skipped.
-/

namespace GpuQuota

/-! ## What looks leave alone -/

/-- Owners, statuses, charges, limits and the extent of the table are what they were. -/
structure Region.Unmoved (r r' : Region) : Prop where
  pid_eq : ∀ i, (r'.slotAt i).pid = (r.slotAt i).pid
  rawStatus_eq : ∀ i, (r'.slotAt i).rawStatus = (r.slotAt i).rawStatus
  usageAt_eq : ∀ i d, r'.usageAt i d = r.usageAt i d
  memoryLimits_eq : r'.memoryLimits = r.memoryLimits
  computeLimits_eq : r'.computeLimits = r.computeLimits
  procNum_eq : r'.procNum = r.procNum
  highWater_eq : r'.highWater = r.highWater

namespace Region.Unmoved

variable {r r' r'' : Region}

theorem refl (r : Region) : r.Unmoved r :=
  ⟨fun _ => rfl, fun _ => rfl, fun _ _ => rfl, rfl, rfl, rfl, rfl⟩

theorem trans (h : r.Unmoved r') (h' : r'.Unmoved r'') : r.Unmoved r'' where
  pid_eq i := (h'.pid_eq i).trans (h.pid_eq i)
  rawStatus_eq i := (h'.rawStatus_eq i).trans (h.rawStatus_eq i)
  usageAt_eq i d := (h'.usageAt_eq i d).trans (h.usageAt_eq i d)
  memoryLimits_eq := h'.memoryLimits_eq.trans h.memoryLimits_eq
  computeLimits_eq := h'.computeLimits_eq.trans h.computeLimits_eq
  procNum_eq := h'.procNum_eq.trans h.procNum_eq
  highWater_eq := h'.highWater_eq.trans h.highWater_eq

/-- The lock words are not among what is listed. -/
theorem withLocks (h : r.Unmoved r') (lock : LockWord) (postinit : Nat) :
    r.Unmoved { r' with lock, postinit } :=
  h.trans ⟨fun _ => rfl, fun _ => rfl, fun _ _ => rfl, rfl, rfl, rfl, rfl⟩

/-- A slot may change in all that is not listed. -/
theorem modifySlot (h : r.Unmoved r') (i : Fin maxProcesses) {f : Slot → Slot}
    (hpid : ∀ s : Slot, (f s).pid = s.pid) (hstatus : ∀ s : Slot, (f s).rawStatus = s.rawStatus)
    (husage : ∀ (s : Slot) d, ((f s).device d).usage = (s.device d).usage) :
    r.Unmoved (r'.modifySlot i f) := by
  -- The change is of one slot, so the frame stands and the other slots do.
  have hframe := r'.frame_modifySlot i f
  refine h.trans ⟨fun j => r'.pid_modifySlot i j hpid, fun j => ?_, fun j d => ?_,
    congrArg (·.memoryLimits) hframe, congrArg (·.computeLimits) hframe,
    r'.procNum_modifySlot i f, r'.highWater_modifySlot i f⟩
  · rw [slotAt_modifySlot]
    split
    next hj => rw [hstatus, hj]
    next => rfl
  · rw [usageAt, usageAt, slotAt_modifySlot]
    split
    next hj => rw [husage, hj]
    next => rfl

/-- What is observed is not among it, either. -/
theorem outlastsObserving (r : Region) : OutlastsObserving r.Unmoved := by
  intro r' i _ d f hf h
  refine h.modifySlot i (fun _ => rfl) (fun _ => rfl) fun s e => ?_
  rw [Slot.device_modifyDevice]
  split
  next he => rw [hf, he]
  next => rfl

theorem resetObserved (h : r.Unmoved r') : r.Unmoved r'.resetObserved := by
  have hslot : ∀ i, (r'.resetObserved.slotAt i).pid = (r'.slotAt i).pid ∧
      (r'.resetObserved.slotAt i).rawStatus = (r'.slotAt i).rawStatus ∧
      ∀ d, r'.resetObserved.usageAt i d = r'.usageAt i d := by
    intro i
    simp only [usageAt, slotAt_resetObserved]
    split
    next => exact ⟨rfl, rfl, fun d => by simp [Slot.device, Slot.resetObserved,
      DeviceRecord.forgetObserved]⟩
    next => exact ⟨rfl, rfl, fun _ => rfl⟩
  exact h.trans ⟨fun i => (hslot i).1, fun i => (hslot i).2.1, fun i => (hslot i).2.2,
    rfl, rfl, rfl, rfl⟩

end Region.Unmoved

namespace Watch

variable {σ μ : Type} {m : Member} {w : Watch σ μ}

private theorem keeps_unmoved_locked (m : Member) {start : Region} {α : Type}
    {body : Region → α × Region} (hbody : ∀ r, start.Unmoved r → start.Unmoved (body r).2) :
    Keeps (fun s => start.Unmoved s.region) (m.locked body) :=
  fun _ hs => (hbody _ (hs.withLocks _ _)).withLocks _ _

/-- The operations of a look leave alone what is listed. -/
theorem bearable_unmoved (m : Member) (start : Region) :
    Bearable m fun s => start.Unmoved s.region where
  passPostinit := by
    intro s hs
    obtain ⟨postinit, expired, hpass⟩ := m.passPostinit_apply s
    rw [hpass]
    exact hs.withLocks _ postinit
  mySlot? := m.keeps_mySlot?
  setHostPid hostPid := by
    intro s hs
    have hfound := m.keeps_mySlot? s hs
    rw [m.setHostPid_apply]
    cases hslot : m.mySlot? s with
    | mk n? t =>
      rw [hslot] at hfound
      -- Without a slot of its own the process notes nothing.
      cases n? with
      | none => exact hfound
      | some n =>
        obtain ⟨i, rfl, -⟩ := Member.pid_mySlot? (congrArg Prod.fst hslot)
        refine hfound.modifySlot i (f := (·.setHostPid hostPid)) (fun _ => ?_) (fun _ => ?_) ?_
        · rfl
        · rfl
        · exact fun s d => by simp [Slot.device, Slot.setHostPid]
  resetObserved := keeps_unmoved_locked m fun _ hr => hr.resetObserved
  observeAll map count host := keeps_unmoved_locked m fun _ hr =>
    keeps_observeAll (Region.Unmoved.outlastsObserving start) map count host hr

/-! ## Whole looks -/

variable [DeviceDriver σ]

/-- Finding out the host identity does not concern the devices and what is observed on them. -/
theorem keeps_outside_identify (m : Member) (resolve : Pid → Option Pid) (map : DeviceMap)
    (host : μ) :
    Keeps (fun w : Watch σ μ => w.watcher.map = map ∧ w.host = host) (identify m resolve) := by
  have houtlasts : OutlastsIdentifying m fun w : Watch σ μ => w.watcher.map = map ∧ w.host = host :=
    { passPostinit := fun _ hw => hw
      mySlot? := fun _ hw => hw
      setHostPid := fun _ _ hw => hw
      note := fun _ _ _ hw => hw
      querySpec := fun _ _ _ hw => hw }
  exact houtlasts.identify resolve

theorem look_apply [Management μ] (resolve : Pid → Option Pid) :
    look m resolve w = match identify m resolve w with
      | (true, w') => adjust m (if w'.limiter.hasSpec then w' else (querySpec w').2)
      | (false, w') => (Report.none, w') := by
  unfold look
  rw [Run.state_bind_apply]
  rcases identify m resolve w with ⟨_ | _, w'⟩
  · rfl
  · -- The search is over; what is known of the device is asked for once.
    show (if w'.limiter.hasSpec = true then adjust m else querySpec >>= fun _ => adjust m) w' =
      adjust m (if w'.limiter.hasSpec then w' else (querySpec w').2)
    cases w'.limiter.hasSpec <;> rfl

/-- A look that observes something is one at the devices, from a state that differs in nothing that
it observes. -/
theorem look_of_observing [Management μ] {resolve : Pid → Option Pid}
    (hlook : (look m resolve w).1.skipped = false) :
    ∃ w' : Watch σ μ, look m resolve w = adjust m w' ∧ w'.watcher.map = w.watcher.map ∧
      w'.host = w.host ∧ w.seat.region.Unmoved w'.seat.region := by
  have houtside := keeps_outside_identify (σ := σ) m resolve w.watcher.map w.host w ⟨rfl, rfl⟩
  have hunmoved := (bearable_unmoved m w.seat.region).identify (σ := σ) resolve w (.refl _)
  rw [look_apply] at hlook ⊢
  generalize identify m resolve w = found at hlook houtside hunmoved ⊢
  -- A search that goes on is a look that was skipped.
  obtain ⟨_ | _, w'⟩ := found
  · cases hlook
  · refine ⟨_, rfl, ?_⟩
    split
    next => exact ⟨houtside.1, houtside.2, hunmoved⟩
    next => exact ⟨houtside.1, houtside.2, hunmoved⟩

end Watch

/-- A region shows what the host tells of the processes, and so does the compute time in use that is
reported of the governed device. -/
structure Region.Depicts (r : Region) (map : DeviceMap) (count : Nat)
    (memory : Nat → List (Nat × UInt64)) (compute : Nat → List (Nat × Nat)) (utilization : Int) :
    Prop where
  monitor_eq : ∀ i, (r.slotAt i).pid ≠ 0 → ∀ d, ∀ n < count, map.regionFor n = some d →
    ((r.slotAt i).device d).monitor = UInt64.ofNat (r.tallied i UInt64.toNat (memory n))
  compute_eq : ∀ i, (r.slotAt i).pid ≠ 0 → ∀ d, ∀ n < count, map.regionFor n = some d →
    ((r.slotAt i).device d).compute = UInt64.ofNat (r.tallied i id (compute n))
  /-- Nothing is shown on a device that is none of the host. -/
  blank : ∀ i, (r.slotAt i).pid ≠ 0 → ∀ d, (∀ n < count, map.regionFor n ≠ some d) →
    ((r.slotAt i).device d).monitor = 0 ∧ ((r.slotAt i).device d).compute = 0
  utilization_eq : ∀ n < count, map.regionFor n = some governedDevice →
    utilization = min (r.talliedAll id (compute n) : Int) signedMax
  idle : (∀ n < count, map.regionFor n ≠ some governedDevice) → utilization = 0

namespace Watch

variable {σ μ : Type} [Management μ] {m : Member} {w : Watch σ μ} {count : Nat} {host : μ}
  {memory : Nat → List (Nat × UInt64)} {compute : Nat → List (Nat × Nat)}

theorem observe_apply (m : Member) (hcount : Management.deviceCount w.host = (.ok count, host)) :
    observe m w =
      let found := m.locked (fun r => observeAll w.watcher.map count r host) w.seat
      (.ok found.1.1, { w with seat := found.2, host := found.1.2 }) := by
  have hhost : onHost Management.deviceCount w = (.ok count, { w with host }) := by
    rw [onHost, hcount]
  unfold observe
  rw [Run.state_bind_apply, hhost]
  rfl

/-- What follows the observations leaves the seat alone. -/
theorem adjust_of_observe {used : Utilization} {w' : Watch σ μ}
    (hrun : observe m { w with seat := (m.resetObserved w.seat).2 } = (.ok used, w')) :
    (adjust m w).2.seat = w'.seat ∧ (adjust m w).1.utilization = used.get governedDevice := by
  unfold adjust
  rw [Run.state_bind_apply, Run.state_bind_apply]
  change observe m (onSeat m.resetObserved w).2 = _ at hrun
  rw [hrun]
  exact ⟨rfl, rfl⟩

/-- All is forgotten and observed anew, and the lock is taken for both. -/
theorem adjust_apply (m : Member) (hcount : Management.deviceCount w.host = (.ok count, host)) :
    ∃ before after : LockWord,
      let observed := observeAll w.watcher.map count
        { w.seat.region.resetObserved with lock := before } host
      (adjust m w).2.seat.region = { observed.2 with lock := after } ∧
        (adjust m w).1.utilization = observed.1.1.get governedDevice := by
  have hrun := observe_apply (w := { w with seat := (m.resetObserved w.seat).2 }) m hcount
  obtain ⟨hseat, hutilization⟩ := adjust_of_observe hrun
  exact ⟨_, _, congrArg (·.region) hseat, hutilization⟩

/-- One round of observations, begun with nothing observed, shows what the host tells. -/
theorem depicts_adjust (m : Member) (hr : w.seat.region.Overseen)
    (hcount : Management.deviceCount w.host = (.ok count, host))
    (hshown : Shown memory compute (visibleDevices w.watcher.map count) host) :
    (adjust m w).2.seat.region.Depicts w.watcher.map count memory compute
      (adjust m w).1.utilization := by
  obtain ⟨before, after, hregion, hutilization⟩ := adjust_apply m hcount
  let start : Region := { w.seat.region.resetObserved with lock := before }
  let observed := observeAll w.watcher.map count start host
  have hstart : w.seat.region.SameOwners start :=
    w.seat.region.sameOwners_resetObserved.trans (Region.sameOwners_setLock _ before)
  have hround : Round memory compute (visibleDevices w.watcher.map count)
      ((.replicate _ 0, host), start) observed :=
    round_foldl _ nodup_visibleDevices hshown (hstart.overseen hr)
  have hsame : start.SameOwners (adjust m w).2.seat.region := by
    rw [hregion]
    exact hround.sameOwners.trans (Region.sameOwners_setLock _ after)
  have hdevice : ∀ i d, ((adjust m w).2.seat.region.slotAt i).device d =
      (observed.2.slotAt i).device d := by
    intro i d
    rw [hregion]
    rfl
  -- Where a slot is in use, the round begins with nothing observed.
  have hblank : ∀ i, ((adjust m w).2.seat.region.slotAt i).pid ≠ 0 → ∀ d,
      ((start.slotAt i).device d).monitor = 0 ∧ ((start.slotAt i).device d).compute = 0 := by
    intro i hi d
    rw [hsame.pid_eq, hstart.pid_eq] at hi
    exact Region.observed_resetObserved hr hi d
  have hlisted : ∀ n d, n < count → w.watcher.map.regionFor n = some d →
      (n, d) ∈ visibleDevices w.watcher.map count := fun n d hn hd => mem_visibleDevices.2 ⟨hn, hd⟩
  have hunlisted : ∀ d, (∀ n < count, w.watcher.map.regionFor n ≠ some d) →
      d ∉ (visibleDevices w.watcher.map count).map (·.2) := by
    intro d hd hmem
    obtain ⟨⟨n, e⟩, hne, rfl⟩ := List.mem_map.1 hmem
    obtain ⟨hn, he⟩ := mem_visibleDevices.1 hne
    exact hd n hn he
  refine ⟨fun i hi d n hn hd => ?_, fun i hi d n hn hd => ?_, fun i hi d hd => ?_,
    fun n hn hd => ?_, fun hd => ?_⟩
  · rw [hdevice, hround.device_eq n d (hlisted n d hn hd) i, hsame.tallied_eq]
    show _ + _ = _
    rw [(hblank i hi d).1, zero_add]
  · rw [hdevice, hround.device_eq n d (hlisted n d hn hd) i, hsame.tallied_eq]
    show _ + _ = _
    rw [(hblank i hi d).2, zero_add]
  · rw [hdevice, hround.device_of_notMem d (hunlisted d hd) i]
    exact hblank i hi d
  · rw [hutilization, hsame.talliedAll_eq]
    exact hround.used_eq n governedDevice (hlisted n governedDevice hn hd)
  · rw [hutilization]
    exact hround.used_of_notMem governedDevice (hunlisted governedDevice hd)

variable [DeviceDriver σ]

/-- A look that is not skipped shows exactly what the host tells of the processes, whatever was
shown before: each sample of a device that is visible counts for the first slot whose owner it is
about, on the one device of the region that stands for it, and for nothing else. The look changes no
owner, status, charge or limit. -/
theorem look_exact (m : Member) (resolve : Pid → Option Pid) (hc : w.seat.region.Consistent)
    (hcount : Management.deviceCount w.host = (.ok count, host))
    (hshown : Shown memory compute (visibleDevices w.watcher.map count) host)
    (hlook : (look m resolve w).1.skipped = false) :
    (look m resolve w).2.seat.region.Depicts w.watcher.map count memory compute
      (look m resolve w).1.utilization ∧
    w.seat.region.Unmoved (look m resolve w).2.seat.region := by
  have hunmoved := (bearable_unmoved m w.seat.region).look (σ := σ) (μ := μ) resolve w (.refl _)
  obtain ⟨w', heq, hmap, hhost, hsame⟩ := look_of_observing hlook
  -- Finding out who one is moves neither the owners nor the mark above them.
  have hr : w'.seat.region.Overseen := by
    intro i hi
    rw [hsame.pid_eq] at hi
    have hmark : w'.seat.region.mark = w.seat.region.mark := by
      rw [Region.mark, Region.mark, hsame.highWater_eq]
    rw [hmark]
    exact hc.lt_mark hi
  rw [← hhost] at hcount
  rw [← hmap] at hshown
  refine ⟨?_, hunmoved⟩
  rw [heq, ← hmap]
  exact depicts_adjust m hr hcount hshown

/-- Two processes share a host identity, and the map lists a device twice. The samples of that
device count once, for the first of the two. -/
theorem look_exact_of_shared :
    ∃ (m : Member) (w : Watch SimulatedDevice SimulatedHost) (i j : Fin maxProcesses)
      (e : DeviceIndex) (resolve : Pid → Option Pid),
      let r := (look m resolve w).2.seat.region
      (look m resolve w).1.skipped = false ∧ (look m resolve w).1.utilization = 30 ∧
      (r.slotAt i).hostPid = (r.slotAt j).hostPid ∧
      ((r.slotAt i).device governedDevice).monitor = 501 ∧
      ((r.slotAt j).device governedDevice).monitor = 0 ∧ ((r.slotAt i).device e).monitor = 0 ∧
      r.Depicts w.watcher.map w.host.deviceCount (fun n => (w.host.device n).processes)
        (fun n => (w.host.device n).utilization) (look m resolve w).1.utilization ∧
      w.seat.region.Unmoved r := by
  let all : Pid → Bool := fun _ => true
  let i : Fin maxProcesses := ⟨0, by decide⟩
  let j : Fin maxProcesses := ⟨1, by decide⟩
  let seen : HostDevice := ⟨[(70, 500), (0, 9), (2147483648, 3), (70, 1)], [(70, 30)]⟩
  let host : SimulatedHost := ⟨3, [(1, seen)]⟩
  let watcher : Watcher := { map := ⟨[1, 1, 0], by decide⟩, attempts := 1, ready := true }
  -- Two processes are registered, and both are given the host identifier seventy.
  have h₁ := (Population.consistent_setUp .standard 0).register 7 all (show (7 : Pid) ≠ 0 by decide)
  have h₂ := h₁.register 8 all (show (8 : Pid) ≠ 0 by decide)
  have hpid (s : Slot) : (s.setHostPid 70).pid = s.pid := rfl
  have h₃ := h₂.modifySlot (i := i) (f := (·.setHostPid 70)) (by decide +kernel) (hpid _)
  have hc := h₃.modifySlot (i := j) (f := (·.setHostPid 70)) (by decide +kernel) (hpid _)
  generalize hr : Region.modifySlot _ j _ = r at hc
  let w : Watch SimulatedDevice SimulatedHost := ⟨watcher, ⟨r, none, 0⟩, .startingAt 0, {}, host⟩
  let m : Member := ⟨7, .standard, all⟩
  obtain ⟨hdepicts, hunmoved⟩ := look_exact (w := w) m some hc rfl
    (shown_simulated host (visibleDevices w.watcher.map 3)) rfl
  refine ⟨m, w, i, j, ⟨1, by decide⟩, some, rfl, ?_, ?_, ?_, ?_, ?_, hdepicts, hunmoved⟩
  all_goals
    subst hr
    decide +kernel

end Watch

end GpuQuota
