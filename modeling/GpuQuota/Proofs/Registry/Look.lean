import GpuQuota.Proofs.Registry.Member
import GpuQuota.Watcher

/-!
# Looks, operation by operation

A look of a watcher is made of a few operations on its seat, with calls of the driver and of the
management interface between them. Whatever those few operations keep is kept by the whole look.

The module introduces:

* `Region.OutlastsObserving` — a property of the region that no observation destroys.
* `Watch.keeps_observeAll` — such a property outlasts a whole round of observations.
* `Member.passPostinit_apply`, `Watch.lookUp_apply` — asking for the host identity.
* `Watch.keeps_identify`, `Watch.OutlastsIdentifying` — a property of the look that finding out the
  host identity keeps.
* `Watch.Bearable` — a property of the seat that the operations of a look keep.
* `Watch.Bearable.look` — it is kept by the look.
-/

namespace GpuQuota

/-! ## Observations -/

/-- A slot that is found by its host identity is in use. -/
theorem Region.pid_slotOfHost? {r : Region} {hostPid : Pid} {n : Nat}
    (h : r.slotOfHost? hostPid = some n) :
    ∃ i : Fin maxProcesses, i.val = n ∧ (r.slotAt i).pid ≠ 0 := by
  rw [slotOfHost?] at h
  split at h
  next => cases h
  next =>
    obtain ⟨i, hin, -, hi, -⟩ := findSlot?_eq_some h
    rw [Bool.and_eq_true, Bool.not_eq_true', Slot.isFree_eq_false_iff] at hi
    exact ⟨i, hin, hi.1⟩

/-- Observing something of a registered process on a device does not destroy the property. -/
def Region.OutlastsObserving (Q : Region → Prop) : Prop :=
  ∀ (r : Region) (i : Fin maxProcesses), (r.slotAt i).pid ≠ 0 →
    ∀ (d : DeviceIndex) (f : DeviceRecord → DeviceRecord), (∀ x, (f x).usage = x.usage) →
      Q r → Q (r.modifySlot i (·.modifyDevice d f))

section

variable {Q : Region → Prop} (hQ : Region.OutlastsObserving Q) {α μ : Type}

include hQ

/-- Observing one process keeps such a property, whether or not there is a slot for it. -/
theorem Member.keeps_observe {r : Region} (hostPid : Pid) (d : DeviceIndex)
    {f : DeviceRecord → DeviceRecord} (hf : ∀ x, (f x).usage = x.usage) (hr : Q r) :
    Q (observe r hostPid d f).2 := by
  unfold observe
  split
  next n hn =>
    obtain ⟨i, rfl, hi⟩ := Region.pid_slotOfHost? hn
    exact hQ r i hi d f hf hr
  next => exact hr

namespace Watch

/-- Adding samples up keeps it, one slot after the other. -/
theorem keeps_tally {d : DeviceIndex} {add : α → DeviceRecord → DeviceRecord}
    (hadd : ∀ a x, (add a x).usage = x.usage) (samples : List (Nat × α)) {r : Region}
    (hr : Q r) : Q (tally r d add samples) := by
  unfold tally
  -- The induction is on the samples; each one changes at most the slot that it is found for.
  induction samples generalizing r with
  | nil => exact hr
  | cons sample samples ih =>
    obtain ⟨hostPid, a⟩ := sample
    rw [List.foldl_cons]
    refine ih ?_
    dsimp only
    split
    next n hn =>
      rw [sampleSlot?] at hn
      split at hn
      next =>
        obtain ⟨i, rfl, hi⟩ := Region.pid_slotOfHost? hn
        exact hQ r i hi d (add a) (hadd a) hr
      next => cases hn
    next => exact hr

/-- Observing a device adds up its samples of both kinds. -/
theorem keeps_observeDevice [Management μ] (number : Nat) (d : DeviceIndex) {r : Region}
    (host : μ) (hr : Q r) : Q (observeDevice number d r host).2.1 := by
  unfold observeDevice
  dsimp only
  refine keeps_tally hQ (fun a x => ?_) _ (keeps_tally hQ (fun a x => ?_) _ hr)
  · rfl
  · rfl

/-- Observing all devices observes one after the other. -/
theorem keeps_observeAll [Management μ] (map : DeviceMap) (count : Nat) {r : Region} (host : μ)
    (hr : Q r) : Q (observeAll map count r host).2 := by
  -- The fold carries the region along, so the induction is on the devices still to come.
  have hfold : ∀ (devices : List (Nat × DeviceIndex)) (start : (Utilization × μ) × Region),
      Q start.2 → Q (devices.foldl observeNext start).2 := by
    intro devices
    induction devices with
    | nil => exact fun _ h => h
    | cons device devices ih =>
      intro start h
      exact ih _ (keeps_observeDevice hQ device.1 device.2 start.1.2 h)
  exact hfold _ _ hr

end Watch

end

/-! ## The operations of a look -/

/-- Takes the semaphore for host identities and gives it back. -/
def Member.passPostinit (m : Member) : SeatM Unit := do
  if ← m.takePostinit then givePostinit

/-- Passing the semaphore concerns nothing but its count and the waits that expired. -/
theorem Member.passPostinit_apply (m : Member) (s : Seat) :
    ∃ postinit expired,
      (m.passPostinit s).2 = { s with region := { s.region with postinit }, expired } := by
  unfold passPostinit
  rw [Run.state_bind_apply, takePostinit]
  split
  next => exact ⟨_, _, rfl⟩
  next => exact ⟨_, _, rfl⟩

namespace Watch

variable {σ μ α : Type} {m : Member} {P : Seat → Prop}

/-- What a look hears if it asks for the host identity: nothing where the semaphore is not to be
had. -/
def answer (m : Member) (resolve : Pid → Option Pid) (w : Watch σ μ) : Option Pid :=
  if 0 < w.seat.region.postinit then resolve m.pid else none

/-- Asking for the host identity passes the second lock and changes nothing else. -/
theorem lookUp_apply (m : Member) (resolve : Pid → Option Pid) (w : Watch σ μ) :
    lookUp m resolve w =
      (answer m resolve w, { w with seat := (m.passPostinit w.seat).2 }) := by
  unfold lookUp Member.passPostinit answer
  rw [Run.state_bind_apply, Run.state_bind_apply]
  simp only [onSeat, Member.takePostinit]
  -- With or without the lock the answer is the same; only waiting for it differs.
  by_cases hfree : 0 < w.seat.region.postinit
  · simp only [if_pos hfree]
    rfl
  · simp only [if_neg hfree]
    rfl

/-- The operations on the seat that a look is made of keep the property. -/
structure Bearable (m : Member) (P : Seat → Prop) : Prop where
  passPostinit : Keeps P m.passPostinit
  mySlot? : Keeps P m.mySlot?
  setHostPid : ∀ hostPid, Keeps P (m.setHostPid hostPid)
  resetObserved : Keeps P m.resetObserved
  observeAll : ∀ {μ : Type} [Management μ] (map : DeviceMap) (count : Nat) (host : μ),
    Keeps P (m.locked fun r => observeAll map count r host)

/-- What an operation on the seat keeps is kept when a watcher carries it out. -/
theorem keeps_onSeat {op : SeatM α} (hop : Keeps P op) :
    Keeps (fun w : Watch σ μ => P w.seat) (onSeat op) :=
  fun w hw => hop w.seat hw

/-- Calls of the management interface do not concern the seat. -/
theorem keeps_onHost (call : Call μ α) : Keeps (fun w : Watch σ μ => P w.seat) (onHost call) :=
  fun _ hw => hw

/-- Nor does asking the driver for the size of the device. -/
theorem keeps_querySpec [DeviceDriver σ] :
    Keeps (fun w : Watch σ μ => P w.seat) querySpec := fun _ hw => hw

/-! ### Finding out the host identity -/

section

variable {C : Watch σ μ → Prop}

/-- Asking for the host identity keeps what passing the second lock keeps. -/
theorem keeps_lookUp (hpass : ∀ w, C w → C { w with seat := (m.passPostinit w.seat).2 })
    (resolve : Pid → Option Pid) : Keeps C (lookUp m resolve) := by
  intro w hw
  rw [lookUp_apply]
  exact hpass w hw

/-- Deciding about the answer counts failures at most. -/
theorem keeps_decideHostPid
    (hnote : ∀ w ready failures, C w → C { w with watcher := { w.watcher with ready, failures } })
    (answer : Option Pid) : Keeps C (decideHostPid m answer) := by
  unfold Watch.decideHostPid
  split
  next => exact keeps_pure _
  next =>
    have hfailed : Keeps C (modifyWatcher fun w => { w with failures := w.failures + 1 }) :=
      fun w hw => hnote w w.watcher.ready (w.watcher.failures + 1) hw
    refine Keeps.bind hfailed fun _ => ?_
    exact Keeps.bind keeps_get fun _ => keeps_pure _

/-- Finding out the host identity keeps what the operations that it is made of keep. -/
theorem keeps_identify [DeviceDriver σ]
    (hpass : ∀ w, C w → C { w with seat := (m.passPostinit w.seat).2 })
    (hmine : ∀ w, C w → C { w with seat := (m.mySlot? w.seat).2 })
    (hset : ∀ w hostPid, C w → C { w with seat := (m.setHostPid hostPid w.seat).2 })
    (hnote : ∀ w ready failures, C w → C { w with watcher := { w.watcher with ready, failures } })
    (hquery : Keeps C querySpec) (resolve : Pid → Option Pid) : Keeps C (identify m resolve) := by
  have hready : Keeps C (do modifyWatcher (fun w => { w with ready := true }); return true) :=
    Keeps.bind (fun w hw => hnote w true w.watcher.failures hw) fun _ => keeps_pure _
  unfold Watch.identify
  refine Keeps.bind keeps_get fun w => ?_
  -- Each branch ends early or goes on to the next step, and each step keeps the condition.
  split
  next => exact keeps_pure _
  next =>
    refine Keeps.bind hmine fun i? => Keeps.bind keeps_get fun w => ?_
    split
    next => exact keeps_pure _
    next slot _ =>
      dsimp only
      split
      next =>
        refine Keeps.bind (keeps_lookUp hpass resolve) fun answer => ?_
        refine Keeps.bind (keeps_decideHostPid hnote answer) fun hostPid? => ?_
        split
        next => exact keeps_pure _
        next hostPid =>
          refine Keeps.bind (fun w hw => hset w hostPid hw) fun noted => ?_
          split
          next => exact keeps_pure _
          next => exact Keeps.bind hquery fun _ => hready
      next => exact hready

end

/-- The operations that finding out the host identity is made of keep a property of the look. -/
structure OutlastsIdentifying (m : Member) (C : Watch σ μ → Prop) : Prop where
  passPostinit : ∀ w, C w → C { w with seat := (m.passPostinit w.seat).2 }
  mySlot? : ∀ w, C w → C { w with seat := (m.mySlot? w.seat).2 }
  setHostPid : ∀ w hostPid, C w → C { w with seat := (m.setHostPid hostPid w.seat).2 }
  note : ∀ w ready failures, C w → C { w with watcher := { w.watcher with ready, failures } }
  querySpec : ∀ w limiter driver, C w → C { w with limiter, driver }

/-- Such a property is kept when a look finds out who it is. -/
theorem OutlastsIdentifying.identify [DeviceDriver σ] {C : Watch σ μ → Prop}
    (h : OutlastsIdentifying m C) (resolve : Pid → Option Pid) : Keeps C (identify m resolve) :=
  keeps_identify h.passPostinit h.mySlot? h.setHostPid h.note
    (fun w hw => h.querySpec w _ _ hw) resolve

namespace Bearable

variable (h : Bearable m P)

include h

/-- Finding out the host identity changes nothing but the semaphore and the own slot. -/
theorem identify [DeviceDriver σ] (resolve : Pid → Option Pid) :
    Keeps (fun w : Watch σ μ => P w.seat) (identify m resolve) := by
  have houtlasts : OutlastsIdentifying m fun w : Watch σ μ => P w.seat :=
    { passPostinit := fun w hw => h.passPostinit w.seat hw
      mySlot? := fun w hw => h.mySlot? w.seat hw
      setHostPid := fun w hostPid hw => h.setHostPid hostPid w.seat hw
      note := fun _ _ _ hw => hw
      querySpec := fun _ _ _ hw => hw }
  exact houtlasts.identify resolve

/-- Observing is work under the lock, beside what is noted in the watcher. -/
theorem observe [Management μ] : Keeps (fun w : Watch σ μ => P w.seat) (observe m) := by
  refine Keeps.bind (keeps_onHost _) fun answer => ?_
  cases answer with
  | error e => exact keeps_pure _
  | ok count =>
    refine Keeps.bind keeps_get fun w => ?_
    refine Keeps.bind (keeps_onSeat (h.observeAll w.watcher.map count w.host)) fun _ => ?_
    exact Keeps.bind (keeps_modify fun _ hw => hw) fun _ => keeps_pure _

/-- A round at the devices forgets what was observed and observes anew. -/
theorem adjust [Management μ] : Keeps (fun w : Watch σ μ => P w.seat) (adjust m) := by
  refine Keeps.bind (keeps_onSeat h.resetObserved) fun _ => ?_
  refine Keeps.bind h.observe fun used? => ?_
  cases used? with
  | error e => exact keeps_pure _
  | ok used =>
    refine Keeps.bind (keeps_modify fun _ hw => hw) fun _ => ?_
    exact Keeps.bind keeps_get fun _ => keeps_pure _

/-- A whole look keeps what its operations keep. -/
theorem look [DeviceDriver σ] [Management μ] (resolve : Pid → Option Pid) :
    Keeps (fun w : Watch σ μ => P w.seat) (look m resolve) := by
  unfold Watch.look
  refine Keeps.bind (h.identify resolve) fun known => ?_
  split
  next =>
    refine Keeps.bind keeps_get fun w => ?_
    dsimp only
    split
    next => exact h.adjust
    next => exact Keeps.bind keeps_querySpec fun _ => h.adjust
  next => exact keeps_pure _

end Bearable

end Watch

end GpuQuota
