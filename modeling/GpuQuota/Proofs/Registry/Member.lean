import GpuQuota.Member
import GpuQuota.Proofs.Registry.Consistent
import GpuQuota.Proofs.Run

/-!
# What members do to the table

The operations of a member, applied to a seat. A member finds slots by the index that it
remembers or by a scan; either way it finds a slot of the process in question and no other.

The module introduces:

* `Region.Owns` — a process and its one slot, seen by scans.
* `Region.Owns.ownSlot?_eq`, `Region.Owns.findSlot?_eq` — that slot is the one that is found.
* `Region.Owns.congr`, `.modifySlot`, `.reap` and their kind — changes after which the process still
  owns it.
* `Member.addUsage_apply`, `Member.modifyOwn_apply` and their kind — the seat after an operation.
* `Member.addUsage_of_owns`, `Member.setHostPid_of_owns` and their kind — the slot that a process
  owns is the one that is changed.
-/

namespace GpuQuota

namespace Region

/-- The process owns the slot with an index and no other, and scans see it. -/
structure Owns (r : Region) (pid : Pid) (i : Fin maxProcesses) : Prop where
  pid_ne_zero : pid ≠ 0
  pid_eq : (r.slotAt i).pid = pid
  unique : ∀ j, (r.slotAt j).pid = pid → j = i
  lt_mark : i.val < r.mark

variable {r : Region} {pid : Pid} {i : Fin maxProcesses}

/-- In a consistent table every slot in use is the one slot of its owner. -/
theorem Consistent.owns (h : r.Consistent) (hi : (r.slotAt i).pid ≠ 0) :
    r.Owns (r.slotAt i).pid i where
  pid_ne_zero := hi
  pid_eq := rfl
  unique j hj := h.pid_injective j i (hj ▸ hi) hj
  lt_mark := h.lt_mark hi

/-- A remembered index is only trusted if its slot still belongs to the process. -/
theorem ownSlot?_eq_some {remembered : Option Nat} {n : Nat}
    (h : r.ownSlot? pid remembered = some n) :
    ∃ i : Fin maxProcesses, i.val = n ∧ (r.slotAt i).pid = pid := by
  have hscan : r.findSlot? (·.pid == pid) = some n →
      ∃ i : Fin maxProcesses, i.val = n ∧ (r.slotAt i).pid = pid := by
    intro hfind
    obtain ⟨i, hin, -, hi, -⟩ := findSlot?_eq_some hfind
    exact ⟨i, hin, by simpa using hi⟩
  cases remembered with
  | none => exact hscan h
  | some k =>
    unfold ownSlot? at h
    dsimp only at h
    split at h
    next hk =>
      -- The slot remembered still carries the identifier of the process.
      cases h
      obtain ⟨s, hs, hpid⟩ := (Option.any_eq_true ..).1 hk
      have hn : n < maxProcesses := by
        rw [slot?, Vector.getElem?_eq_some_iff] at hs
        exact hs.1
      have hat : r.slot? n = some (r.slotAt ⟨n, hn⟩) := slot?_eq_some_slotAt r ⟨n, hn⟩
      rw [hat, Option.some.injEq] at hs
      exact ⟨⟨n, hn⟩, rfl, by simpa [hs] using hpid⟩
    next => exact hscan h

/-- A remembered index is trusted while its slot belongs to the process. -/
theorem ownSlot?_some (h : (r.slotAt i).pid = pid) : r.ownSlot? pid (some i.val) = some i.val := by
  unfold ownSlot?
  dsimp only
  rw [slot?_eq_some_slotAt]
  simp [h]

/-- The first slot of a process stays the first one where it is still its own, no other slot has
become its own, and it has not come to lie beyond the mark. -/
theorem findSlot?_of_kept {r' : Region} (h : r.findSlot? (·.pid == pid) = some i.val)
    (hown : (r'.slotAt i).pid = (r.slotAt i).pid)
    (hothers : ∀ j, (r'.slotAt j).pid = pid → (r.slotAt j).pid = pid)
    (hmark : i.val < r.mark → i.val < r'.mark) :
    r'.findSlot? (·.pid == pid) = some i.val := by
  obtain ⟨j, hji, hjmark, hj, hfirst⟩ := findSlot?_eq_some h
  obtain rfl := Fin.ext hji
  have hstill : (r'.slotAt j).pid = pid := by
    rw [hown]
    simpa using hj
  cases hfind : r'.findSlot? (·.pid == pid) with
  | none =>
    have := findSlot?_eq_none_iff.1 hfind j (hmark hjmark)
    simp [hstill] at this
  | some n =>
    obtain ⟨k, rfl, -, hk, hfirst'⟩ := findSlot?_eq_some hfind
    rcases lt_trichotomy j k with hlt | rfl | hgt
    · have := hfirst' j hlt
      simp [hstill] at this
    · rfl
    · -- An earlier slot of the process would have been found before.
      have := hfirst k hgt
      simp [hothers k (by simpa using hk)] at this

/-- So does the slot that a process remembers or else finds by a scan. -/
theorem ownSlot?_of_kept {r' : Region} {remembered : Option Nat}
    (h : r.ownSlot? pid remembered = some i.val) (hown : (r'.slotAt i).pid = (r.slotAt i).pid)
    (hothers : ∀ j, (r'.slotAt j).pid = pid → (r.slotAt j).pid = pid)
    (hmark : i.val < r.mark → i.val < r'.mark) :
    r'.ownSlot? pid remembered = some i.val := by
  have hi : (r'.slotAt i).pid = pid := by
    obtain ⟨j, hji, hj⟩ := ownSlot?_eq_some h
    rw [hown, ← Fin.ext hji, hj]
  cases remembered with
  | none => exact findSlot?_of_kept h hown hothers hmark
  | some k =>
    unfold ownSlot? at h ⊢
    dsimp only at h ⊢
    split at h
    next =>
      cases h
      exact ownSlot?_some hi
    next hk =>
      -- The slot remembered was not its own and has not become so.
      have hk' : ¬ (r'.slot? k).any (·.pid == pid) := by
        intro hany
        obtain ⟨s, hs, hpid⟩ := (Option.any_eq_true ..).1 hany
        have hn : k < maxProcesses := by
          rw [slot?, Vector.getElem?_eq_some_iff] at hs
          exact hs.1
        rw [slot?_eq_some_slotAt r' ⟨k, hn⟩, Option.some.injEq] at hs
        refine hk ?_
        rw [slot?_eq_some_slotAt r ⟨k, hn⟩]
        simp [hothers ⟨k, hn⟩ (by simpa [hs] using hpid)]
      rw [if_neg hk']
      exact findSlot?_of_kept h hown hothers hmark

namespace Owns

/-- A scan finds the slot of the process. -/
theorem findSlot?_eq (h : r.Owns pid i) : r.findSlot? (·.pid == pid) = some i.val := by
  cases hfind : r.findSlot? (·.pid == pid) with
  | none =>
    have := findSlot?_eq_none_iff.1 hfind i h.lt_mark
    simp [h.pid_eq] at this
  | some n =>
    obtain ⟨j, rfl, -, hj, -⟩ := findSlot?_eq_some hfind
    rw [h.unique j (by simpa using hj)]

/-- The process finds its slot whatever it remembers. -/
theorem ownSlot?_eq (h : r.Owns pid i) (remembered : Option Nat) :
    r.ownSlot? pid remembered = some i.val := by
  have hscan := h.findSlot?_eq
  cases hown : r.ownSlot? pid remembered with
  | some n =>
    obtain ⟨j, rfl, hj⟩ := ownSlot?_eq_some hown
    rw [h.unique j hj]
  | none =>
    -- With or without a slot that is remembered the scan of the table is the last resort.
    cases remembered with
    | none => exact absurd (hown.symm.trans hscan) (by simp)
    | some k =>
      unfold ownSlot? at hown
      dsimp only at hown
      split at hown
      next => cases hown
      next => exact absurd (hown.symm.trans hscan) (by simp)

/-- Owning a slot is a matter of the owners of all slots and of the mark. -/
theorem congr {r' : Region} (h : r.Owns pid i) (hpid : ∀ j, (r'.slotAt j).pid = (r.slotAt j).pid)
    (hmark : r'.mark = r.mark) : r'.Owns pid i where
  pid_ne_zero := h.pid_ne_zero
  pid_eq := (hpid i).trans h.pid_eq
  unique j hj := h.unique j ((hpid j).symm.trans hj)
  lt_mark := hmark ▸ h.lt_mark

/-- A process keeps its slot when the slot changes in anything but its owner. -/
theorem modifySlot {f : Slot → Slot} (h : r.Owns pid i) (hf : ∀ s : Slot, (f s).pid = s.pid) :
    (r.modifySlot i f).Owns pid i :=
  h.congr (fun j => r.pid_modifySlot i j hf) (mark_modifySlot ..)

/-- Owning a slot does not depend on the lock. -/
theorem setLock (h : r.Owns pid i) (word : LockWord) : { r with lock := word }.Owns pid i :=
  h.congr (fun _ => rfl) rfl

/-- It does not depend on the semaphore for host identities, either. -/
theorem setPostinit (h : r.Owns pid i) (postinit : Nat) : { r with postinit }.Owns pid i :=
  h.congr (fun _ => rfl) rfl

/-- Reaping spares the slot of the process that reaps. -/
theorem slotAt_reap (h : r.Owns pid i) (alive : Pid → Bool) :
    (r.reap pid alive).2.slotAt i = r.slotAt i := by
  refine (Region.slotAt_reap r pid alive i).trans (if_neg ?_)
  intro hi
  exact ((isDeadSlot_iff pid alive).1 (mem_deadSlots.1 hi).2).2.1 h.pid_eq

/-- A process that reaps keeps its slot. -/
theorem reap (h : r.Owns pid i) (alive : Pid → Bool) : (r.reap pid alive).2.Owns pid i where
  pid_ne_zero := h.pid_ne_zero
  pid_eq := by rw [h.slotAt_reap alive, h.pid_eq]
  unique j hj := by
    rw [pid_reap] at hj
    split at hj
    next => exact absurd hj.symm h.pid_ne_zero
    next => exact h.unique j hj
  lt_mark := by
    have hslot := h.slotAt_reap alive
    rw [reap_eq] at hslot ⊢
    -- The sweep leaves the mark, and trimming stops behind the slot, as it is in use.
    refine lt_mark_trim ?_ (by rw [mark_sweep]; exact h.lt_mark)
    rw [show (r.sweep pid alive).slotAt i = r.slotAt i from hslot, h.pid_eq]
    exact h.pid_ne_zero

end Owns

end Region

/-- A device of the region is one. -/
@[simp] theorem device?_val (d : DeviceIndex) : device? d.val = .ok d := dif_pos d.isLt

/-- A device that is one of the region is named by its index. -/
theorem val_of_device?_eq_ok {dev : Nat} {d : DeviceIndex} (h : device? dev = .ok d) :
    d.val = dev := by
  rw [device?] at h
  split at h
  next => cases h; rfl
  next => cases h

namespace Member

variable (m : Member) (pid : Pid) (s : Seat)

/-! ## Looking slots up -/

/-- The own slot is looked for where it was last seen first, and remembered when found. -/
theorem mySlot?_apply :
    m.mySlot? s = match s.region.ownSlot? m.pid s.remembered with
      | some n => (some n, { s with remembered := some n })
      | none => (none, s) := rfl

/-- The slot of another process is looked for in the table; nothing is remembered of it. -/
theorem slotOf?_apply :
    m.slotOf? pid s =
      if pid = 0 then (none, s)
      else if pid = m.pid then m.mySlot? s
      else (s.region.findSlot? (·.pid == pid), s) := by
  rw [slotOf?]
  split
  next => rfl
  next => split <;> rfl

/-- Looking a slot up leaves the region alone. -/
theorem region_mySlot? : (m.mySlot? s).2.region = s.region := by
  rw [mySlot?_apply]
  cases s.region.ownSlot? m.pid s.remembered <;> rfl

/-- Looking the slot of any process up leaves the region alone. -/
theorem region_slotOf? : (m.slotOf? pid s).2.region = s.region := by
  rw [slotOf?_apply]
  split
  next => rfl
  next =>
    split
    next => exact m.region_mySlot? s
    next => rfl

/-- The slot that a member takes for its own belongs to it. -/
theorem pid_mySlot? {m : Member} {s : Seat} {n : Nat} (h : (m.mySlot? s).1 = some n) :
    ∃ i : Fin maxProcesses, i.val = n ∧ (s.region.slotAt i).pid = m.pid := by
  rw [mySlot?_apply] at h
  cases hown : s.region.ownSlot? m.pid s.remembered with
  | none =>
    rw [hown] at h
    cases h
  | some k =>
    rw [hown] at h
    cases h
    exact Region.ownSlot?_eq_some hown

/-- The slot that is found for a process belongs to it. -/
theorem pid_slotOf? {m : Member} {pid : Pid} {s : Seat} {n : Nat}
    (h : (m.slotOf? pid s).1 = some n) :
    pid ≠ 0 ∧ ∃ i : Fin maxProcesses, i.val = n ∧ (s.region.slotAt i).pid = pid := by
  rw [slotOf?_apply] at h
  split at h
  next => cases h
  next hpid =>
    refine ⟨hpid, ?_⟩
    -- A process looks up its own slot, with what it remembers, or that of another one.
    split at h
    next hme => exact hme ▸ pid_mySlot? h
    next =>
      obtain ⟨i, hin, -, hi, -⟩ := Region.findSlot?_eq_some h
      exact ⟨i, hin, by simpa using hi⟩

/-- A registered process is found by every member. -/
theorem slotOf?_of_owns {pid : Pid} {s : Seat} {i : Fin maxProcesses}
    (h : s.region.Owns pid i) : (m.slotOf? pid s).1 = some i.val := by
  rw [slotOf?_apply, if_neg h.pid_ne_zero]
  split
  next hme =>
    subst hme
    rw [mySlot?_apply, h.ownSlot?_eq]
  next => exact h.findSlot?_eq

/-! ## Reading -/

section

variable {P : Seat → Prop}

/-- Refusing a result changes nothing. -/
theorem keeps_refuse {ε α : Type} (cause : ε → RegionError) (result : Except ε α) :
    Keeps P (refuse cause result) := by
  cases result with
  | ok a => exact keeps_pure _
  | error e => exact keeps_throw _

/-- Reading a limit changes nothing. -/
theorem keeps_memoryLimit (dev : Nat) : Keeps P (memoryLimit dev) :=
  Keeps.bind_except keeps_get.lift fun _ => keeps_refuse _ _

/-- Nor does summing the usage up. -/
theorem keeps_usageSum (dev : Nat) : Keeps P (usageSum dev) :=
  Keeps.bind_except (keeps_refuse _ _) fun _ =>
    Keeps.bind_except keeps_get.lift fun _ => keeps_pure _

end

/-! ## Reaping -/

/-- The lock is taken and given back around the reaping. -/
theorem clearDead_apply :
    let attempt := s.region.lock.acquire m.pid m.alive m.settings.lock.retries
    m.clearDead s = ((s.region.reap m.pid m.alive).1,
      { s with
        region := { (s.region.reap m.pid m.alive).2 with lock := attempt.word.release }
        expired := s.expired + attempt.expired }) := by
  intro attempt
  unfold clearDead locked
  dsimp only
  rw [Region.reap_setLock]

/-! ## Changing slots -/

/-- A change of the own slot is refused if there is none. -/
private theorem modifyOwn_apply (f : Slot → Slot) :
    (do Seat.modifySlot (← m.mySlot) f : RegionM Unit) s = match m.mySlot? s with
      | (some n, t) => (.ok (), { t with region := t.region.modifySlot n f })
      | (none, t) => (.error (.slotNotFound m.pid), t) := by
  rw [Run.bind_apply, mySlot, Run.bind_apply, Run.lift_apply]
  rcases m.mySlot? s with ⟨_ | n, t⟩ <;> rfl

/-- So is a change of the slot of another process. -/
private theorem modifyOf_apply (f : Slot → Slot) :
    (do Seat.modifySlot (← m.slotOf pid) f : RegionM Unit) s = match m.slotOf? pid s with
      | (some n, t) => (.ok (), { t with region := t.region.modifySlot n f })
      | (none, t) => (.error (.slotNotFound pid), t) := by
  rw [Run.bind_apply, slotOf, Run.bind_apply, Run.lift_apply]
  rcases m.slotOf? pid s with ⟨_ | n, t⟩ <;> rfl

/-- The own host identity is noted in the own slot, if there is one. -/
theorem setHostPid_apply (hostPid : Pid) :
    m.setHostPid hostPid s = match m.mySlot? s with
      | (some n, t) => (.ok (), { t with region := t.region.modifySlot n (·.setHostPid hostPid) })
      | (none, t) => (.error (.slotNotFound m.pid), t) :=
  m.modifyOwn_apply s _

/-- The own status is stored in the own slot, if there is one. -/
theorem setStatus_apply (status : ProcStatus) :
    m.setStatus status s = match m.mySlot? s with
      | (some n, t) => (.ok (), { t with region := t.region.modifySlot n (·.setStatus status) })
      | (none, t) => (.error (.slotNotFound m.pid), t) :=
  m.modifyOwn_apply s _

/-- A charge is refused for the device first, and then for a missing slot. -/
theorem addUsage_apply (dev : Nat) (bytes : UInt64) (kind : UsageKind) :
    m.addUsage pid dev bytes kind s = match device? dev with
      | .error e => (.error (.device e), s)
      | .ok d => match m.slotOf? pid s with
        | (some n, t) =>
          (.ok (), { t with region := t.region.modifySlot n (·.addUsage d kind bytes) })
        | (none, t) => (.error (.slotNotFound pid), t) := by
  rw [addUsage, Run.bind_apply]
  cases device? dev with
  | error e => rfl
  | ok d => exact m.modifyOf_apply pid s _

/-- So is taking a charge back. -/
theorem removeUsage_apply (dev : Nat) (bytes : UInt64) (kind : UsageKind) :
    m.removeUsage pid dev bytes kind s = match device? dev with
      | .error e => (.error (.device e), s)
      | .ok d => match m.slotOf? pid s with
        | (some n, t) =>
          (.ok (), { t with region := t.region.modifySlot n (·.removeUsage d kind bytes) })
        | (none, t) => (.error (.slotNotFound pid), t) := by
  rw [removeUsage, Run.bind_apply]
  cases device? dev with
  | error e => rfl
  | ok d => exact m.modifyOf_apply pid s _

/-! ## Registered processes -/

section

variable {pid : Pid} {s : Seat} {i : Fin maxProcesses}

/-- A registered process notes its host identity in its slot, which it then remembers. -/
theorem setHostPid_of_owns (h : s.region.Owns m.pid i) (hostPid : Pid) :
    m.setHostPid hostPid s = (.ok (), { s with
      region := s.region.modifySlot i (·.setHostPid hostPid), remembered := some i.val }) := by
  rw [m.setHostPid_apply, m.mySlot?_apply, h.ownSlot?_eq]

/-- A process that owns a slot is found in it, and that slot is changed. -/
private theorem modifyOf_of_owns (h : s.region.Owns pid i) (f : Slot → Slot) :
    ∃ t : Seat, t.region = s.region.modifySlot i f ∧
      (match m.slotOf? pid s with
        | (some n, t) => (.ok (), { t with region := t.region.modifySlot n f })
        | (none, t) => (.error (.slotNotFound pid), t) : Except RegionError Unit × Seat) =
      (.ok (), t) := by
  have hfound := m.slotOf?_of_owns h
  have hregion := m.region_slotOf? pid s
  generalize m.slotOf? pid s = found at hfound hregion ⊢
  obtain ⟨n?, t⟩ := found
  obtain rfl : n? = some i.val := hfound
  exact ⟨_, congrArg (·.modifySlot i f) hregion, rfl⟩

/-- Charging a registered process charges its slot. -/
theorem addUsage_of_owns (h : s.region.Owns pid i) (d : DeviceIndex) (bytes : UInt64)
    (kind : UsageKind) :
    ∃ t : Seat, t.region = s.region.modifySlot i (·.addUsage d kind bytes) ∧
      m.addUsage pid d bytes kind s = (.ok (), t) := by
  rw [m.addUsage_apply, device?_val]
  exact m.modifyOf_of_owns h (·.addUsage d kind bytes)

/-- Taking back a charge of a registered process takes it back in its slot. -/
theorem removeUsage_of_owns (h : s.region.Owns pid i) (d : DeviceIndex) (bytes : UInt64)
    (kind : UsageKind) :
    ∃ t : Seat, t.region = s.region.modifySlot i (·.removeUsage d kind bytes) ∧
      m.removeUsage pid d bytes kind s = (.ok (), t) := by
  rw [m.removeUsage_apply, device?_val]
  exact m.modifyOf_of_owns h (·.removeUsage d kind bytes)

end

end Member

end GpuQuota
