import GpuQuota.Proofs.Registry.Reaping

/-!
# Registration is complete

A process is registered in the slot that it has, or in a free one, or, if the table is full, in one
that reaping frees; then the dead are reaped, and the high-water mark, which may just have been
raised, is lowered again. Whichever way it went, the process has one slot afterwards, which it takes
from nobody who is alive, and nobody else has lost or gained anything but the dead. Registration is
refused only where all slots belong to living processes.

The module introduces:

* `Region.Full` — a table that has no slot for a process.
* `Region.Consistent.slotAt_occupy`, `.occupy_eq_none_iff` — handing a free slot out.
* `Region.Granted`, `Region.Consistent.claim_cases` — what a claim comes to.
* `Region.Enrolled`, `Region.Consistent.register_cases`, `Member.register_cases` — what registration
  comes to.
* `Member.register_exact` — what a member that registers a process makes of the table.
-/

namespace GpuQuota

namespace Region

/-- All slots are in use, none by the process and none by a dead process. -/
structure Full (me : Pid) (alive : Pid → Bool) (pid : Pid) (r : Region) : Prop where
  pid_ne : ∀ i, (r.slotAt i).pid ≠ pid
  pid_ne_zero : ∀ i, (r.slotAt i).pid ≠ 0
  not_dead : ∀ i, isDeadSlot me alive (r.slotAt i) = false

/-- A slot was handed to the process: its own, or a free one, or that of a dead process. -/
structure Granted (me : Pid) (alive : Pid → Bool) (pid : Pid) (i : Fin maxProcesses)
    (r r' : Region) : Prop where
  slot_eq : r'.slotAt i = (r.slotAt i).resetFor pid
  /-- The slot is taken from nobody who is alive. -/
  vacant : (r.slotAt i).pid = pid ∨ (r.slotAt i).pid = 0 ∨ isDeadSlot me alive (r.slotAt i)
  /-- A process that has a slot is given that one. -/
  own : ∀ j, (r.slotAt j).pid = pid → j = i
  others : ∀ j, j ≠ i → r'.slotAt j = r.slotAt j ∨
    isDeadSlot me alive (r.slotAt j) ∧ r'.slotAt j = .empty

/-- The process was registered in a slot and the dead were reaped. -/
structure Enrolled (me : Pid) (alive : Pid → Bool) (pid : Pid) (i : Fin maxProcesses)
    (r r' : Region) : Prop where
  /-- The process owns this slot and no other. -/
  pid_eq_iff : ∀ j, (r'.slotAt j).pid = pid ↔ j = i
  status_eq : (r'.slotAt i).status = .running
  hostPid_eq : (r'.slotAt i).hostPid = 0
  seq_eq : (r'.slotAt i).seq = 0
  /-- Nothing is charged and nothing observed. -/
  device_eq : ∀ d, (r'.slotAt i).device d = .zero
  /-- A process that had a slot has kept it. -/
  own : ∀ j, (r.slotAt j).pid = pid → j = i
  /-- The slot was taken from nobody who is alive. -/
  vacant : (r.slotAt i).pid = pid ∨ (r.slotAt i).pid = 0 ∨ isDeadSlot me alive (r.slotAt i)
  /-- Of the other slots those of dead processes are empty, and the rest is as it was. -/
  others : ∀ j, j ≠ i →
    r'.slotAt j = if isDeadSlot me alive (r.slotAt j) then .empty else r.slotAt j
  /-- No dead process has a slot any more. -/
  not_dead : ∀ j, isDeadSlot me alive (r'.slotAt j) = false
  /-- The processes registered are counted. -/
  procNum_eq : r'.procNum = r'.occupied.card

section

variable {r r' : Region} {me pid : Pid} {alive : Pid → Bool} {i : Fin maxProcesses}

theorem Full.setLock (h : r.Full me alive pid) (word : LockWord) :
    { r with lock := word }.Full me alive pid :=
  ⟨h.pid_ne, h.pid_ne_zero, h.not_dead⟩

theorem Enrolled.setLock (h : Enrolled me alive pid i r r') (word word' : LockWord) :
    Enrolled me alive pid i { r with lock := word } { r' with lock := word' } where
  __ := h

/-- A full table has no slot to hand out. -/
theorem Full.not_granted (h : r.Full me alive pid)
    (hvacant : (r.slotAt i).pid = pid ∨ (r.slotAt i).pid = 0 ∨ isDeadSlot me alive (r.slotAt i)) :
    False := by
  rcases hvacant with hown | hfree | hdead
  · exact h.pid_ne i hown
  · exact h.pid_ne_zero i hfree
  · rw [h.not_dead i] at hdead
    cases hdead

namespace Consistent

variable (h : r.Consistent)

include h

/-- Handing a slot out changes one slot, which was free. -/
theorem slotAt_occupy {n : Nat} (ho : r.occupy pid = some (n, r')) :
    ∃ i : Fin maxProcesses, i.val = n ∧ (r.slotAt i).pid = 0 ∧
      ∀ j, r'.slotAt j = if j = i then (r.slotAt i).resetFor pid else r.slotAt j := by
  rw [Region.occupy] at ho
  -- The candidate is the first free slot, or the one at the mark.
  generalize hc : (r.findSlot? (·.isFree)).getD r.mark = c at ho
  dsimp only at ho
  split at ho
  next hi =>
    obtain ⟨rfl, rfl⟩ := Prod.mk.inj (Option.some.inj ho)
    exact ⟨⟨c, hi⟩, rfl, h.pid_candidate hc, (slotAt_modifySlot r ⟨c, hi⟩ · (·.resetFor pid))⟩
  next => cases ho

/-- Without reaping a slot can be handed out unless all are in use. -/
theorem occupy_eq_none_iff : r.occupy pid = none ↔ ∀ i, (r.slotAt i).pid ≠ 0 := by
  rw [Region.occupy]
  generalize hc : (r.findSlot? (·.isFree)).getD r.mark = c
  dsimp only
  split
  next hlt =>
    have hfree : (r.slotAt ⟨c, hlt⟩).pid = 0 := h.pid_candidate hc
    simp only [reduceCtorEq, false_iff, not_forall, not_not]
    exact ⟨_, hfree⟩
  next hge =>
    refine iff_of_true rfl fun i => ?_
    cases hfind : r.findSlot? (·.isFree) with
    | some n =>
      -- A slot that was found lies within the table.
      obtain ⟨j, hjn, -⟩ := findSlot?_eq_some hfind
      rw [hfind, Option.getD_some] at hc
      have hj := j.isLt
      omega
    | none =>
      rw [hfind, Option.getD_none] at hc
      have hi := Region.findSlot?_eq_none_iff.1 hfind i (by omega)
      exact Slot.isFree_eq_false_iff.1 hi

/-- A process without a slot is handed one that is free. -/
theorem granted_occupy (hnew : ∀ j, (r.slotAt j).pid ≠ pid) {n : Nat}
    (ho : r.occupy pid = some (n, r')) :
    ∃ i : Fin maxProcesses, n = i.val ∧ Granted me alive pid i r r' := by
  obtain ⟨i, rfl, hfree, hslot⟩ := h.slotAt_occupy ho
  exact ⟨i, rfl,
    { slot_eq := (hslot i).trans (if_pos rfl)
      vacant := .inr (.inl hfree)
      own := fun j hj => absurd hj (hnew j)
      others := fun j hj => .inl ((hslot j).trans (if_neg hj)) }⟩

/-- What is handed out after reaping was free or belonged to a dead process. -/
theorem granted_of_reap (hg : Granted me alive pid i (r.reap me alive).2 r')
    (hnew : ∀ j, (r.slotAt j).pid ≠ pid) : Granted me alive pid i r r' where
  slot_eq := hg.slot_eq
  vacant := by
    have hvacant := hg.vacant
    rw [h.slotAt_reap] at hvacant
    -- A slot that is empty after the reaping had been free before or held a dead process.
    split at hvacant
    next hdead => exact .inr (.inr hdead)
    next => exact hvacant
  own j hj := absurd hj (hnew j)
  others j hj := by
    have hother := hg.others j hj
    rw [h.slotAt_reap] at hother
    split at hother
    next hdead => exact .inr ⟨hdead, hother.elim id (·.2)⟩
    next => exact hother

/-- A claim fails only if the table is full, and then it changes no slot. -/
theorem claim_cases (me : Pid) (alive : Pid → Bool) (hpid : pid ≠ 0) :
    ((r.claim me alive pid).1 = none ∧ r.Full me alive pid ∧
      ∀ i, (r.claim me alive pid).2.slotAt i = r.slotAt i) ∨
    ∃ i : Fin maxProcesses, (r.claim me alive pid).1 = some i.val ∧
      Granted me alive pid i r (r.claim me alive pid).2 := by
  rw [Region.claim]
  split
  next n hfind =>
    -- The process has a slot, which is started afresh.
    obtain ⟨i, rfl, -, hi, -⟩ := findSlot?_eq_some hfind
    have hown : (r.slotAt i).pid = pid := beq_iff_eq.1 hi
    refine .inr ⟨i, rfl, ?_, .inl hown, fun j hj => ?_, fun j hj => .inl ?_⟩
    · rw [slotAt_modifySlot, if_pos rfl]
    · exact h.pid_injective j i (hj ▸ hpid) (hj.trans hown.symm)
    · rw [slotAt_modifySlot, if_neg hj]
  next hfind =>
    have hnew : ∀ j, (r.slotAt j).pid ≠ pid := by
      have := (h.findSlot?_eq_none_iff fun s hs => by
        rw [beq_iff_eq] at hs
        exact hs ▸ hpid).1 hfind
      simpa using this
    split
    next n r' ho =>
      obtain ⟨i, rfl, hg⟩ := h.granted_occupy hnew ho
      exact .inr ⟨i, rfl, hg⟩
    next ho =>
      have hfull := h.occupy_eq_none_iff.1 ho
      have hreap := h.reap me alive
      have hnew' : ∀ j, ((r.reap me alive).2.slotAt j).pid ≠ pid := by
        intro j
        rw [h.slotAt_reap]
        split
        next => exact hpid.symm
        next => exact hnew j
      dsimp only
      split
      next hnone =>
        -- Nobody is dead, so reaping has changed no slot.
        have hliving : ∀ i, isDeadSlot me alive (r.slotAt i) = false := by
          intro i
          rw [fst_reap, Finset.card_eq_zero] at hnone
          by_contra hdead
          rw [Bool.not_eq_false] at hdead
          have hi : i ∈ r.deadSlots me alive := mem_deadSlots.2 ⟨h.lt_mark (hfull i), hdead⟩
          rw [hnone] at hi
          exact Finset.notMem_empty i hi
        refine .inl ⟨rfl, ⟨hnew, hfull, hliving⟩, fun i => ?_⟩
        rw [h.slotAt_reap, hliving]
        rfl
      next hsome =>
        split
        next n r' ho' =>
          obtain ⟨i, rfl, hg⟩ := hreap.granted_occupy hnew' ho'
          exact .inr ⟨i, rfl, h.granted_of_reap hg hnew⟩
        next ho' =>
          -- A slot that was cleared is free.
          rw [fst_reap] at hsome
          obtain ⟨i, hi⟩ := Finset.card_pos.1 (Nat.pos_of_ne_zero hsome)
          have hfree := hreap.occupy_eq_none_iff.1 ho' i
          rw [pid_reap, if_pos hi] at hfree
          exact absurd rfl hfree

end Consistent

/-- Reaping spares the slot that was just handed out. -/
theorem Granted.enrolled (hg : Granted me alive pid i r r') (hr' : r'.Consistent)
    (hpid : pid ≠ 0) (hlive : pid = me ∨ alive pid) :
    Enrolled me alive pid i r (r'.reap me alive).2 := by
  have hreap := hr'.reap me alive
  have hslot : ∀ j, (r'.reap me alive).2.slotAt j = _ := fun j => hr'.slotAt_reap j
  have hown : (r'.slotAt i).pid = pid := by rw [hg.slot_eq, Slot.pid_resetFor]
  have hspared : (r'.reap me alive).2.slotAt i = (r.slotAt i).resetFor pid := by
    rw [hslot, isDeadSlot_eq_false_of_living (by rwa [hown]), hg.slot_eq]
    rfl
  exact
    { pid_eq_iff := fun j => by
        have hi : ((r'.reap me alive).2.slotAt i).pid = pid := by rw [hspared, Slot.pid_resetFor]
        refine ⟨fun hj => ?_, fun hj => hj ▸ hi⟩
        exact hreap.pid_injective j i (hj ▸ hpid) (hj.trans hi.symm)
      status_eq := by rw [hspared]; rfl
      hostPid_eq := by rw [hspared]; rfl
      seq_eq := by rw [hspared]; rfl
      device_eq := fun d => by rw [hspared]; exact Slot.device_replicate_zero rfl d
      own := hg.own
      vacant := hg.vacant
      others := fun j hj => by
        -- A slot that the claim has emptied is empty already.
        rcases hg.others j hj with hsame | ⟨hdead, hempty⟩
        · rw [hslot, hsame]
        · rw [hslot, hempty, if_pos hdead, ite_self]
      not_dead := hr'.not_dead_reap me alive
      procNum_eq := hreap.procNum_eq }

/-- Registration fails only if the table is full, and then it changes no slot. -/
theorem Consistent.register_cases (h : r.Consistent) (hpid : pid ≠ 0)
    (hlive : pid = me ∨ alive pid) :
    ((r.register me alive pid).1 = none ∧ r.Full me alive pid ∧
      ∀ i, (r.register me alive pid).2.slotAt i = r.slotAt i) ∨
    ∃ i : Fin maxProcesses, (r.register me alive pid).1 = some i.val ∧
      Enrolled me alive pid i r (r.register me alive pid).2 := by
  have hclaim := h.claim me alive hpid
  have hcases := h.claim_cases me alive hpid
  rw [Region.register]
  -- Registering is claiming a slot and raising the mark behind it.
  generalize r.claim me alive pid = claimed at hclaim hcases
  obtain ⟨n?, r'⟩ := claimed
  obtain ⟨rfl, hfull, hslot⟩ | ⟨i, rfl, hg⟩ := hcases
  · exact .inl ⟨rfl, hfull, hslot⟩
  · exact .inr ⟨i, rfl, hg.enrolled hclaim hpid hlive⟩

end

end Region

namespace Member

variable (m : Member)

theorem register_apply (pid : Pid) (s : Seat) :
    m.register pid s = match m.locked (·.register m.pid m.alive pid) s with
      | (some n, t) => (.ok n, t)
      | (none, t) => (.error .capacityExhausted, t) := by
  rw [register, Run.bind_apply, Run.lift_apply]
  rcases m.locked (·.register m.pid m.alive pid) s with ⟨_ | n, t⟩ <;> rfl

/-- A process that is alive, or the member itself, is registered, or the table is full. The lock,
which is taken and given back meanwhile, does not show in either. -/
theorem register_cases {s : Seat} {pid : Pid} (hs : s.region.Consistent) (hpid : pid ≠ 0)
    (hlive : pid = m.pid ∨ m.alive pid) :
    ((m.register pid s).1 = .error .capacityExhausted ∧ s.region.Full m.pid m.alive pid ∧
      ∀ i, (m.register pid s).2.region.slotAt i = s.region.slotAt i) ∨
    ∃ i : Fin maxProcesses, (m.register pid s).1 = .ok i.val ∧
      Region.Enrolled m.pid m.alive pid i s.region (m.register pid s).2.region := by
  -- The registration works on the region with its lock taken, which has the same table.
  let word := (s.region.lock.acquire m.pid m.alive m.settings.lock.retries).word
  have hcases := (hs.setLock word).register_cases hpid hlive
  rw [m.register_apply, locked]
  dsimp only
  generalize Region.register _ m.pid m.alive pid = registered at hcases
  obtain ⟨n?, r'⟩ := registered
  obtain ⟨rfl, hfull, hslot⟩ | ⟨i, rfl, he⟩ := hcases
  · exact .inl ⟨rfl, hfull.setLock s.region.lock, hslot⟩
  · exact .inr ⟨i, rfl, he.setLock s.region.lock _⟩

/-- Registering a process that is alive, or the caller itself, is refused exactly if it has no slot,
all slots are in use, and none of them belongs to a dead process; and then no slot changes.
Otherwise the process owns the slot that is returned, and no other, with nothing charged and nothing
observed; it is the slot that the process had before, if it had one. Of the other slots those of
dead processes are free, all the rest is unchanged, and the processes are counted. -/
theorem register_exact (pid : Pid) {s : Seat} (hs : s.region.Consistent)
    (hpid : pid ≠ 0) (hlive : pid = m.pid ∨ m.alive pid) :
    let answer := (m.register pid s).1
    let after := (m.register pid s).2.region
    (answer = .error .capacityExhausted ↔ s.region.Full m.pid m.alive pid) ∧
    (answer = .error .capacityExhausted → ∀ i, after.slotAt i = s.region.slotAt i) ∧
    (answer ≠ .error .capacityExhausted → ∃ i : Fin maxProcesses,
      answer = .ok i.val ∧ Region.Enrolled m.pid m.alive pid i s.region after) := by
  intro answer after
  obtain ⟨hanswer, hfull, hslot⟩ | ⟨i, hanswer, he⟩ := m.register_cases hs hpid hlive
  · exact ⟨iff_of_true hanswer hfull, fun _ => hslot, fun hother => absurd hanswer hother⟩
  · have hok : answer ≠ .error .capacityExhausted := by
      rw [show answer = .ok i.val from hanswer]
      exact nofun
    exact ⟨iff_of_false hok fun hfull => hfull.not_granted he.vacant,
      fun hrefused => absurd hrefused hok, fun _ => ⟨i, hanswer, he⟩⟩

/-- The table has a slot of a process that has crashed when another one registers. -/
theorem register_exact_after_crash :
    ∃ (m : Member) (s : Seat) (i j : Fin maxProcesses),
      (s.region.slotAt j).pid = 8 ∧ ¬ m.alive 8 ∧ (m.register m.pid s).1 = .ok i.val ∧
      Region.Enrolled m.pid m.alive m.pid i s.region (m.register m.pid s).2.region := by
  let all : Pid → Bool := fun _ => true
  let m : Member := ⟨7, .standard, (· == 7)⟩
  let j : Fin maxProcesses := ⟨0, by decide⟩
  have hc := (Population.consistent_setUp .standard 0).register 8 all (show (8 : Pid) ≠ 0 by decide)
  generalize hr : (Region.register _ 8 all 8).2 = r at hc
  have hj : (r.slotAt j).pid = 8 := by rw [← hr]; decide +kernel
  obtain ⟨hrefused, -, henrolled⟩ := m.register_exact 7 (s := ⟨r, none, 0⟩) hc
    (by decide) (.inl rfl)
  -- The slot of the crashed process can be taken.
  have hroom : ¬ r.Full m.pid m.alive 7 := fun hfull => by
    have := hfull.not_dead j
    rw [← Bool.not_eq_true, Region.isDeadSlot_iff, hj] at this
    exact this ⟨by decide, by decide, rfl⟩
  obtain ⟨i, hok, he⟩ := henrolled fun hanswer => hroom (hrefused.1 hanswer)
  exact ⟨m, _, i, j, hj, by decide, hok, he⟩

end Member

end GpuQuota
