import GpuQuota.Proofs.Registry.Scan

/-!
# Consistent process tables

The invariant of the process table, and the operations of the registry that keep it. Its parts
hold only together: a search that stops at the high-water mark finds every slot of a process
because all slots beyond it are free, and a slot that is handed out is blank because every free
slot is.

The module introduces:

* `Region.occupied` — the indices of the slots that belong to a process.
* `Slot.IsBlank` — nothing is known of an owner and nothing is charged or observed.
* `Region.Consistent` — the invariant.
* `Region.reap_eq`, `Region.slotAt_sweep`, `Region.highWater_trim_le_iff` — what reaping does to
  slots and mark; `Region.reap_setLock` — what it does not see.
* `Region.Consistent.congr`, `.modifySlot`, `.occupy`, `.reap`, `.claim`, `.register`,
  `.unregister` — the operations that keep it.
-/

namespace GpuQuota

namespace Slot

/-- No host identity is known, and nothing is charged or observed on any device. -/
def IsBlank (s : Slot) : Prop := s.hostPid = 0 ∧ ∀ d, s.device d = .zero

theorem isFree_iff {s : Slot} : s.isFree = true ↔ s.pid = 0 := by simp [isFree]

theorem isFree_eq_false_iff {s : Slot} : s.isFree = false ↔ s.pid ≠ 0 := by simp [isFree]

theorem device_replicate_zero {s : Slot} (h : s.devices = .replicate _ .zero) (d : DeviceIndex) :
    s.device d = .zero := by
  rw [device, h]
  exact Vector.getElem_replicate _

@[simp] theorem pid_empty : empty.pid = 0 := rfl

theorem isBlank_empty : empty.IsBlank :=
  ⟨rfl, device_replicate_zero rfl⟩

end Slot

namespace Region

/-- The indices of the slots that belong to a process. -/
def occupied (r : Region) : Finset (Fin maxProcesses) :=
  Finset.univ.filter fun i => (r.slotAt i).pid ≠ 0

@[simp] theorem mem_occupied {r : Region} {i : Fin maxProcesses} :
    i ∈ r.occupied ↔ (r.slotAt i).pid ≠ 0 := by
  simp [occupied]

/-- The invariant of the process table. -/
structure Consistent (r : Region) : Prop where
  /-- No process owns two slots. -/
  pid_injective : ∀ i j : Fin maxProcesses,
    (r.slotAt i).pid ≠ 0 → (r.slotAt i).pid = (r.slotAt j).pid → i = j
  /-- The number of processes is the number of slots in use. -/
  procNum_eq : r.procNum = r.occupied.card
  highWater_nonneg : 0 ≤ r.highWater
  highWater_le : r.highWater ≤ maxProcesses
  /-- No slot at or beyond the high-water mark is in use. -/
  free_of_highWater_le : ∀ i : Fin maxProcesses, r.highWater ≤ i.val → (r.slotAt i).pid = 0
  /-- A free slot holds nothing of its last owner. -/
  blank_of_free : ∀ i : Fin maxProcesses, (r.slotAt i).pid = 0 → (r.slotAt i).IsBlank

namespace Consistent

variable {r r' : Region}

/-- The scans of a consistent table go exactly up to the high-water mark. -/
theorem mark_eq (h : r.Consistent) : (r.mark : Int) = r.highWater := by
  have h₁ := h.highWater_nonneg
  have h₂ := h.highWater_le
  rw [mark]
  omega

/-- Scans see every slot in use. -/
theorem lt_mark (h : r.Consistent) {i : Fin maxProcesses} (hi : (r.slotAt i).pid ≠ 0) :
    i.val < r.mark := by
  by_contra hge
  have hmark := h.mark_eq
  exact hi (h.free_of_highWater_le i (by omega))

/-- There are never more processes than slots. -/
theorem card_occupied_le (r : Region) : r.occupied.card ≤ maxProcesses := by
  simpa using Finset.card_le_univ r.occupied

/-- A search for slots in use finds nothing only if there is nothing to find. -/
theorem findSlot?_eq_none_iff (h : r.Consistent) {p : Slot → Bool}
    (hp : ∀ s, p s = true → s.pid ≠ 0) :
    r.findSlot? p = none ↔ ∀ i : Fin maxProcesses, p (r.slotAt i) = false := by
  rw [Region.findSlot?_eq_none_iff]
  refine ⟨fun hall i => ?_, fun hall i _ => hall i⟩
  by_contra hi
  rw [Bool.not_eq_false] at hi
  rw [hall i (h.lt_mark (hp _ hi))] at hi
  cases hi

/-- A table without processes is consistent. -/
theorem of_unused (hfree : ∀ i, (r.slotAt i).pid = 0) (hblank : ∀ i, (r.slotAt i).IsBlank)
    (hnum : r.procNum = 0) (hmark : r.highWater = 0) : r.Consistent where
  pid_injective i j hi := absurd (hfree i) hi
  procNum_eq := by
    have hempty : r.occupied = ∅ := by
      ext i
      simp [hfree]
    rw [hnum, hempty]
    rfl
  highWater_nonneg := hmark.ge
  highWater_le := by
    rw [hmark]
    exact Int.natCast_nonneg _
  free_of_highWater_le i _ := hfree i
  blank_of_free i _ := hblank i

/-! ## Changes that leave owners alone -/

/-- A change of slots that neither moves an owner nor touches a free slot keeps the invariant. -/
theorem congr (h : r.Consistent)
    (hpid : ∀ i : Fin maxProcesses, (r'.slotAt i).pid = (r.slotAt i).pid)
    (hfree : ∀ i : Fin maxProcesses, (r.slotAt i).pid = 0 → r'.slotAt i = r.slotAt i)
    (hnum : r'.procNum = r.procNum) (hmark : r'.highWater = r.highWater) : r'.Consistent where
  pid_injective i j hi hij := by
    rw [hpid] at hi
    rw [hpid, hpid] at hij
    exact h.pid_injective i j hi hij
  procNum_eq := by
    -- The same slots are occupied, so that their number is still the one noted.
    have hocc : r'.occupied = r.occupied := by
      ext i
      rw [mem_occupied, mem_occupied, hpid]
    rw [hnum, h.procNum_eq, hocc]
  highWater_nonneg := hmark ▸ h.highWater_nonneg
  highWater_le := hmark ▸ h.highWater_le
  free_of_highWater_le i hi := by
    rw [hpid]
    exact h.free_of_highWater_le i (hmark ▸ hi)
  blank_of_free i hi := by
    rw [hpid] at hi
    rw [hfree i hi]
    exact h.blank_of_free i hi

/-- The invariant says nothing about the lock. -/
theorem setLock (h : r.Consistent) (w : LockWord) : { r with lock := w }.Consistent :=
  h.congr (fun _ => rfl) (fun _ _ => rfl) rfl rfl

/-- A slot in use may change in everything but its owner. -/
theorem modifySlot (h : r.Consistent) {i : Fin maxProcesses} {f : Slot → Slot}
    (hi : (r.slotAt i).pid ≠ 0) (hf : (f (r.slotAt i)).pid = (r.slotAt i).pid) :
    (r.modifySlot i f).Consistent := by
  refine h.congr (fun j => ?_) (fun j hj => ?_) (procNum_modifySlot ..) (highWater_modifySlot ..)
  · rw [slotAt_modifySlot]
    split
    next hji => rw [hf, hji]
    next => rfl
  · rw [slotAt_modifySlot, if_neg]
    rintro rfl
    exact hi hj

/-! ## Handing slots out and taking them back -/

/-- A free slot may be handed to a process that has none. -/
theorem handOut (h : r.Consistent) {i : Fin maxProcesses} {s : Slot}
    (hfree : (r.slotAt i).pid = 0) (hs : s.pid ≠ 0) (hnew : ∀ j, (r.slotAt j).pid ≠ s.pid)
    (hslot : ∀ j, r'.slotAt j = if j = i then s else r.slotAt j)
    (hnum : r'.procNum = r.procNum + 1)
    (hmark : r'.highWater = max r.highWater (i.val + 1)) : r'.Consistent where
  pid_injective j k hj hjk := by
    rw [hslot] at hj hjk
    rw [hslot k] at hjk
    -- Two slots of one process are both the new slot or both older.
    split at hjk
    next hji =>
      split at hjk
      next hki => rw [hji, hki]
      next => exact absurd hjk.symm (hnew k)
    next hji =>
      rw [if_neg hji] at hj
      split at hjk
      next => exact absurd hjk (hnew j)
      next => exact h.pid_injective j k hj hjk
  procNum_eq := by
    -- The slot was free, so it adds one to the slots in use.
    have hmem : i ∉ r.occupied := by simp [hfree]
    have hocc : r'.occupied = insert i r.occupied := by
      ext j
      rw [Finset.mem_insert, mem_occupied, mem_occupied, hslot]
      by_cases hji : j = i <;> simp [hji, hs]
    rw [hnum, h.procNum_eq, hocc, Finset.card_insert_of_notMem hmem]
    push_cast
    rfl
  highWater_nonneg := by
    have := h.highWater_nonneg
    omega
  highWater_le := by
    have h₁ := h.highWater_le
    have h₂ := i.isLt
    omega
  free_of_highWater_le j hj := by
    have hji : j ≠ i := by
      rintro rfl
      omega
    rw [hslot, if_neg hji]
    exact h.free_of_highWater_le j (by omega)
  blank_of_free j hj := by
    rw [hslot] at hj ⊢
    split
    next hji =>
      rw [if_pos hji] at hj
      exact absurd hj hs
    next hji =>
      rw [if_neg hji] at hj
      exact h.blank_of_free j hj

/-- Slots in use may be cleared. The mark may go down as long as no slot in use lies beyond it. -/
theorem takeBack (h : r.Consistent) (given : Finset (Fin maxProcesses))
    (hgiven : given ⊆ r.occupied)
    (hslot : ∀ i, r'.slotAt i = if i ∈ given then .empty else r.slotAt i)
    (hnum : r'.procNum = r.procNum - given.card)
    (hnonneg : 0 ≤ r'.highWater) (hle : r'.highWater ≤ maxProcesses)
    (hfree : ∀ i : Fin maxProcesses, r'.highWater ≤ i.val → (r'.slotAt i).pid = 0) :
    r'.Consistent where
  pid_injective i j hi hij := by
    rw [hslot] at hi hij
    rw [hslot j] at hij
    split at hi
    next => exact absurd rfl hi
    next hig =>
      rw [if_neg hig] at hij
      split at hij
      next => exact absurd hij hi
      next => exact h.pid_injective i j hi hij
  procNum_eq := by
    -- What is occupied is what was occupied without the slots given back.
    have hocc : r'.occupied = r.occupied \ given := by
      ext i
      rw [Finset.mem_sdiff, mem_occupied, mem_occupied, hslot]
      by_cases hi : i ∈ given <;> simp [hi]
    have hcard := Finset.card_le_card hgiven
    rw [hnum, h.procNum_eq, hocc, Finset.card_sdiff_of_subset hgiven]
    omega
  highWater_nonneg := hnonneg
  highWater_le := hle
  free_of_highWater_le := hfree
  blank_of_free i hi := by
    rw [hslot] at hi ⊢
    split
    next => exact Slot.isBlank_empty
    next hig =>
      rw [if_neg hig] at hi
      exact h.blank_of_free i hi

end Consistent

/-! ## Reaping -/

/-- Lowers the high-water mark to one past the last slot in use that a scan sees. -/
def trim (r : Region) : Region := { r with highWater := occupiedLength r.scanned }

/-- Trailing free slots are out of sight after trimming, and nothing else is. -/
theorem highWater_trim_le_iff {r : Region} {n : Nat} :
    r.trim.highWater ≤ n ↔
      ∀ i : Fin maxProcesses, i.val < r.mark → n ≤ i.val → (r.slotAt i).pid = 0 := by
  have hlen : r.scanned.length = r.mark := by
    rw [scanned, List.length_take, Vector.length_toList]
    exact Nat.min_eq_left r.mark_le
  rw [trim, Int.ofNat_le, occupiedLength_le_iff]
  -- The length of the occupied part is bounded as long as what lies behind is free.
  constructor
  · intro h i hi hn
    have := h i (by omega) hn
    simpa [scanned, Slot.isFree_iff, slotAt] using this
  · intro h i hi hn
    have := h ⟨i, by have := r.mark_le; omega⟩ (by simpa [hlen] using hi) hn
    simpa [scanned, Slot.isFree_iff, slotAt] using this

/-- A slot in use that scans see is seen after trimming. -/
theorem lt_mark_trim {r : Region} {i : Fin maxProcesses} (hi : (r.slotAt i).pid ≠ 0)
    (hlt : i.val < r.mark) : i.val < r.trim.mark := by
  -- Trimming stops behind a slot in use.
  have hmark : ¬ r.trim.highWater ≤ i.val :=
    fun hle => hi (highWater_trim_le_iff.1 hle i hlt le_rfl)
  have hroom := i.isLt
  rw [mark]
  omega

section Reap

variable (r : Region) (me : Pid) (alive : Pid → Bool)

theorem isDeadSlot_iff {s : Slot} :
    isDeadSlot me alive s = true ↔ s.pid ≠ 0 ∧ s.pid ≠ me ∧ alive s.pid = false := by
  simp [isDeadSlot, Slot.isFree, and_assoc]

variable {me alive} in
/-- A slot that belongs to the process that reaps, or to a living one, is not a dead one. -/
theorem isDeadSlot_eq_false_of_living {s : Slot} (h : s.pid = me ∨ alive s.pid = true) :
    isDeadSlot me alive s = false := by
  rw [← Bool.not_eq_true, isDeadSlot_iff]
  rintro ⟨-, hne, hdead⟩
  rcases h with hme | halive
  · exact hne hme
  · rw [hdead] at halive
    cases halive

/-- The slots that reaping clears. -/
def deadSlots : Finset (Fin maxProcesses) :=
  Finset.univ.filter fun i => i.val < r.mark ∧ isDeadSlot me alive (r.slotAt i)

theorem mem_deadSlots {r : Region} {me : Pid} {alive : Pid → Bool} {i : Fin maxProcesses} :
    i ∈ r.deadSlots me alive ↔ i.val < r.mark ∧ isDeadSlot me alive (r.slotAt i) = true := by
  simp [deadSlots]

/-- Clears the slots of dead processes that a scan sees, without lowering the mark. -/
def sweep : Region :=
  if r.scanned.countP (isDeadSlot me alive) = 0 then r else
    { r with
      slots := r.slots.mapIdx fun i s =>
        if i < r.mark && isDeadSlot me alive s then s.clear else s
      procNum := wrap32 (r.procNum - r.scanned.countP (isDeadSlot me alive)) }

/-- Reaping clears the dead slots, then lowers the mark, and gives the number of slots cleared. -/
theorem reap_eq : r.reap me alive = ((r.deadSlots me alive).card, (r.sweep me alive).trim) := by
  rw [deadSlots, ← countP_scanned]
  rfl

/-- Reaping gives the number of slots that it clears. -/
theorem fst_reap : (r.reap me alive).1 = (r.deadSlots me alive).card := by
  rw [reap_eq]

/-- A sweep clears the slots of dead processes below the mark and no others. -/
theorem slotAt_sweep (i : Fin maxProcesses) :
    (r.sweep me alive).slotAt i =
      if i ∈ r.deadSlots me alive then .empty else r.slotAt i := by
  rw [sweep]
  split
  next hzero =>
    -- Without dead slots the sweep does nothing, which clears all of them.
    rw [countP_scanned, Finset.card_eq_zero] at hzero
    have hi : i ∉ r.deadSlots me alive := by
      rw [deadSlots, hzero]
      exact Finset.notMem_empty i
    rw [if_neg hi]
  next =>
    simp only [slotAt, Fin.getElem_fin, Vector.getElem_mapIdx]
    refine if_congr ?_ rfl rfl
    rw [mem_deadSlots, Bool.and_eq_true, decide_eq_true_iff]
    rfl

/-- Reaping clears the slots that a sweep clears. -/
theorem slotAt_reap (i : Fin maxProcesses) :
    (r.reap me alive).2.slotAt i =
      if i ∈ r.deadSlots me alive then .empty else r.slotAt i := by
  rw [reap_eq]
  exact r.slotAt_sweep me alive i

/-- A slot that was cleared belongs to nobody. -/
theorem pid_reap (i : Fin maxProcesses) :
    ((r.reap me alive).2.slotAt i).pid =
      if i ∈ r.deadSlots me alive then 0 else (r.slotAt i).pid := by
  rw [slotAt_reap]
  split <;> rfl

@[simp] theorem mark_sweep : (r.sweep me alive).mark = r.mark := by
  rw [sweep]
  split <;> rfl

/-- What a sweep takes from the number of processes. -/
theorem procNum_sweep (h : -2 ^ 31 ≤ r.procNum - (r.deadSlots me alive).card)
    (h' : r.procNum < 2 ^ 31) :
    (r.sweep me alive).procNum = r.procNum - (r.deadSlots me alive).card := by
  rw [sweep, countP_scanned, ← deadSlots]
  split
  next hzero => rw [hzero]; omega
  next => exact wrap32_eq_self h (by omega)

theorem sweep_setLock (word : LockWord) :
    { r with lock := word }.sweep me alive = { r.sweep me alive with lock := word } := by
  unfold sweep
  by_cases hzero : r.scanned.countP (isDeadSlot me alive) = 0
  · have hzero' : { r with lock := word }.scanned.countP (isDeadSlot me alive) = 0 := hzero
    rw [if_pos hzero, if_pos hzero']
  · have hzero' : ¬ { r with lock := word }.scanned.countP (isDeadSlot me alive) = 0 := hzero
    rw [if_neg hzero, if_neg hzero']
    rfl

/-- Reaping neither looks at the lock nor changes it. -/
theorem reap_setLock (word : LockWord) :
    { r with lock := word }.reap me alive =
      ((r.reap me alive).1, { (r.reap me alive).2 with lock := word }) := by
  have hdead : { r with lock := word }.deadSlots me alive = r.deadSlots me alive := rfl
  rw [reap_eq, reap_eq, sweep_setLock, hdead]
  dsimp only
  rfl

end Reap

/-- Forgetting what was observed changes the slots in use that a scan sees. -/
theorem slotAt_resetObserved (r : Region) (i : Fin maxProcesses) :
    r.resetObserved.slotAt i =
      if i.val < r.mark && !(r.slotAt i).isFree then (r.slotAt i).resetObserved
      else r.slotAt i := by
  simp [resetObserved, slotAt]

/-! ## The operations of the registry -/

namespace Consistent

variable {r : Region} {me : Pid} {alive : Pid → Bool} {pid : Pid}

/-- Only slots in use are dead. -/
theorem deadSlots_subset (r : Region) (me : Pid) (alive : Pid → Bool) :
    r.deadSlots me alive ⊆ r.occupied := by
  intro i hi
  rw [mem_occupied]
  exact ((isDeadSlot_iff me alive).1 (mem_deadSlots.1 hi).2).1

/-- Reaping clears exactly the slots of dead processes. -/
theorem slotAt_reap (h : r.Consistent) (i : Fin maxProcesses) :
    (r.reap me alive).2.slotAt i =
      if isDeadSlot me alive (r.slotAt i) then .empty else r.slotAt i := by
  refine (Region.slotAt_reap r me alive i).trans (if_congr ?_ rfl rfl)
  rw [mem_deadSlots]
  refine ⟨fun hi => hi.2, fun hi => ⟨h.lt_mark ?_, hi⟩⟩
  exact ((isDeadSlot_iff me alive).1 hi).1

/-- Reaping keeps the table consistent. -/
theorem reap (h : r.Consistent) (me : Pid) (alive : Pid → Bool) :
    (r.reap me alive).2.Consistent := by
  have hsub := deadSlots_subset r me alive
  have hcard := Finset.card_le_card hsub
  have hmax := card_occupied_le r
  have hnum := h.procNum_eq
  have hmark : (r.sweep me alive).trim.highWater ≤ r.mark :=
    highWater_trim_le_iff.2 fun i hi hn => by rw [mark_sweep] at hi; omega
  rw [reap_eq]
  refine h.takeBack (r.deadSlots me alive) hsub (slotAt_sweep r me alive) ?_ ?_ ?_ ?_
  · -- The number of processes is far from the ends of its word.
    have hsize : maxProcesses = 1024 := rfl
    exact procNum_sweep r me alive (by omega) (by omega)
  · exact Int.natCast_nonneg _
  · exact hmark.trans (Int.ofNat_le.2 r.mark_le)
  · -- A slot beyond the new mark was trimmed away or lay beyond the old mark.
    intro i hi
    by_cases hlt : i.val < r.mark
    · exact highWater_trim_le_iff.1 hi i (by rwa [mark_sweep]) le_rfl
    · have hfree : (r.slotAt i).pid = 0 :=
        h.free_of_highWater_le i (by have := h.mark_eq; omega)
      show ((r.sweep me alive).slotAt i).pid = 0
      rw [slotAt_sweep]
      split
      next => rfl
      next => exact hfree

/-- The slot that would be handed out is free. -/
theorem pid_candidate (h : r.Consistent) {i : Fin maxProcesses}
    (hi : (r.findSlot? (·.isFree)).getD r.mark = i) : (r.slotAt i).pid = 0 := by
  -- The first free slot below the mark is free, and so is the one at the mark.
  cases hfind : r.findSlot? (·.isFree) with
  | some n =>
    obtain ⟨j, hjn, -, hfree, -⟩ := findSlot?_eq_some hfind
    rw [hfind, Option.getD_some, ← hjn] at hi
    exact Slot.isFree_iff.1 (Fin.ext hi ▸ hfree)
  | none =>
    have hmark := h.mark_eq
    rw [hfind, Option.getD_none] at hi
    exact h.free_of_highWater_le i (by omega)

/-- A process that has no slot may be given one. -/
theorem occupy (h : r.Consistent) (hpid : pid ≠ 0) (hnew : ∀ j, (r.slotAt j).pid ≠ pid)
    {n : Nat} (ho : r.occupy pid = some (n, r')) : r'.Consistent := by
  rw [Region.occupy] at ho
  generalize hc : (r.findSlot? (·.isFree)).getD r.mark = c at ho
  dsimp only at ho
  split at ho
  next hi =>
    have hcard := card_occupied_le r
    have hnum := h.procNum_eq
    have hsize : maxProcesses = 1024 := rfl
    have hmark := h.mark_eq
    obtain ⟨-, rfl⟩ := Prod.mk.inj (Option.some.inj ho)
    refine h.handOut (i := ⟨c, hi⟩) (s := (r.slotAt ⟨c, hi⟩).resetFor pid)
      (h.pid_candidate hc) hpid hnew (slotAt_modifySlot r ⟨c, hi⟩ · (·.resetFor pid)) ?_ ?_
    · exact wrap32_eq_self (by omega) (by omega)
    · -- The mark moves only if the slot is the one at the mark.
      show (if r.mark ≤ c then (c + 1 : Int) else r.highWater) = max r.highWater (c + 1)
      by_cases hle : r.mark ≤ c
      · rw [if_pos hle, max_eq_right (by omega)]
      · rw [if_neg hle, max_eq_left (by omega)]
  next => cases ho

/-- Claiming a slot for a process keeps the table consistent. -/
theorem claim (h : r.Consistent) (me : Pid) (alive : Pid → Bool) (hpid : pid ≠ 0) :
    (r.claim me alive pid).2.Consistent := by
  rw [Region.claim]
  split
  next n hfind =>
    -- The process has a slot already, which is reset in place.
    obtain ⟨i, rfl, -, hi, -⟩ := findSlot?_eq_some hfind
    have hown : (r.slotAt i).pid = pid := by simpa using hi
    exact h.modifySlot (f := (·.resetFor pid)) (hown ▸ hpid) hown.symm
  next hfind =>
    -- No slot below the mark is its own, and beyond the mark all slots are free.
    have hnew : ∀ j, (r.slotAt j).pid ≠ pid := by
      have := (h.findSlot?_eq_none_iff fun s hs => by
        rw [beq_iff_eq] at hs
        exact hs ▸ hpid).1 hfind
      simpa using this
    split
    next ho => exact h.occupy hpid hnew ho
    next =>
      have hr := h.reap me alive
      dsimp only
      split
      next => exact hr
      next =>
        -- Reaping takes slots away and so leaves the process without one.
        have hnew' : ∀ j, ((r.reap me alive).2.slotAt j).pid ≠ pid := by
          intro j
          rw [h.slotAt_reap]
          split
          next => exact hpid.symm
          next => exact hnew j
        split
        next ho => exact hr.occupy hpid hnew' ho
        next => exact hr

/-- Registering a process keeps the table consistent. -/
theorem register (h : r.Consistent) (me : Pid) (alive : Pid → Bool) (hpid : pid ≠ 0) :
    (r.register me alive pid).2.Consistent := by
  have hc := h.claim me alive hpid
  rw [Region.register]
  split
  next heq =>
    rw [heq] at hc
    exact hc.reap me alive
  next heq => exact heq ▸ hc

/-- Giving the slot of a process back keeps the table consistent. -/
theorem unregister (h : r.Consistent) (hpid : pid ≠ 0) : (r.unregister pid).2.Consistent := by
  rw [Region.unregister]
  split
  next n hfind =>
    obtain ⟨i, rfl, -, hi, -⟩ := findSlot?_eq_some hfind
    have hown : (r.slotAt i).pid = pid := by simpa using hi
    have hocc : (r.slotAt i).pid ≠ 0 := hown ▸ hpid
    have hcard := card_occupied_le r
    have hnum := h.procNum_eq
    have hsize : maxProcesses = 1024 := rfl
    -- One slot is given back; the mark stays, although the slot may have been the last one.
    refine h.takeBack {i} (by simpa using hocc) (fun j => ?_) ?_ ?_ ?_ (fun j hj => ?_)
    · refine (slotAt_modifySlot r i j (·.clear)).trans (if_congr ?_ rfl rfl)
      rw [Finset.mem_singleton]
    · exact (wrap32_eq_self (by omega) (by omega)).trans (by simp)
    · exact (highWater_modifySlot r i _).symm ▸ h.highWater_nonneg
    · exact (highWater_modifySlot r i _).symm ▸ h.highWater_le
    · have hslot := slotAt_modifySlot r i j (·.clear)
      rw [highWater_modifySlot] at hj
      show ((r.modifySlot i (·.clear)).slotAt j).pid = 0
      rw [hslot]
      split
      next => rfl
      next => exact h.free_of_highWater_le j hj
  next => exact h

/-- Forgetting what was observed keeps the table consistent. -/
theorem resetObserved (h : r.Consistent) : r.resetObserved.Consistent := by
  refine h.congr (fun i => ?_) (fun i hi => ?_) rfl rfl
  · rw [slotAt_resetObserved]
    split <;> rfl
  · rw [slotAt_resetObserved, Slot.isFree_iff.2 hi, if_neg]
    simp

end Consistent

end Region

end GpuQuota
