import GpuQuota.Proofs.Registry.Member

/-!
# Totals of a table

A scan adds the totals of the slots it sees, and stops at the largest word. Here the sum is taken
over natural numbers and over slot indices, so that it can be followed when a slot is charged and
when the slots of dead processes are cleared.

The module introduces:

* `Region.inUse` — the indices of the slots that belong to a process and that scans see.
* `Region.totalIn` — the sum of the totals of some slots on a device.
* `Region.toNat_usageSum` — a scan gives that sum, cut off at the largest word.
* `Region.totalIn_modifySlot` — the sum after a change of one slot.
* `Region.inUse_reap`, `Region.totalIn_reap` — the sum after dead processes were cleared.
* `Region.SameTotals` — two regions with the same owners, totals and mark.
* `Region.WithoutDead` — what a region shows after the dead of another one were cleared.
-/

namespace GpuQuota

namespace Region

variable {r r' : Region} {d : DeviceIndex}

/-- The indices of the slots that belong to a process and that scans see. -/
def inUse (r : Region) : Finset (Fin maxProcesses) :=
  Finset.univ.filter fun i => i.val < r.mark ∧ (r.slotAt i).pid ≠ 0

theorem mem_inUse {i : Fin maxProcesses} :
    i ∈ r.inUse ↔ i.val < r.mark ∧ (r.slotAt i).pid ≠ 0 := by
  simp [inUse]

/-- The sum of the totals of some slots on a device. -/
def totalIn (r : Region) (d : DeviceIndex) (slots : Finset (Fin maxProcesses)) : Nat :=
  ∑ i ∈ slots, (r.usageAt i d).total.toNat

/-! ## What a scan adds up -/

private theorem toNat_foldl_add (l : List Slot) (sum : UsageSum) (d : DeviceIndex) :
    (l.foldl (fun u s => u.add (s.total d)) sum).bytes.toNat =
      min (sum.bytes.toNat + (l.map fun s => (s.device d).usage.total.toNat).sum) wordMax := by
  induction l generalizing sum with
  | nil =>
    have := sum.bytes.toNat_lt
    simp [wordMax]
    omega
  | cons s l ih =>
    -- What was cut off stays cut off, however much is added to it.
    have hadd : (sum.add (s.total d)).bytes.toNat =
        min (sum.bytes.toNat + (s.device d).usage.total.toNat) wordMax := toNat_satAdd _ _
    rw [List.foldl_cons, ih, hadd, List.map_cons, List.sum_cons]
    omega

/-- The slots of registered processes, as indices. -/
theorem registered_eq_map (r : Region) :
    r.registered = ((List.finRange maxProcesses).filter fun i =>
      decide (i.val < r.mark ∧ (r.slotAt i).pid ≠ 0)).map fun i => r.slotAt i := by
  rw [registered, scanned_eq_map, List.filter_map, List.filter_filter]
  congr 2
  funext i
  simp [Slot.isFree, Bool.and_comm, Bool.beq_eq_decide_eq]

/-- A scan gives the sum of the totals of all registered processes, cut off at the largest
word. -/
theorem toNat_usageSum (r : Region) (d : DeviceIndex) :
    (r.usageSum d).bytes.toNat = min (r.totalIn d r.inUse) wordMax := by
  have hsum : (r.registered.map fun s => (s.device d).usage.total.toNat).sum =
      r.totalIn d r.inUse := by
    rw [registered_eq_map, List.map_map]
    rfl
  rw [usageSum, toNat_foldl_add, hsum]
  simp

theorem bytes_usageSum (r : Region) (d : DeviceIndex) :
    (r.usageSum d).bytes = UInt64.ofNat (min (r.totalIn d r.inUse) wordMax) := by
  rw [← toNat_usageSum, UInt64.ofNat_toNat]

/-! ## Changes of one slot -/

/-- The sum after a change of one slot: what that slot showed is replaced by what it shows. -/
theorem totalIn_modifySlot (r : Region) (d : DeviceIndex) {slots : Finset (Fin maxProcesses)}
    {i : Fin maxProcesses} (hi : i ∈ slots) (f : Slot → Slot) :
    (r.modifySlot i f).totalIn d slots + (r.usageAt i d).total.toNat =
      r.totalIn d slots + ((f (r.slotAt i)).device d).usage.total.toNat := by
  have hothers : ∀ j ∈ slots.erase i, ((r.modifySlot i f).usageAt j d).total.toNat =
      (r.usageAt j d).total.toNat := by
    intro j hj
    rw [usageAt_modifySlot_of_ne r (Finset.ne_of_mem_erase hj)]
  have hself : (r.modifySlot i f).usageAt i d = ((f (r.slotAt i)).device d).usage := by
    rw [usageAt, slotAt_modifySlot, if_pos rfl]
  -- Both sums are the summand of the slot and the same rest.
  rw [totalIn, totalIn, ← Finset.add_sum_erase slots _ hi, ← Finset.add_sum_erase slots _ hi,
    Finset.sum_congr rfl hothers, hself]
  omega

/-- A slot that keeps its owner stays among the slots in use, or stays away from them. -/
theorem inUse_modifySlot (r : Region) (i : Fin maxProcesses) {f : Slot → Slot}
    (hf : ∀ s : Slot, (f s).pid = s.pid) : (r.modifySlot i f).inUse = r.inUse := by
  ext j
  rw [mem_inUse, mem_inUse, mark_modifySlot, pid_modifySlot r i j hf]

/-! ## Dead processes cleared -/

section Reap

variable (r) (me : Pid) (alive : Pid → Bool)

theorem deadSlots_subset_inUse : r.deadSlots me alive ⊆ r.inUse := by
  intro i hi
  obtain ⟨hmark, hdead⟩ := mem_deadSlots.1 hi
  exact mem_inUse.2 ⟨hmark, ((isDeadSlot_iff me alive).1 hdead).1⟩

/-- A slot that was cleared is charged nothing. -/
theorem usageAt_reap (i : Fin maxProcesses) (d : DeviceIndex) :
    (r.reap me alive).2.usageAt i d =
      if i ∈ r.deadSlots me alive then .zero else r.usageAt i d := by
  rw [usageAt, slotAt_reap]
  split
  next => rw [Slot.isBlank_empty.2 d]; rfl
  next => rfl

/-- Of the slots in use those of dead processes are cleared, and the others are still seen. -/
theorem inUse_reap : (r.reap me alive).2.inUse = r.inUse \ r.deadSlots me alive := by
  have hslot := r.slotAt_sweep me alive
  rw [reap_eq]
  ext i
  rw [Finset.mem_sdiff, mem_inUse, mem_inUse]
  show i.val < (r.sweep me alive).trim.mark ∧ ((r.sweep me alive).slotAt i).pid ≠ 0 ↔ _
  constructor
  · rintro ⟨hlt, hpid⟩
    -- Trimming never raises the mark.
    have hle : (r.sweep me alive).trim.highWater ≤ (r.mark : Int) :=
      highWater_trim_le_iff.2 fun j hj hn => by rw [mark_sweep] at hj; omega
    have hmark : (r.sweep me alive).trim.mark ≤ r.mark := by
      rw [mark]
      omega
    have hi : i ∉ r.deadSlots me alive := by
      intro hi
      rw [hslot, if_pos hi] at hpid
      exact hpid rfl
    rw [hslot, if_neg hi] at hpid
    exact ⟨⟨hlt.trans_le hmark, hpid⟩, hi⟩
  · rintro ⟨⟨hlt, hpid⟩, hi⟩
    have hkept : ((r.sweep me alive).slotAt i).pid ≠ 0 := by rwa [hslot, if_neg hi]
    exact ⟨lt_mark_trim hkept (by rwa [mark_sweep]), hkept⟩

/-- What the slots of dead processes were charged is taken out of every sum. -/
theorem totalIn_reap (d : DeviceIndex) (slots : Finset (Fin maxProcesses)) :
    (r.reap me alive).2.totalIn d slots = r.totalIn d (slots \ r.deadSlots me alive) := by
  -- A slot that was cleared adds nothing, and the others add what they did.
  refine (Finset.sum_subset_zero_on_sdiff Finset.sdiff_subset (fun i hi => ?_) fun i hi => ?_).symm
  · obtain ⟨hslot, hnot⟩ := Finset.mem_sdiff.1 hi
    have hdead : i ∈ r.deadSlots me alive := by
      by_contra hdead
      exact hnot (Finset.mem_sdiff.2 ⟨hslot, hdead⟩)
    rw [usageAt_reap, if_pos hdead]
    rfl
  · rw [usageAt_reap, if_neg (Finset.mem_sdiff.1 hi).2]

end Reap

/-! ## Regions with the same totals -/

/-- The regions have the same owners, the same totals on a device and the same mark. -/
structure SameTotals (d : DeviceIndex) (r r' : Region) : Prop where
  mark_eq : r'.mark = r.mark
  pid_eq : ∀ i, (r'.slotAt i).pid = (r.slotAt i).pid
  total_eq : ∀ i, (r'.usageAt i d).total = (r.usageAt i d).total

namespace SameTotals

protected theorem refl (r : Region) (d : DeviceIndex) : SameTotals d r r :=
  ⟨rfl, fun _ => rfl, fun _ => rfl⟩

theorem setLock (h : SameTotals d r r') (word : LockWord) :
    SameTotals d r { r' with lock := word } :=
  ⟨h.mark_eq, h.pid_eq, h.total_eq⟩

variable (h : SameTotals d r r')

include h

theorem inUse_eq : r'.inUse = r.inUse := by
  ext i
  rw [mem_inUse, mem_inUse, h.mark_eq, h.pid_eq]

theorem deadSlots_eq (me : Pid) (alive : Pid → Bool) :
    r'.deadSlots me alive = r.deadSlots me alive := by
  ext i
  rw [mem_deadSlots, mem_deadSlots, isDeadSlot_iff, isDeadSlot_iff, h.mark_eq, h.pid_eq]

theorem totalIn_eq (slots : Finset (Fin maxProcesses)) : r'.totalIn d slots = r.totalIn d slots :=
  Finset.sum_congr rfl fun i _ => congrArg UInt64.toNat (h.total_eq i)

end SameTotals

/-! ## Regions without the dead -/

/-- The other region shows what this one does, without the processes that the member takes for
dead. -/
structure WithoutDead (me : Pid) (alive : Pid → Bool) (d : DeviceIndex) (r r' : Region) : Prop where
  pid_eq : ∀ i, (r'.slotAt i).pid = if i ∈ r.deadSlots me alive then 0 else (r.slotAt i).pid
  inUse_eq : r'.inUse = r.inUse \ r.deadSlots me alive
  totalIn_eq : ∀ slots, r'.totalIn d slots = r.totalIn d (slots \ r.deadSlots me alive)
  /-- The own total is shown as before. -/
  total_eq : ∀ i, (r.slotAt i).pid = me → (r'.usageAt i d).total = (r.usageAt i d).total

/-- A process is never dead to itself. -/
theorem notMem_deadSlots {me : Pid} {i : Fin maxProcesses} (hi : (r.slotAt i).pid = me)
    (alive : Pid → Bool) : i ∉ r.deadSlots me alive := by
  rw [mem_deadSlots, isDeadSlot_iff]
  exact fun hdead => hdead.2.2.1 hi

theorem withoutDead_reap (r : Region) (me : Pid) (alive : Pid → Bool) (d : DeviceIndex) :
    r.WithoutDead me alive d (r.reap me alive).2 where
  pid_eq := r.pid_reap me alive
  inUse_eq := r.inUse_reap me alive
  totalIn_eq := r.totalIn_reap me alive d
  total_eq i hi := by rw [usageAt_reap, if_neg (notMem_deadSlots hi alive)]

/-- Changes that do not show in the totals may come before and after. -/
theorem WithoutDead.congr {me : Pid} {alive : Pid → Bool} {q q' : Region}
    (h : r.WithoutDead me alive d r') (hr : q.SameTotals d r) (hr' : r'.SameTotals d q') :
    q.WithoutDead me alive d q' where
  pid_eq i := by rw [hr'.pid_eq, h.pid_eq, hr.pid_eq, hr.deadSlots_eq]
  inUse_eq := by rw [hr'.inUse_eq, h.inUse_eq, hr.inUse_eq, hr.deadSlots_eq]
  totalIn_eq slots := by rw [hr'.totalIn_eq, h.totalIn_eq, hr.totalIn_eq, hr.deadSlots_eq]
  total_eq i hi := by rw [hr'.total_eq, h.total_eq i (by rw [hr.pid_eq, hi]), hr.total_eq]

end Region

end GpuQuota
