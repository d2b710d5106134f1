import GpuQuota.Proofs.Admission.Totals
import GpuQuota.Proofs.Allocation.Refusal
import Mathlib.Algebra.Order.BigOperators.Group.Finset

/-!
# Two ways to decide on a request

A request is admitted if the usage of all processes and the request together, added with
saturation, stay within the limit. It is granted by charging it first, with addition that wraps
around, and looking at the usage afterwards. Both clear the slots of dead processes and try once
more. The module says of both what they decide in terms of one sum over natural numbers, and when
the two decisions are the same.

The module introduces:

* `Region.livingTotal` — the sum of the totals of all processes but the dead ones.
* `Allocator.admissible_apply`, `Allocator.charge_apply` — the two ways as equations.
* `Allocator.admissible_eq` — a request is admitted if it fits with what the living use, and the
  dead are cleared if it does not fit with them.
* `Allocator.reserve_isOk_iff`, `Allocator.totalIn_reserve` — what is granted, and what the table
  holds afterwards.
* `Desk.DecidesAlike` — both decide the same, and a grant adds the request to the table.
* `Desk.decidesAlike_iff` — so they do, unless the own total wraps around and is then granted.
-/

namespace GpuQuota

/-! ## Charges of one slot -/

namespace Region

variable (r : Region) (i j : Fin maxProcesses) (d : DeviceIndex) (kind : UsageKind)
  (bytes : UInt64)

/-- The region after a slot was charged. -/
def charged : Region := r.modifySlot i (·.addUsage d kind bytes)

/-- The region after a charge of a slot was taken back. -/
def uncharged : Region := r.modifySlot i (·.removeUsage d kind bytes)

theorem pid_charged : ((r.charged i d kind bytes).slotAt j).pid = (r.slotAt j).pid :=
  r.pid_modifySlot i j (Slot.pid_addUsage · d kind bytes)

theorem pid_uncharged : ((r.uncharged i d kind bytes).slotAt j).pid = (r.slotAt j).pid :=
  r.pid_modifySlot i j (Slot.pid_removeUsage · d kind bytes)

theorem inUse_charged : (r.charged i d kind bytes).inUse = r.inUse :=
  r.inUse_modifySlot i (Slot.pid_addUsage · d kind bytes)

/-- A charge adds to every sum with its slot, as far as the total of that slot does not wrap
around. -/
theorem totalIn_charged {slots : Finset (Fin maxProcesses)} (hi : i ∈ slots) :
    (r.charged i d kind bytes).totalIn d slots + (r.usageAt i d).total.toNat =
      r.totalIn d slots + ((r.usageAt i d).total + bytes).toNat := by
  have hself : ((r.slotAt i).addUsage d kind bytes).device d =
      { (r.slotAt i).device d with usage := (r.usageAt i d).charge kind bytes } :=
    ((r.slotAt i).device_writeUsage d d _).trans (if_pos rfl)
  have hsum := r.totalIn_modifySlot d hi (·.addUsage d kind bytes)
  rwa [hself] at hsum

/-- A charge that was taken back does not show in the totals. -/
theorem sameTotals_uncharged :
    r.SameTotals d ((r.charged i d kind bytes).uncharged i d kind bytes) where
  mark_eq := by rw [uncharged, mark_modifySlot, charged, mark_modifySlot]
  pid_eq j := by rw [pid_uncharged, pid_charged]
  total_eq j := by
    -- Adding and taking away wrap around alike, so the slot is back at its total.
    by_cases hji : j = i
    · subst hji
      rw [uncharged, total_removeUsage, charged, total_addUsage]
      exact UInt64.add_sub_cancel _ bytes
    · rw [uncharged, usageAt_modifySlot_of_ne _ hji, charged, usageAt_modifySlot_of_ne _ hji]

end Region

/-- The seat of a member that has found its slot and changed it. -/
def Seat.leave (s : Seat) (i : Fin maxProcesses) (r : Region) : Seat :=
  { s with region := r, remembered := some i.val }

/-- The desk of a member that has found its slot and changed it. -/
def Desk.leave {σ : Type} (desk : Desk σ) (i : Fin maxProcesses) (r : Region) : Desk σ :=
  { desk with seat := desk.seat.leave i r }

@[simp] theorem Desk.seat_leave {σ : Type} (desk : Desk σ) (i : Fin maxProcesses) (r : Region) :
    (desk.leave i r).seat = desk.seat.leave i r := rfl

/-! ## Reading and clearing -/

namespace Member

variable (m : Member) (s : Seat) (d : DeviceIndex)

theorem memoryLimit_apply : memoryLimit d s = (.ok (s.region.memoryLimits.get d), s) := by
  show refuse .device (s.region.memoryLimit d) s = _
  rw [Region.memoryLimit, device?_val]
  rfl

theorem usageSum_apply : usageSum d s = (.ok (s.region.usageSum d), s) := by
  rw [usageSum, Run.bind_apply, device?_val]
  rfl

/-- Clearing tells how many slots of dead processes there were. -/
theorem clearDead_fst {r : Region} (h : r.SameTotals d s.region) :
    (m.clearDead s).1 = (r.deadSlots m.pid m.alive).card := by
  rw [m.clearDead_apply, Region.fst_reap, h.deadSlots_eq]

/-- The lock, which is taken and given back around the reaping, does not show in the totals. -/
theorem withoutDead_clearDead {r : Region} (h : r.SameTotals d s.region) :
    r.WithoutDead m.pid m.alive d (m.clearDead s).2.region := by
  rw [m.clearDead_apply]
  exact (Region.withoutDead_reap s.region m.pid m.alive d).congr h
    ((Region.SameTotals.refl _ d).setLock _)

/-- A member finds its slot again after clearing. -/
theorem ownSlot?_clearDead {i : Fin maxProcesses} (hm : m.pid ≠ 0)
    (hown : s.region.ownSlot? m.pid s.remembered = some i.val) :
    (m.clearDead s).2.region.ownSlot? m.pid (m.clearDead s).2.remembered = some i.val :=
  (Seat.stands_clearDead hm id s ⟨hown, rfl, fun _ _ => .inl rfl⟩).own

/-- A member that finds its slot charges it. -/
theorem addUsage_own {i : Fin maxProcesses} (hm : m.pid ≠ 0)
    (hown : s.region.ownSlot? m.pid s.remembered = some i.val) (bytes : UInt64)
    (kind : UsageKind) :
    m.addUsage m.pid d bytes kind s = (.ok (), s.leave i (s.region.charged i d kind bytes)) := by
  rw [addUsage_apply, device?_val, slotOf?_apply, if_neg hm, if_pos rfl, mySlot?_apply, hown]
  rfl

/-- A member that finds its slot takes a charge back there. -/
theorem removeUsage_own {i : Fin maxProcesses} (hm : m.pid ≠ 0)
    (hown : s.region.ownSlot? m.pid s.remembered = some i.val) (bytes : UInt64)
    (kind : UsageKind) :
    m.removeUsage m.pid d bytes kind s =
      (.ok (), s.leave i (s.region.uncharged i d kind bytes)) := by
  rw [removeUsage_apply, device?_val, slotOf?_apply, if_neg hm, if_pos rfl, mySlot?_apply, hown]
  rfl

end Member

namespace Region

/-- The slot that a process takes for its own belongs to it. -/
theorem pid_of_ownSlot? {r : Region} {me : Pid} {remembered : Option Nat} {i : Fin maxProcesses}
    (h : r.ownSlot? me remembered = some i.val) : (r.slotAt i).pid = me := by
  obtain ⟨j, hji, hj⟩ := ownSlot?_eq_some h
  rw [← hj, Fin.ext hji]

variable (r : Region) (me : Pid) (alive : Pid → Bool) (d : DeviceIndex)

/-- The sum of the totals of the processes that scans see, without the dead ones. -/
def livingTotal : Nat := r.totalIn d (r.inUse \ r.deadSlots me alive)

theorem livingTotal_le : r.livingTotal me alive d ≤ r.totalIn d r.inUse := by
  rw [livingTotal, totalIn, totalIn]
  exact Finset.sum_le_sum_of_subset Finset.sdiff_subset

/-- Where nobody is dead all are living. -/
theorem livingTotal_of_card_eq_zero {r : Region} {me : Pid} {alive : Pid → Bool}
    (h : (r.deadSlots me alive).card = 0) : r.livingTotal me alive d = r.totalIn d r.inUse := by
  rw [livingTotal, Finset.card_eq_zero.1 h, Finset.sdiff_empty]

/-- What is charged to the process that asks counts among the living. -/
theorem total_le_livingTotal {r : Region} {me : Pid} {i : Fin maxProcesses} (hme : me ≠ 0)
    (hi : (r.slotAt i).pid = me) (hseen : i.val < r.mark) :
    (r.usageAt i d).total.toNat ≤ r.livingTotal me alive d := by
  have hliving : i ∈ r.inUse \ r.deadSlots me alive := by
    rw [Finset.mem_sdiff, mem_inUse, hi]
    refine ⟨⟨hseen, hme⟩, fun hdead => ?_⟩
    exact ((isDeadSlot_iff me alive).1 (mem_deadSlots.1 hdead).2).2.1 hi
  -- The process is alive for itself, so that its own slot is one of the summands.
  rw [livingTotal, totalIn]
  exact Finset.single_le_sum (f := fun j => (r.usageAt j d).total.toNat) (fun _ _ => Nat.zero_le _)
    hliving

/-- The slots that belonged to a process and no longer do. -/
def freed (r r' : Region) : Finset (Fin maxProcesses) :=
  Finset.univ.filter fun i => (r.slotAt i).pid ≠ 0 ∧ (r'.slotAt i).pid = 0

theorem mem_freed {r r' : Region} {i : Fin maxProcesses} :
    i ∈ r.freed r' ↔ (r.slotAt i).pid ≠ 0 ∧ (r'.slotAt i).pid = 0 := by
  simp [freed]

theorem freed_self : r.freed r = ∅ := by
  ext i
  simp [mem_freed]

/-- A charge frees no slot. -/
theorem freed_charged (r' : Region) (i : Fin maxProcesses) (kind : UsageKind) (bytes : UInt64) :
    r.freed (r'.charged i d kind bytes) = r.freed r' := by
  ext j
  rw [mem_freed, mem_freed, pid_charged]

/-- Freed are the slots of dead processes. -/
theorem WithoutDead.freed_eq {r r' : Region} {me : Pid} {alive : Pid → Bool} {d : DeviceIndex}
    (h : r.WithoutDead me alive d r') : r.freed r' = r.deadSlots me alive := by
  ext i
  rw [mem_freed, h.pid_eq]
  split
  next hdead =>
    exact iff_of_true ⟨(mem_inUse.1 (r.deadSlots_subset_inUse me alive hdead)).2, rfl⟩ hdead
  next hdead => exact iff_of_false (fun h => h.1 h.2) hdead

/-- What was freed makes up for what is left. -/
theorem WithoutDead.totalIn_add_freed {r r' : Region} {me : Pid} {alive : Pid → Bool}
    {d : DeviceIndex} (h : r.WithoutDead me alive d r') :
    r'.totalIn d Finset.univ + r.totalIn d (r.freed r') = r.totalIn d Finset.univ := by
  rw [h.totalIn_eq, h.freed_eq]
  exact Finset.sum_sdiff (Finset.subset_univ _)

/-- A charge after some slots were freed adds to what the table held before. -/
theorem totalIn_charged_add_freed {r r' : Region} {d : DeviceIndex} {i : Fin maxProcesses}
    (hfreed : r'.totalIn d Finset.univ + r.totalIn d (r.freed r') = r.totalIn d Finset.univ)
    (hkept : (r'.usageAt i d).total = (r.usageAt i d).total) (kind : UsageKind) (bytes : UInt64) :
    (r'.charged i d kind bytes).totalIn d Finset.univ +
        r.totalIn d (r.freed (r'.charged i d kind bytes)) + (r.usageAt i d).total.toNat =
      r.totalIn d Finset.univ + ((r.usageAt i d).total + bytes).toNat := by
  have hsum := r'.totalIn_charged i d kind bytes (Finset.mem_univ i)
  rw [hkept] at hsum
  rw [freed_charged]
  omega

end Region

namespace Allocator

variable {σ : Type} (m : Member) (d : DeviceIndex)

/-! ## Admission -/

/-- Looking whether a request would fit, as an equation. -/
theorem admissible_apply (size : UInt64) (desk : Desk σ) :
    admissible m d size desk =
      let limit := desk.seat.region.memoryLimits.get d
      let usage := (desk.seat.region.usageSum d).bytes
      if limit = 0 ∨ satAdd usage size ≤ limit then (.ok (), desk)
      else
        let seat := (m.clearDead desk.seat).2
        let usage' := (seat.region.usageSum d).bytes
        if (m.clearDead desk.seat).1 = 0 then
          (.error (.outOfMemory d size usage limit), { desk with seat })
        else if satAdd usage' size ≤ limit then (.ok (), { desk with seat })
        else (.error (.outOfMemory d size usage' limit), { desk with seat }) := by
  rw [admissible, Run.bind_apply, onRegion_apply, Member.memoryLimit_apply]
  dsimp only
  generalize desk.seat.region.memoryLimits.get d = limit
  by_cases hzero : limit = 0
  · rw [if_pos hzero, if_pos (.inl hzero)]
    rfl
  rw [if_neg hzero, Run.bind_apply, onRegion_apply, Member.usageSum_apply]
  dsimp only
  by_cases hfit : satAdd (desk.seat.region.usageSum d).bytes size ≤ limit
  · rw [if_neg (UInt64.not_lt.2 hfit), if_pos (.inr hfit)]
    rfl
  -- The request does not fit, so the dead are cleared; without any dead there is no second look.
  rw [if_pos (UInt64.not_le.1 hfit), if_neg (by simp [hzero, hfit]), Run.bind_apply, onSeat_apply]
  dsimp only
  by_cases hnone : (m.clearDead desk.seat).1 = 0
  · rw [if_pos hnone, if_pos hnone]
    rfl
  rw [if_neg hnone, if_neg hnone, Run.bind_apply, onRegion_apply, Member.usageSum_apply]
  dsimp only
  by_cases hfit' : satAdd ((m.clearDead desk.seat).2.region.usageSum d).bytes size ≤ limit
  · rw [if_neg (UInt64.not_lt.2 hfit'), if_pos hfit']
    rfl
  · rw [if_pos (UInt64.not_le.1 hfit'), if_neg hfit']
    rfl

/-- Below the largest word saturation does not show: a sum that was cut off exceeds the limit. -/
theorem satAdd_usageSum_le_iff (r : Region) (size : UInt64) {limit : UInt64}
    (hlimit : limit.toNat < wordMax) :
    satAdd (r.usageSum d).bytes size ≤ limit ↔
      r.totalIn d r.inUse + size.toNat ≤ limit.toNat := by
  rw [UInt64.le_iff_toNat_le, toNat_satAdd, Region.toNat_usageSum]
  omega

/-- A request is refused if it does not fit with what the living use, and the refusal tells that
usage; the dead are cleared if it does not fit with them. -/
theorem admissible_eq (size : UInt64) (desk : Desk σ)
    (hlimit : (desk.seat.region.memoryLimits.get d).toNat < wordMax) :
    admissible m d size desk =
      let r := desk.seat.region
      let limit := r.memoryLimits.get d
      let living := r.livingTotal m.pid m.alive d
      (if limit = 0 ∨ living + size.toNat ≤ limit.toNat then .ok ()
        else .error (.outOfMemory d size (UInt64.ofNat (min living wordMax)) limit),
      if limit ≠ 0 ∧ limit.toNat < r.totalIn d r.inUse + size.toNat then
        { desk with seat := (m.clearDead desk.seat).2 } else desk) := by
  have hle := desk.seat.region.livingTotal_le m.pid m.alive d
  have hcleared := m.clearDead_fst desk.seat d (.refl _ d)
  -- What the scan before the clearing sees, and what the scan after it does.
  have hbefore := satAdd_usageSum_le_iff d desk.seat.region size hlimit
  have hsum := desk.seat.region.bytes_usageSum d
  have hafter := satAdd_usageSum_le_iff d (m.clearDead desk.seat).2.region size hlimit
  have hsum' := (m.clearDead desk.seat).2.region.bytes_usageSum d
  have hliving := m.withoutDead_clearDead desk.seat d (.refl _ d)
  rw [hliving.inUse_eq, hliving.totalIn_eq, sdiff_idem, ← Region.livingTotal] at hafter hsum'
  rw [admissible_apply]
  dsimp only
  generalize desk.seat.region.memoryLimits.get d = limit at hlimit hbefore hafter ⊢
  by_cases hzero : limit = 0
  · rw [if_pos (.inl hzero), if_pos (.inl hzero), if_neg fun h => h.1 hzero]
  by_cases hfit : satAdd (desk.seat.region.usageSum d).bytes size ≤ limit
  · have hsmall := hbefore.1 hfit
    rw [if_pos (.inr hfit), if_pos (.inr (by omega)), if_neg fun h => by omega]
  -- The request does not fit with the dead, so they are cleared, if there are any.
  have hlarge : limit ≠ 0 ∧
      limit.toNat < desk.seat.region.totalIn d desk.seat.region.inUse + size.toNat :=
    ⟨hzero, Nat.lt_of_not_le (mt hbefore.2 hfit)⟩
  rw [if_neg (not_or.2 ⟨hzero, hfit⟩), if_pos hlarge]
  by_cases hnone : (m.clearDead desk.seat).1 = 0
  · have hall := Region.livingTotal_of_card_eq_zero d (hcleared ▸ hnone)
    rw [if_pos hnone, if_neg (not_or.2 ⟨hzero, hall ▸ mt hbefore.2 hfit⟩), hsum, hall]
  rw [if_neg hnone]
  by_cases hfit' : satAdd ((m.clearDead desk.seat).2.region.usageSum d).bytes size ≤ limit
  · rw [if_pos hfit', if_pos (.inr (hafter.1 hfit'))]
  · rw [if_neg hfit', if_neg (not_or.2 ⟨hzero, mt hafter.2 hfit'⟩), hsum']

/-- A request is admitted exactly if it fits with what the living use. -/
theorem admissible_isOk_iff (size : UInt64) (desk : Desk σ)
    (hlimit : (desk.seat.region.memoryLimits.get d).toNat < wordMax) :
    (admissible m d size desk).1.isOk = true ↔
      desk.seat.region.memoryLimits.get d = 0 ∨
      desk.seat.region.livingTotal m.pid m.alive d + size.toNat ≤
        (desk.seat.region.memoryLimits.get d).toNat := by
  rw [admissible_eq m d size desk hlimit]
  dsimp only
  split
  next hfits => exact iff_of_true rfl hfits
  next hfits => exact iff_of_false nofun hfits

/-! ## Charging -/

section Charge

variable {m d} {i : Fin maxProcesses} {desk : Desk σ} (hm : m.pid ≠ 0)
  (hown : desk.seat.region.ownSlot? m.pid desk.seat.remembered = some i.val)
  (bytes : UInt64) (kind : UsageKind)

include hown in
/-- After a charge of the own slot that slot is found where it was. -/
private theorem ownSlot?_leave {r : Region}
    (hr : (r.slotAt i).pid = (desk.seat.region.slotAt i).pid) :
    (desk.seat.leave i r).region.ownSlot? m.pid (desk.seat.leave i r).remembered = some i.val :=
  Region.ownSlot?_some (hr.trans (Region.pid_of_ownSlot? hown))

include hm hown

/-- Charging a request and looking at the sum, as an equation. -/
theorem charge_apply (limit : UInt64) :
    charge m d bytes kind limit desk =
      let charged := desk.seat.region.charged i d kind bytes
      let usage := (charged.usageSum d).bytes
      if limit = 0 ∨ usage ≤ limit then (.ok none, desk.leave i charged)
      else (.ok (some (satSub usage bytes)), desk.leave i (charged.uncharged i d kind bytes)) := by
  rw [charge, Run.bind_apply, onRegion_apply, m.addUsage_own _ d hm hown]
  show (if limit = 0 then _ else _ : AllocM σ _) (desk.leave i _) = _
  have hagain := ownSlot?_leave hown (desk.seat.region.pid_charged i i d kind bytes)
  generalize hcharged : desk.seat.region.charged i d kind bytes = r at hagain ⊢
  by_cases hzero : limit = 0
  · rw [if_pos hzero, if_pos (.inl hzero)]
    rfl
  rw [if_neg hzero, Run.bind_apply, onRegion_apply, Member.usageSum_apply]
  show (if (r.usageSum d).bytes ≤ limit then _ else _ : AllocM σ _) (desk.leave i r) = _
  by_cases hfit : (r.usageSum d).bytes ≤ limit
  · rw [if_pos hfit, if_pos (.inr hfit)]
    rfl
  · -- The charge is taken back where it was made, by the index remembered.
    rw [if_neg hfit, if_neg (not_or.2 ⟨hzero, hfit⟩), Run.bind_apply, onRegion_apply,
      Desk.seat_leave, m.removeUsage_own _ d hm hagain]
    rfl

/-- A reservation, as an equation. -/
theorem reserve_apply :
    reserve m d bytes kind desk =
      let limit := desk.seat.region.memoryLimits.get d
      let charged := desk.seat.region.charged i d kind bytes
      let usage := (charged.usageSum d).bytes
      if limit = 0 ∨ usage ≤ limit then (.ok (), desk.leave i charged)
      else
        let clear := m.clearDead (desk.seat.leave i (charged.uncharged i d kind bytes))
        let desk := { desk with seat := clear.2 }
        if clear.1 = 0 then (.error (.outOfMemory d bytes (satSub usage bytes) limit), desk)
        else
          let charged := clear.2.region.charged i d kind bytes
          let usage := (charged.usageSum d).bytes
          if usage ≤ limit then (.ok (), desk.leave i charged)
          else (.error (.outOfMemory d bytes (satSub usage bytes) limit),
            desk.leave i (charged.uncharged i d kind bytes)) := by
  rw [reserve, Run.bind_apply, onRegion_apply, Member.memoryLimit_apply]
  dsimp only
  generalize desk.seat.region.memoryLimits.get d = limit
  rw [Run.bind_apply, charge_apply hm hown]
  dsimp only
  by_cases hfit : limit = 0 ∨ ((desk.seat.region.charged i d kind bytes).usageSum d).bytes ≤ limit
  · rw [if_pos hfit, if_pos hfit]
    rfl
  rw [if_neg hfit, if_neg hfit]
  dsimp only
  -- The first charge is gone again when the slots of dead processes are cleared.
  have hagain := ownSlot?_leave hown ((desk.seat.region.charged i d kind bytes).pid_uncharged i i d
    kind bytes |>.trans (desk.seat.region.pid_charged i i d kind bytes))
  have hcleared := m.ownSlot?_clearDead _ hm hagain
  rw [Run.bind_apply, onSeat_apply, Desk.seat_leave]
  dsimp only
  generalize m.clearDead (desk.seat.leave i _) = clear at hcleared ⊢
  by_cases hnone : clear.1 = 0
  · rw [if_pos hnone, if_pos hnone]
    rfl
  rw [if_neg hnone, if_neg hnone, Run.bind_apply, charge_apply hm hcleared]
  dsimp only
  have hzero : limit ≠ 0 := fun h => hfit (.inl h)
  by_cases hfit' : ((clear.2.region.charged i d kind bytes).usageSum d).bytes ≤ limit
  · rw [if_pos (.inr hfit'), if_pos hfit']
    rfl
  · rw [if_neg (not_or.2 ⟨hzero, hfit'⟩), if_neg hfit']
    rfl

omit hm hown in
/-- Where a slot in use was charged, the sum is within the limit exactly if it is as a natural
number. -/
theorem usageSum_charged_le_iff {r : Region} {limit : UInt64} (hlimit : limit.toNat < wordMax)
    (hi : i ∈ r.inUse) :
    ((r.charged i d kind bytes).usageSum d).bytes ≤ limit ↔
      r.totalIn d r.inUse + ((r.usageAt i d).total + bytes).toNat ≤
        limit.toNat + (r.usageAt i d).total.toNat := by
  have hsum := r.totalIn_charged i d kind bytes hi
  rw [UInt64.le_iff_toNat_le, Region.toNat_usageSum, Region.inUse_charged]
  omega

/-- A request is granted exactly if the sum of what the living use, with the own total as it becomes
with the request, stays within the limit. -/
theorem reserve_isOk_iff (hseen : i.val < desk.seat.region.mark)
    (hlimit : (desk.seat.region.memoryLimits.get d).toNat < wordMax) :
    (reserve m d bytes kind desk).1.isOk = true ↔
      desk.seat.region.memoryLimits.get d = 0 ∨
      desk.seat.region.livingTotal m.pid m.alive d +
          ((desk.seat.region.usageAt i d).total + bytes).toNat ≤
        (desk.seat.region.memoryLimits.get d).toNat +
          (desk.seat.region.usageAt i d).total.toNat := by
  have hle := desk.seat.region.livingTotal_le m.pid m.alive d
  have hpid := Region.pid_of_ownSlot? hown
  have huse : i ∈ desk.seat.region.inUse := Region.mem_inUse.2 ⟨hseen, hpid ▸ hm⟩
  rw [reserve_apply hm hown]
  dsimp only
  generalize desk.seat.region.memoryLimits.get d = limit at hlimit ⊢
  have hfirst := usageSum_charged_le_iff (d := d) bytes kind hlimit huse
  -- The second attempt sees what the living use.
  have hsame := desk.seat.region.sameTotals_uncharged i d kind bytes
  let restored := desk.seat.leave i
    ((desk.seat.region.charged i d kind bytes).uncharged i d kind bytes)
  have hcleared := m.clearDead_fst restored d hsame
  have hliving := m.withoutDead_clearDead restored d hsame
  generalize m.clearDead restored = clear at hcleared hliving ⊢
  have hagain : i ∈ clear.2.region.inUse := by
    rw [hliving.inUse_eq, Finset.mem_sdiff]
    exact ⟨huse, Region.notMem_deadSlots hpid m.alive⟩
  have hsecond := usageSum_charged_le_iff (d := d) bytes kind hlimit hagain
  rw [hliving.inUse_eq, hliving.totalIn_eq, sdiff_idem, ← Region.livingTotal,
    hliving.total_eq i hpid] at hsecond
  split
  next hfit => exact iff_of_true rfl (hfit.imp_right fun h => by have := hfirst.1 h; omega)
  next hfit =>
    rw [not_or, hfirst] at hfit
    split
    next hnone =>
      rw [Region.livingTotal_of_card_eq_zero d (hcleared ▸ hnone)]
      exact iff_of_false nofun (not_or.2 hfit)
    next =>
      split
      next hfit' => exact iff_of_true rfl (.inr (hsecond.1 hfit'))
      next hfit' => exact iff_of_false nofun (not_or.2 ⟨hfit.1, hfit' ∘ hsecond.2⟩)

/-- After a grant the table holds what it held without the slots that were cleared for it, with the
own total as it becomes with the request. -/
theorem totalIn_reserve (hgranted : (reserve m d bytes kind desk).1.isOk = true) :
    let r := desk.seat.region
    let r' := (reserve m d bytes kind desk).2.seat.region
    r'.totalIn d Finset.univ + r.totalIn d (r.freed r') + (r.usageAt i d).total.toNat =
      r.totalIn d Finset.univ + ((r.usageAt i d).total + bytes).toNat := by
  have hpid := Region.pid_of_ownSlot? hown
  have hsame := desk.seat.region.sameTotals_uncharged i d kind bytes
  let restored := desk.seat.leave i
    ((desk.seat.region.charged i d kind bytes).uncharged i d kind bytes)
  have hliving := m.withoutDead_clearDead restored d hsame
  rw [reserve_apply hm hown] at hgranted ⊢
  dsimp only at hgranted ⊢
  generalize m.clearDead restored = clear at hgranted hliving ⊢
  split at hgranted
  next hfit =>
    -- Nothing was freed for the first attempt.
    have hkept : desk.seat.region.totalIn d (desk.seat.region.freed desk.seat.region) = 0 := by
      rw [Region.freed_self]
      exact Finset.sum_empty
    rw [if_pos hfit]
    exact Region.totalIn_charged_add_freed (by rw [hkept, add_zero]) rfl kind bytes
  next hfit =>
    rw [if_neg hfit]
    split at hgranted
    next => cases hgranted
    next hsome =>
      split at hgranted
      next hfit' =>
        rw [if_neg hsome, if_pos hfit']
        exact Region.totalIn_charged_add_freed hliving.totalIn_add_freed
          (hliving.total_eq i hpid) kind bytes
      next => cases hgranted

end Charge

end Allocator

/-! ## The two decisions compared -/

namespace Desk

open Allocator

variable {σ : Type}

/-- A request is granted exactly if it would be admitted, and a grant adds it to what the table
holds, after what was freed for it. -/
def DecidesAlike (desk : Desk σ) (m : Member) (d : DeviceIndex) (bytes : UInt64)
    (kind : UsageKind) : Prop :=
  let granted := reserve m d bytes kind desk
  let r := desk.seat.region
  let r' := granted.2.seat.region
  (granted.1.isOk = true ↔ (admissible m d bytes desk).1.isOk = true) ∧
  (granted.1.isOk = true →
    r'.totalIn d Finset.univ + r.totalIn d (r.freed r') = r.totalIn d Finset.univ + bytes.toNat)

/-- The two decisions on a request agree exactly if the own total does not wrap around with it, or
does but is refused all the same. -/
theorem decidesAlike_iff (m : Member) (desk : Desk σ) (i : Fin maxProcesses) (d : DeviceIndex)
    (bytes : UInt64) (kind : UsageKind) (hm : m.pid ≠ 0)
    (hown : desk.seat.region.ownSlot? m.pid desk.seat.remembered = some i.val)
    (hseen : i.val < desk.seat.region.mark)
    (hlimit : (desk.seat.region.memoryLimits.get d).toNat < wordMax) :
    desk.DecidesAlike m d bytes kind ↔
      (desk.seat.region.usageAt i d).total.toNat + bytes.toNat < 2 ^ 64 ∨
      desk.seat.region.memoryLimits.get d ≠ 0 ∧
        (desk.seat.region.memoryLimits.get d).toNat + 2 ^ 64 <
          desk.seat.region.livingTotal m.pid m.alive d + bytes.toNat := by
  have hadmitted := admissible_isOk_iff m d bytes desk hlimit
  have hgranted := reserve_isOk_iff hm hown bytes kind hseen hlimit
  have hsum := totalIn_reserve (d := d) hm hown bytes kind
  have hliving := desk.seat.region.total_le_livingTotal m.alive d hm
    (Region.pid_of_ownSlot? hown) hseen
  have hword := (desk.seat.region.usageAt i d).total.toNat_lt
  have hbytes := bytes.toNat_lt
  have htotal := UInt64.toNat_add (desk.seat.region.usageAt i d).total bytes
  simp only [wordMax] at hlimit
  rw [DecidesAlike]
  dsimp only at hsum ⊢
  by_cases hfits : (desk.seat.region.usageAt i d).total.toNat + bytes.toNat < 2 ^ 64
  · rw [Nat.mod_eq_of_lt hfits] at htotal
    refine iff_of_true ⟨hgranted.trans (Iff.trans ?_ hadmitted.symm), fun h => ?_⟩ (.inl hfits)
    · exact or_congr_right (by omega)
    · have := hsum h
      omega
  · -- The own total wraps around, and the sum shrinks by what the request falls short of `2 ^ 64`.
    rw [Nat.mod_eq_sub_mod (by omega), Nat.mod_eq_of_lt (by omega)] at htotal
    by_cases hrefused : (reserve m d bytes kind desk).1.isOk = true
    · refine iff_of_false (fun h => ?_) (not_or.2 ⟨hfits, fun h => ?_⟩)
      · have := hsum hrefused
        have := h.2 hrefused
        omega
      · rcases hgranted.1 hrefused with hzero | hfit
        · exact h.1 hzero
        · omega
    · have hfull := mt hgranted.2 hrefused
      rw [not_or] at hfull
      refine iff_of_true ⟨iff_of_false hrefused fun h => ?_, fun h => absurd h hrefused⟩
        (.inr ⟨hfull.1, by omega⟩)
      rcases hadmitted.1 h with hzero | hfit
      · exact hfull.1 hzero
      · omega

/-- A process that uses 60 of 100 bytes asks for 40 more. -/
theorem decidesAlike_of_fitting :
    ∃ (m : Member) (desk : Desk SimulatedDevice) (d : DeviceIndex),
      (reserve m d 40 .data desk).1.isOk = true ∧ desk.DecidesAlike m d 40 .data := by
  let m : Member := ⟨7, Settings.standard.withMemoryLimit 0 100, fun _ => true⟩
  let seat : Seat := (m.registerSelf { region := Region.zero.setUp m.settings 0 }).2
  let desk : Desk SimulatedDevice := (registerExternal m 0x5000 60 ⟨seat, {}, {}⟩).2
  -- Sixty bytes of a hundred are in use, so forty more are granted by both.
  have hown : desk.seat.region.ownSlot? m.pid desk.seat.remembered = some 0 := by decide +kernel
  let d : DeviceIndex := ⟨0, by decide⟩
  have hgranted : (reserve m d 40 .data desk).1.isOk = true := by decide +kernel
  refine ⟨m, desk, d, hgranted, ?_⟩
  refine (decidesAlike_iff m desk ⟨0, by decide⟩ d 40 .data (by decide) hown ?_ ?_).2 (.inl ?_)
  · decide +kernel
  · decide +kernel
  · decide +kernel

/-- A process that uses 60 of 100 bytes asks for `2 ^ 64 - 60` more. It would not be admitted, but
the request is granted, and the process uses nothing. -/
theorem not_decidesAlike :
    ∃ (m : Member) (desk : Desk SimulatedDevice) (i : Fin maxProcesses) (d : DeviceIndex)
      (bytes : UInt64), m.pid ≠ 0 ∧
      desk.seat.region.ownSlot? m.pid desk.seat.remembered = some i.val ∧
      i.val < desk.seat.region.mark ∧
      (desk.seat.region.memoryLimits.get d).toNat < wordMax ∧
      (admissible m d bytes desk).1.isOk = false ∧
      (registerExternal m 0x6000 bytes desk).1.isOk = true ∧
      ¬ desk.DecidesAlike m d bytes .data := by
  let m : Member := ⟨7, Settings.standard.withMemoryLimit 0 100, fun _ => true⟩
  let seat : Seat := (m.registerSelf { region := Region.zero.setUp m.settings 0 }).2
  let desk : Desk SimulatedDevice := (registerExternal m 0x5000 60 ⟨seat, {}, {}⟩).2
  let d : DeviceIndex := ⟨0, by decide⟩
  -- The request lacks 60 bytes to the whole range, so that 60 more bytes wrap the total around.
  have hrefused : (admissible m d 0xFFFFFFFFFFFFFFC4 desk).1.isOk = false := by decide +kernel
  have hgranted : (reserve m d 0xFFFFFFFFFFFFFFC4 .data desk).1.isOk = true := by decide +kernel
  refine ⟨m, desk, ⟨0, by decide⟩, d, 0xFFFFFFFFFFFFFFC4, by decide, ?_, ?_, ?_, hrefused, ?_, ?_⟩
  · decide +kernel
  · decide +kernel
  · decide +kernel
  · decide +kernel
  · intro halike
    have hadmitted := halike.1.1 hgranted
    rw [hrefused] at hadmitted
    cases hadmitted

end Desk

end GpuQuota
