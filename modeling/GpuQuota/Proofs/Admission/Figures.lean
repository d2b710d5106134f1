import GpuQuota.Proofs.Admission.Exactness
import GpuQuota.Tenant

/-!
# The figures that are shown

How much of a device is in use can be read in two ways: as one sum, which a scan adds up on the
way, and from a listing of the registered processes. Both skip free slots, stop at the high-water
mark, and take a slot whose writer died as it stands. In a consistent table both come to the sum
over all slots. What is left of the quota is shown as free memory, and that is what a request may
ask for.

The module introduces:

* `Region.listed` — what a snapshot lists of one device.
* `Region.Consistent.totalIn_univ` — a free slot adds nothing to a sum.
* `Region.listed_eq_map` — a snapshot lists each registered process once.
* `Member.figures_exact` — the two figures of a device, read in either way.
* `MemoryInfo.le_free_iff`, `MemoryInfo.used_add_free_iff` — the figures under a quota, as numbers.
* `Desk.admissible_iff_le_free` — the free memory that is shown is what may be asked for.
-/

namespace GpuQuota

namespace Region

/-- What a snapshot lists of one device. -/
def listed (r : Region) (d : DeviceIndex) : List DeviceView :=
  r.snapshot.filterMap (·.devices[d.val]?)

/-! ## The whole table -/

/-- The slots in use whose sequence number is odd. -/
def unsettled (r : Region) : Finset (Fin maxProcesses) :=
  Finset.univ.filter fun i => (r.slotAt i).pid ≠ 0 ∧ (r.slotAt i).seq.toNat % 2 = 1

/-- Free slots are charged nothing, so they add nothing to the sum. -/
theorem Consistent.totalIn_univ {r : Region} (h : r.Consistent) (d : DeviceIndex) :
    r.totalIn d Finset.univ = r.totalIn d r.occupied := by
  symm
  apply Finset.sum_subset (Finset.subset_univ _)
  intro i _ hi
  have hfree : (r.slotAt i).pid = 0 := by simpa using hi
  -- A free slot is blank on every device.
  rw [usageAt, (h.blank_of_free i hfree).2 d]
  rfl

/-- A sum that was not cut off is the sum of the totals that were read. -/
theorem totalIn_inUse (r : Region) {d : DeviceIndex}
    (h : (r.usageSum d).bytes.toNat < wordMax) :
    r.totalIn d r.inUse = (r.usageSum d).bytes.toNat := by
  have hsum := r.toNat_usageSum d
  omega

/-- Scans see all slots in use, those of dead writers among them. -/
theorem Consistent.countP_registered {r : Region} (h : r.Consistent) :
    r.registered.countP (·.seq.isWriting) = r.unsettled.card := by
  rw [registered, List.countP_filter, countP_scanned]
  apply congrArg Finset.card
  ext i
  simp only [unsettled, Finset.mem_filter, Finset.mem_univ, true_and, Bool.and_eq_true,
    Bool.not_eq_true', Slot.isFree_eq_false_iff, Sequence.isWriting_iff]
  -- Whoever is registered lies below the mark, so that nothing is missed by the scan.
  constructor
  · rintro ⟨-, hodd, hpid⟩
    exact ⟨hpid, hodd⟩
  · rintro ⟨hpid, hodd⟩
    exact ⟨h.lt_mark hpid, hodd, hpid⟩

/-! ## The running sum -/

section

variable (l : List Slot) (d : DeviceIndex)

private theorem bytes_foldl_add (sum : UsageSum) :
    (l.foldl (fun u s => u.add (s.total d)) sum).bytes =
      l.foldl (fun n s => satAdd n (s.device d).usage.total) sum.bytes :=
  (List.foldl_hom UsageSum.bytes fun _ _ => rfl).symm

private theorem bestEffort_foldl_add (sum : UsageSum) :
    (l.foldl (fun u s => u.add (s.total d)) sum).bestEffort =
      sum.bestEffort + l.countP (·.seq.isWriting) := by
  induction l generalizing sum with
  | nil => simp
  | cons s l ih =>
    -- A slot whose number is odd cannot be read for certain, and counts as one guess.
    have hadd : (sum.add (s.total d)).bestEffort =
        sum.bestEffort + if s.seq.isWriting then 1 else 0 := by
      cases hs : s.seq.isWriting <;> simp [UsageSum.add, Slot.total, Slot.read, hs]
    rw [List.foldl_cons, ih, hadd, List.countP_cons]
    omega

end

/-! ## The listing -/

/-- The view of a slot has an entry for each device that readers look at. -/
theorem devices_slotView {count : Nat} {d : DeviceIndex} (hd : d.val < count) (i : Nat) (s : Slot) :
    (slotView count i s).devices[d.val]? =
      some ⟨d, s.breakdown d, (s.device d).monitor, (s.device d).compute⟩ := by
  simp [slotView, List.getElem?_take_of_lt hd]

/-- A snapshot lists each registered process once, on every device that readers look at. -/
theorem listed_eq_map (r : Region) {d : DeviceIndex} (hd : d.val < r.deviceCount) :
    r.listed d = r.registered.map fun s =>
      ⟨d, s.breakdown d, (s.device d).monitor, (s.device d).compute⟩ := by
  -- Indices are listed too, but what is listed of a device does not depend on them.
  have hscanned : r.scanned = r.scanned.zipIdx.map (·.1) := by simp
  rw [registered, hscanned, List.filter_map, List.map_map, listed, snapshot, List.filterMap_map]
  simp [Function.comp_def, devices_slotView hd]

end Region

namespace Member

/-- In a consistent table the usage of a device reads as the sum of the totals of all slots of the
table, cut off at the largest word, and as best effort as many of them as are in use with an odd
sequence number. A snapshot gives the same two figures on every device that it lists. -/
theorem figures_exact (s : Seat) (h : s.region.Consistent) (d : DeviceIndex) :
    let r := s.region
    let bytes := UInt64.ofNat (min (r.totalIn d Finset.univ) wordMax)
    usageSum d s = (.ok ⟨bytes, r.unsettled.card⟩, s) ∧
    (d.val < r.deviceCount →
      (r.listed d).foldl (fun n v => satAdd n v.usage.value.total) 0 = bytes ∧
      (r.listed d).countP (!·.usage.consistent) = r.unsettled.card) := by
  intro r bytes
  have hbytes : (r.usageSum d).bytes = bytes := by
    rw [Region.bytes_usageSum, h.inUse_eq, ← h.totalIn_univ]
  have hbest : (r.usageSum d).bestEffort = r.unsettled.card := by
    rw [Region.usageSum, Region.bestEffort_foldl_add, h.countP_registered]
    exact Nat.zero_add _
  refine ⟨?_, fun hd => ?_⟩
  · rw [usageSum_apply, ← hbytes, ← hbest]
  · rw [Region.listed_eq_map r hd, List.foldl_map, List.countP_map]
    constructor
    · -- The listing is added up as the scan adds it.
      rw [← hbytes, Region.usageSum, Region.bytes_foldl_add]
      rfl
    · rw [← h.countP_registered]
      simp [Function.comp_def, Slot.breakdown, Slot.read, r]

/-- Three processes register, and the first one leaves. One of the others has 60 bytes and dies
while it writes, and the last one has 40 bytes. -/
theorem figures_exact_after_crash :
    ∃ (s : Seat) (i : Fin maxProcesses) (d : DeviceIndex),
      (s.region.slotAt i).pid = 8 ∧ (s.region.slotAt i).seq.toNat % 2 = 1 ∧
      s.region.totalIn d Finset.univ = 100 ∧ s.region.unsettled.card = 1 ∧
      usageSum d s = (.ok ⟨100, 1⟩, s) ∧
      (s.region.listed d).foldl (fun n v => satAdd n v.usage.value.total) 0 = 100 ∧
      (s.region.listed d).countP (!·.usage.consistent) = 1 := by
  let all : Pid → Bool := fun _ => true
  let i : Fin maxProcesses := ⟨1, by decide⟩
  let j : Fin maxProcesses := ⟨2, by decide⟩
  let d : DeviceIndex := ⟨3, by decide⟩
  have h₁ := (Population.consistent_setUp .standard 0).register 7 all (show (7 : Pid) ≠ 0 by decide)
  have h₂ := h₁.register 8 all (show (8 : Pid) ≠ 0 by decide)
  have h₃ := h₂.register 9 all (show (9 : Pid) ≠ 0 by decide)
  have h₄ := h₃.unregister (show (7 : Pid) ≠ 0 by decide)
  -- The second process dies while it charges, so that its number stays odd.
  have hdies (s : Slot) : (s.addUsage d .data 60).stick.pid = s.pid := rfl
  have h₅ := h₄.modifySlot (i := i) (f := fun s => (s.addUsage d .data 60).stick)
    (by decide +kernel) (hdies _)
  have hc := h₅.modifySlot (i := j) (f := (·.addUsage d .context 40)) (by decide +kernel)
    (Slot.pid_addUsage _ d .context 40)
  -- From here on only what was read of the region matters.
  generalize hr : Region.modifySlot _ j _ = r at hc
  have hread : r.usageSum d = ⟨100, 1⟩ := by rw [← hr]; decide +kernel
  obtain ⟨husage, hlisted⟩ := figures_exact ⟨r, none, 0⟩ hc d
  obtain ⟨hbytes, hbest⟩ := hlisted (by rw [← hr]; decide +kernel)
  rw [usageSum_apply, hread] at husage
  obtain ⟨heq, hone⟩ := UsageSum.mk.inj (Except.ok.inj (Prod.mk.inj husage).1)
  have htotal : r.totalIn d Finset.univ = 100 := by
    rw [hc.totalIn_univ, ← hc.inUse_eq, r.totalIn_inUse (by rw [hread]; decide), hread]
    rfl
  refine ⟨⟨r, none, 0⟩, i, d, ?_, ?_, htotal, hone.symm, ?_, hbytes.trans heq.symm,
    hbest.trans hone.symm⟩
  · rw [← hr]; decide +kernel
  · rw [← hr]; decide +kernel
  · rw [usageSum_apply, hread]

end Member

/-! ## Free memory -/

namespace MemoryInfo

variable (physical : MemoryInfo) {limit usage : UInt64} (hlimit : limit ≠ 0)

include hlimit

/-- What is shown as free is what the usage leaves of the limit. -/
theorem le_free_iff {size : UInt64} (hsize : size ≠ 0) :
    size ≤ (physical.underQuota limit usage).free ↔
      usage.toNat + size.toNat ≤ limit.toNat := by
  have hpos : size.toNat ≠ 0 := by simpa [← UInt64.toNat_inj] using hsize
  rw [underQuota, if_neg hlimit, UInt64.le_iff_toNat_le, toNat_satSub]
  omega

/-- Used and free memory make up the total as long as the usage stays within the limit. -/
theorem used_add_free_iff :
    (physical.underQuota limit usage).used.toNat + (physical.underQuota limit usage).free.toNat =
        (physical.underQuota limit usage).total.toNat ↔
      usage.toNat ≤ limit.toNat := by
  rw [underQuota, if_neg hlimit]
  dsimp only
  rw [toNat_satSub]
  omega

end MemoryInfo

/-- An application is shown its quota, less what is in use. -/
theorem Tenancy.memoryInfo_apply (d : DeviceIndex) (physical : MemoryInfo) (s : Seat) :
    memoryInfo d physical s =
      (.ok (physical.underQuota (s.region.memoryLimits.get d) (s.region.usageSum d).bytes), s) := by
  rw [memoryInfo, Run.bind_apply, Member.memoryLimit_apply]
  dsimp only
  rw [Run.bind_apply, Member.usageSum_apply]
  rfl

namespace Desk

open Allocator

variable {σ : Type}

/-- Where nobody but the caller is dead, a request is admitted exactly if it asks for no more than
is shown as free, whatever the device itself reports. Used and free memory make up the total, which
is the limit, exactly if the usage of all processes does not exceed the limit. -/
theorem admissible_iff_le_free (m : Member) (desk : Desk σ) (d : DeviceIndex)
    (physical : MemoryInfo) (size : UInt64) (hconsistent : desk.seat.region.Consistent)
    (hliving : desk.seat.region.perished m.pid m.alive = ∅)
    (hlimit : desk.seat.region.memoryLimits.get d ≠ 0)
    (hmax : (desk.seat.region.memoryLimits.get d).toNat < wordMax) (hsize : size ≠ 0) :
    let r := desk.seat.region
    let limit := r.memoryLimits.get d
    ∃ info, Tenancy.memoryInfo d physical desk.seat = (.ok info, desk.seat) ∧
      ((admissible m d size desk).1 = .ok () ↔ size ≤ info.free) ∧
      (info.used.toNat + info.free.toNat = info.total.toNat ∧ info.total = limit ↔
        r.totalIn d r.occupied ≤ limit.toNat) := by
  have husage := desk.seat.region.toNat_usageSum d
  rw [hconsistent.inUse_eq] at husage
  have hadmitted := admissible_eq m d size desk hmax
  dsimp only at hadmitted ⊢
  -- Nobody is cleared, so the request is compared with what all processes use.
  rw [hconsistent.livingTotal_eq, hliving, Finset.sdiff_empty] at hadmitted
  refine ⟨_, Tenancy.memoryInfo_apply d physical desk.seat, ?_⟩
  generalize desk.seat.region.memoryLimits.get d = limit at hlimit hmax hadmitted ⊢
  generalize desk.seat.region.totalIn d desk.seat.region.occupied = used at husage hadmitted ⊢
  generalize (desk.seat.region.usageSum d).bytes = usage at husage ⊢
  constructor
  · have hfits : limit = 0 ∨ used + size.toNat ≤ limit.toNat ↔
        usage.toNat + size.toNat ≤ limit.toNat := by
      rw [or_iff_right hlimit]
      omega
    rw [hadmitted, MemoryInfo.le_free_iff _ hlimit hsize, ← hfits]
    dsimp only
    split
    next h => exact iff_of_true rfl h
    next h => exact iff_of_false nofun h
  · have htotal : (physical.underQuota limit usage).total = limit := by
      rw [MemoryInfo.underQuota, if_neg hlimit]
    rw [and_iff_left htotal, MemoryInfo.used_add_free_iff _ hlimit]
    omega

/-- Two processes have 90 of 100 bytes between them. A request for the rest is admitted. -/
theorem admissible_iff_le_free_of_rest :
    ∃ (m : Member) (desk : Desk SimulatedDevice) (d : DeviceIndex) (info : MemoryInfo),
      Tenancy.memoryInfo d ⟨1000, 0, 1000⟩ desk.seat = (.ok info, desk.seat) ∧ info.free = 10 ∧
      (admissible m d 10 desk).1 = .ok () ∧
      info.used.toNat + info.free.toNat = info.total.toNat := by
  let settings := Settings.standard.withMemoryLimit 0 100
  let all : Pid → Bool := fun _ => true
  let i : Fin maxProcesses := ⟨0, by decide⟩
  let j : Fin maxProcesses := ⟨1, by decide⟩
  let d : DeviceIndex := ⟨0, by decide⟩
  have h₁ := (Population.consistent_setUp settings 0).register 8 all (show (8 : Pid) ≠ 0 by decide)
  have h₂ := h₁.register 9 all (show (9 : Pid) ≠ 0 by decide)
  have h₃ := h₂.modifySlot (i := i) (f := (·.addUsage d .data 60)) (by decide +kernel)
    (Slot.pid_addUsage _ d .data 60)
  have hc := h₃.modifySlot (i := j) (f := (·.addUsage d .module 30)) (by decide +kernel)
    (Slot.pid_addUsage _ d .module 30)
  -- From here on only the limit and the sum of the region matter.
  generalize hr : Region.modifySlot _ j _ = r at hc
  have hlimit : r.memoryLimits.get d = 100 := by rw [← hr]; decide +kernel
  have hread : (r.usageSum d).bytes = 90 := by rw [← hr]; decide +kernel
  have hliving : r.perished 8 all = ∅ := by simp [Region.perished, all]
  let desk : Desk SimulatedDevice := ⟨⟨r, none, 0⟩, {}, {}⟩
  obtain ⟨info, hinfo, hiff, htotal⟩ := admissible_iff_le_free ⟨8, settings, all⟩ desk d
    ⟨1000, 0, 1000⟩ 10 hc hliving (by rw [hlimit]; decide) (by rw [hlimit]; decide) (by decide)
  have hfree : info.free = 10 := by
    rw [Tenancy.memoryInfo_apply, hlimit, hread] at hinfo
    rw [← Except.ok.inj (Prod.mk.inj hinfo).1]
    rfl
  refine ⟨_, desk, d, info, hinfo, hfree, hiff.2 (hfree ▸ UInt64.le_refl _), (htotal.2 ?_).1⟩
  rw [← hc.inUse_eq, r.totalIn_inUse (by rw [hread]; decide), hread, hlimit]
  decide

end Desk

end GpuQuota
