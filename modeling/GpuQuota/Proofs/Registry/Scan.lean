import GpuQuota.Region.Accounting
import GpuQuota.Region.Registry
import Mathlib.Algebra.BigOperators.Fin
import Mathlib.Data.List.DropRight

/-!
# Scans over the process table

A scan reads the slots below the high-water mark in table order. This module says what scans see
in terms of single slots, so that statements about the table need no lists.

The module introduces:

* `Region.slotAt` — the slot with an index that is in range.
* `Region.usageAt` — what the owner of a slot is charged for on a device.
* `Region.slotAt_modifySlot`, `Region.usageAt_writeUsage` — changing one slot, seen slot by slot.
* `Region.countP_scanned` — a count over a scan as a count of slot indices.
* `Region.findSlot?_eq_some`, `Region.findSlot?_eq_none_iff` — what a search finds.
* `Region.occupiedLength_le_iff` — where the trailing free slots of a list start.
-/

namespace GpuQuota

namespace Region

/-- The slot with an index that is in range. -/
def slotAt (r : Region) (i : Fin maxProcesses) : Slot := r.slots[i]

theorem slot?_eq_some_slotAt (r : Region) (i : Fin maxProcesses) :
    r.slot? i = some (r.slotAt i) := by
  rw [slot?, slotAt, Fin.getElem_fin, Vector.getElem?_eq_getElem i.isLt]

/-- Changing a slot leaves all other slots alone. -/
theorem slotAt_modifySlot (r : Region) (i j : Fin maxProcesses) (f : Slot → Slot) :
    (r.modifySlot i f).slotAt j = if j = i then f (r.slotAt i) else r.slotAt j := by
  simp only [slotAt, modifySlot, i.isLt, ↓reduceDIte, Fin.getElem_fin, Vector.getElem_set]
  by_cases h : j = i
  · simp [h]
  · have : (i : Nat) ≠ j := fun he => h (Fin.ext he.symm)
    simp [h, this]

section ModifySlot

variable (r : Region) (i : Nat) (f : Slot → Slot)

@[simp] theorem procNum_modifySlot : (r.modifySlot i f).procNum = r.procNum := by
  unfold modifySlot; split <;> rfl

@[simp] theorem highWater_modifySlot : (r.modifySlot i f).highWater = r.highWater := by
  unfold modifySlot; split <;> rfl

@[simp] theorem mark_modifySlot : (r.modifySlot i f).mark = r.mark := by
  rw [mark, highWater_modifySlot, mark]

end ModifySlot

/-- What the owner of a slot is charged for on a device. -/
def usageAt (r : Region) (i : Fin maxProcesses) (d : DeviceIndex) : Usage :=
  ((r.slotAt i).device d).usage

/-- Changing one slot leaves the counters of all others alone. -/
theorem usageAt_modifySlot_of_ne (r : Region) {i j : Fin maxProcesses} (h : j ≠ i)
    (f : Slot → Slot) (d : DeviceIndex) : (r.modifySlot i f).usageAt j d = r.usageAt j d := by
  rw [usageAt, slotAt_modifySlot, if_neg h, usageAt]

/-- A change of one slot that keeps its owner keeps all owners. -/
theorem pid_modifySlot (r : Region) (i j : Fin maxProcesses) {f : Slot → Slot}
    (hf : ∀ s : Slot, (f s).pid = s.pid) :
    ((r.modifySlot i f).slotAt j).pid = (r.slotAt j).pid := by
  rw [slotAt_modifySlot]
  split
  next h => rw [hf, h]
  next => rfl

/-- A write to the counters of a slot changes them on its device only. -/
theorem usageAt_writeUsage (r : Region) (i : Fin maxProcesses) (d e : DeviceIndex)
    (f : Usage → Usage) :
    (r.modifySlot i (·.writeUsage d f)).usageAt i e =
      if e = d then f (r.usageAt i d) else r.usageAt i e := by
  rw [usageAt, slotAt_modifySlot, if_pos rfl, Slot.device_writeUsage]
  split <;> rfl

/-- A charge adds to the total of its slot. -/
theorem total_addUsage (r : Region) (i : Fin maxProcesses) (d : DeviceIndex) (kind : UsageKind)
    (bytes : UInt64) :
    ((r.modifySlot i (·.addUsage d kind bytes)).usageAt i d).total =
      (r.usageAt i d).total + bytes := by
  show ((r.modifySlot i (·.writeUsage d (·.charge kind bytes))).usageAt i d).total = _
  rw [usageAt_writeUsage, if_pos rfl, Usage.total_charge]

theorem total_removeUsage (r : Region) (i : Fin maxProcesses) (d : DeviceIndex) (kind : UsageKind)
    (bytes : UInt64) :
    ((r.modifySlot i (·.removeUsage d kind bytes)).usageAt i d).total =
      (r.usageAt i d).total - bytes := by
  show ((r.modifySlot i (·.writeUsage d (·.release kind bytes))).usageAt i d).total = _
  rw [usageAt_writeUsage, if_pos rfl, Usage.total_release]

/-! ## Scans as lists of indices -/

private theorem take_finRange (n k : Nat) :
    (List.finRange n).take k = (List.finRange n).filter fun i => i.val < k := by
  induction n with
  | zero => simp
  | succ n ih =>
    rw [List.finRange_succ_last, List.take_append, List.filter_append, ← List.map_take, ih,
      List.filter_map]
    congr 1
    rw [List.length_map, List.length_finRange, List.filter_singleton]
    -- The last index is taken exactly if all others are.
    by_cases h : n < k
    · rw [List.take_of_length_le (by simp only [List.length_singleton]; omega)]
      simp [h]
    · have hzero : k - n = 0 := by omega
      simp [h, hzero]

/-- A scan goes through the indices below the mark. -/
theorem scanned_eq_map (r : Region) :
    r.scanned = ((List.finRange maxProcesses).filter fun i => i.val < r.mark).map
      fun i => r.slotAt i := by
  -- The slots as a list are the slots by index, of which the scan takes those below the mark.
  have hlist : r.slots.toList = (List.finRange maxProcesses).map fun i => r.slotAt i := by
    rw [← List.ofFn_eq_map]
    apply List.ext_getElem
    · simp
    · intro i _ _
      simp [slotAt]
  rw [scanned, hlist, ← List.map_take, take_finRange]

/-- A scan sees the slots below the mark. -/
theorem mem_scanned_iff {r : Region} {s : Slot} :
    s ∈ r.scanned ↔ ∃ i : Fin maxProcesses, i.val < r.mark ∧ r.slotAt i = s := by
  simp [scanned_eq_map]

/-- A count over a scan counts indices below the mark. -/
theorem countP_scanned (r : Region) (p : Slot → Bool) :
    r.scanned.countP p =
      (Finset.univ.filter fun i : Fin maxProcesses => i.val < r.mark ∧ p (r.slotAt i)).card := by
  have hcard : ∀ q : Fin maxProcesses → Prop, ∀ _ : DecidablePred q,
      (List.finRange maxProcesses).countP (fun i => q i) = (Finset.univ.filter q).card := by
    intro q _
    rw [List.countP_eq_length_filter]
    rfl
  rw [scanned_eq_map, List.countP_map, List.countP_filter, ← hcard]
  simp [Bool.and_comm]

/-! ## Searches -/

/-- A search finds the first slot below the mark that fits. -/
theorem findSlot?_eq_some {r : Region} {p : Slot → Bool} {n : Nat} (h : r.findSlot? p = some n) :
    ∃ i : Fin maxProcesses, i.val = n ∧ n < r.mark ∧ p (r.slotAt i) ∧
      ∀ j : Fin maxProcesses, j < i → p (r.slotAt j) = false := by
  rw [findSlot?, List.findIdx?_eq_some_iff_getElem] at h
  obtain ⟨hn, hp, hmin⟩ := h
  -- The scan stops at the mark, so what it finds lies below.
  have hmark : n < r.mark := by
    rw [scanned, List.length_take] at hn
    omega
  refine ⟨⟨n, hmark.trans_le r.mark_le⟩, rfl, hmark, ?_, ?_⟩
  · simpa [scanned, slotAt] using hp
  · intro j hj
    simpa [scanned, slotAt] using hmin j hj

/-- A search finds nothing if no slot below the mark fits. -/
theorem findSlot?_eq_none_iff {r : Region} {p : Slot → Bool} :
    r.findSlot? p = none ↔ ∀ i : Fin maxProcesses, i.val < r.mark → p (r.slotAt i) = false := by
  rw [findSlot?, List.findIdx?_eq_none_iff]
  simp [mem_scanned_iff]

/-! ## Trailing free slots -/

private theorem occupiedLength_concat (l : List Slot) (s : Slot) :
    occupiedLength (l ++ [s]) = if s.isFree then occupiedLength l else l.length + 1 := by
  rw [occupiedLength, List.reverse_append, List.reverse_singleton, List.singleton_append,
    List.dropWhile_cons]
  split
  · rfl
  · simp

/-- Behind a position there are only free slots exactly if the occupied length does not exceed
it. -/
theorem occupiedLength_le_iff {l : List Slot} {n : Nat} :
    occupiedLength l ≤ n ↔ ∀ i, (hi : i < l.length) → n ≤ i → l[i].isFree := by
  -- The scan cuts off the free slots at the end, so the induction takes off the last one.
  induction l using List.reverseRecOn with
  | nil => simp [occupiedLength]
  | append_singleton l s ih =>
    rw [occupiedLength_concat]
    by_cases hs : s.isFree
    · rw [if_pos hs, ih]
      constructor
      · intro h i hi hn
        by_cases hl : i < l.length
        · rw [List.getElem_append_left hl]
          exact h i hl hn
        · rw [List.getElem_append_right (by omega)]
          simpa using hs
      · intro h i hi hn
        have := h i (by rw [List.length_append]; omega) hn
        rwa [List.getElem_append_left hi] at this
    · rw [if_neg hs]
      constructor
      · intro h i hi hn
        rw [List.length_append, List.length_singleton] at hi
        omega
      · intro h
        by_contra hlt
        have := h l.length (by simp) (by omega)
        simp [hs] at this

end Region

end GpuQuota
