import GpuQuota.Allocator
import GpuQuota.Proofs.Registry.Member
import Mathlib.Algebra.BigOperators.Pi
import Mathlib.Algebra.Group.Pi.Basic
import Mathlib.Data.UInt
import Mathlib.Tactic.Abel

/-!
# The books of a process

A process is charged in its slot, and its allocators track what it is charged for. This module
says what each primitive does to both sides: the counters of the slot as amounts by device and
kind, and the entries of a tracking list as the amounts that they stand for.

The module introduces:

* `Amounts`, `due` — amounts by device and kind, and those of one charge.
* `Tracked.charged`, `Holdings.charged` — the amounts that tracked entries stand for.
* `Usage.drift` — how far a total is off the sum of its kinds.
* `Region.Books` — the counters of the slot of a process stand at given amounts.
* `Region.Books.addUsage`, `.removeUsage`, `.reap` — how the books move.
-/

namespace GpuQuota

/-- Amounts of bytes, by device and kind, modulo `2^64`. -/
abbrev Amounts := DeviceIndex → UsageKind → UInt64

/-- The amounts of one charge. A device beyond the room of the region is charged nothing. -/
def due (dev : Nat) (kind : UsageKind) (bytes : UInt64) : Amounts :=
  fun d k => if dev = d.val ∧ kind = k then bytes else 0

theorem due_zero (dev : Nat) (kind : UsageKind) : due dev kind 0 = 0 := by
  funext d k
  exact ite_self 0

theorem due_neg (dev : Nat) (kind : UsageKind) (bytes : UInt64) :
    due dev kind (-bytes) = -due dev kind bytes := by
  funext d k
  rw [Pi.neg_apply, Pi.neg_apply, due, due]
  split
  next => rfl
  next => exact neg_zero.symm

/-- Nothing is due on a device that a region has no room for. -/
theorem due_of_error {dev : Nat} {e : InvalidDevice} (h : device? dev = .error e)
    (kind : UsageKind) (bytes : UInt64) : due dev kind bytes = 0 := by
  have hdev : ¬ dev < maxDevices := by
    intro hlt
    rw [device?, dif_pos hlt] at h
    cases h
  -- The entry is for a device that there is not, so that no device is owed anything.
  funext d k
  refine if_neg ?_
  rintro ⟨rfl, -⟩
  exact hdev d.isLt

/-! ## What is tracked -/

namespace Tracked

/-- What the entries stand for: the lengths of those on the device and of the kind. -/
def charged (t : Tracked) : Amounts := fun d k =>
  ((t.entries.filter fun a => a.device = d.val ∧ a.kind = k).map (·.length)).sum

/-- The amounts of a list, entry by entry. -/
theorem charged_eq_sum (t : Tracked) :
    t.charged = (t.entries.map fun a => due a.device a.kind a.length).sum := by
  obtain ⟨entries, watermark⟩ := t
  induction entries with
  | nil => rfl
  | cons a entries ih =>
    rw [List.map_cons, List.sum_cons, ← ih]
    -- An entry counts under its own device and kind and under no other.
    funext d k
    rw [Pi.add_apply, Pi.add_apply, due, charged]
    by_cases h : a.device = d.val ∧ a.kind = k
    · rw [if_pos h, List.filter_cons_of_pos (by simpa using h), List.map_cons, List.sum_cons]
      rfl
    · rw [if_neg h, zero_add, List.filter_cons_of_neg (by simpa using h)]
      rfl

/-- Only the entries count. -/
theorem charged_congr {t t' : Tracked} (h : t'.entries = t.entries) : t'.charged = t.charged := by
  rw [charged_eq_sum, charged_eq_sum, h]

theorem charged_of_entries_eq_nil {t : Tracked} (h : t.entries = []) : t.charged = 0 := by
  rw [charged_eq_sum, h]
  rfl

/-- A new entry adds what it stands for. -/
theorem charged_push (t : Tracked) (a : Allocation) :
    (t.push a).charged = t.charged + due a.device a.kind a.length := by
  rw [charged_eq_sum, charged_eq_sum, push, List.map_append, List.sum_append, List.map_singleton,
    List.sum_singleton]

/-- Swapping the last element into the place of another takes just that other one out. -/
theorem perm_swapErase {α : Type} {l : List α} {n : Nat} {a : α} (h : l[n]? = some a) :
    l.Perm (a :: swapErase l n) := by
  obtain ⟨hn, rfl⟩ := List.getElem?_eq_some_iff.1 h
  have hne : l ≠ [] := List.ne_nil_of_length_pos (by omega)
  have hlast := List.getLast?_eq_some_getLast hne
  generalize l.getLast hne = last at hlast
  rw [swapErase, hlast]
  obtain ⟨front, rfl⟩ := List.getLast?_eq_some_iff.1 hlast
  dsimp only
  -- The last element moves to another place, or is the one that goes.
  by_cases hf : n < front.length
  · rw [List.set_append_left _ _ hf, List.dropLast_concat, List.getElem_append_left hf]
    calc
      List.Perm (front ++ [last]) (last :: front) := List.perm_append_singleton last front
      List.Perm _ (last :: front[n] :: front.eraseIdx n) :=
        (List.getElem_cons_eraseIdx_perm hf).symm.cons last
      List.Perm _ (front[n] :: last :: front.eraseIdx n) := .swap _ _ _
      List.Perm _ (front[n] :: front.set n last) :=
        (List.set_perm_cons_eraseIdx hf last).symm.cons _
  · have hlen : n = front.length := by
      rw [List.length_append, List.length_singleton] at hn
      omega
    subst hlen
    rw [List.set_append_right _ _ le_rfl, Nat.sub_self, List.set_cons_zero,
      List.dropLast_concat, List.getElem_concat_length rfl]
    exact List.perm_append_singleton last front

/-- Taking an entry out leaves the others, in some order. -/
theorem perm_remove? {t rest : Tracked} {address : Address} {a : Allocation}
    (h : t.remove? address = some (a, rest)) :
    t.entries.Perm (a :: rest.entries) ∧ rest.watermark = t.watermark := by
  rw [remove?, Option.bind_eq_bind, Option.bind_eq_some_iff] at h
  obtain ⟨n, -, h⟩ := h
  rw [Option.bind_eq_bind, Option.bind_eq_some_iff] at h
  obtain ⟨b, hb, h⟩ := h
  -- The search found a place; whatever stands there is what is taken out.
  cases h
  exact ⟨perm_swapErase hb, rfl⟩

/-- Taking an entry out takes away what it stands for. -/
theorem charged_remove? {t rest : Tracked} {address : Address} {a : Allocation}
    (h : t.remove? address = some (a, rest)) :
    t.charged = rest.charged + due a.device a.kind a.length := by
  rw [charged_eq_sum, charged_eq_sum, ((perm_remove? h).1.map _).sum_eq, List.map_cons,
    List.sum_cons, add_comm]

end Tracked

/-- What all entries of an allocator stand for. -/
def Holdings.charged (h : Holdings) : Amounts := h.plain.charged + h.pooled.charged

/-- Where nothing is tracked nothing is stood for. -/
theorem Holdings.charged_of_entries_eq_nil {h : Holdings}
    (hempty : h.plain.entries = [] ∧ h.pooled.entries = []) : h.charged = 0 := by
  rw [charged, Tracked.charged_of_entries_eq_nil hempty.1,
    Tracked.charged_of_entries_eq_nil hempty.2, add_zero]

/-! ## What is charged -/

namespace Usage

/-- How far the total is off the sum of the kinds, modulo `2^64`. -/
def drift (u : Usage) : UInt64 := u.total - (u.context + u.module + u.data)

@[simp] theorem drift_charge (u : Usage) (kind : UsageKind) (bytes : UInt64) :
    (u.charge kind bytes).drift = u.drift := by
  cases kind <;> simp only [drift, charge, modify] <;> abel

/-- To take a charge back is to charge its negative. -/
theorem release_eq_charge_neg (u : Usage) (kind : UsageKind) (bytes : UInt64) :
    u.release kind bytes = u.charge kind (-bytes) := by
  cases kind <;> simp only [release, charge, modify, sub_eq_add_neg]

@[simp] theorem drift_release (u : Usage) (kind : UsageKind) (bytes : UInt64) :
    (u.release kind bytes).drift = u.drift := by
  rw [release_eq_charge_neg, drift_charge]

/-- The kinds and the drift make up the usage. -/
theorem ext_of_get {u v : Usage} (hget : ∀ kind, u.get kind = v.get kind)
    (hdrift : u.drift = v.drift) : u = v := by
  have hcontext : u.context = v.context := hget .context
  have hmodule : u.module = v.module := hget .module
  have hdata : u.data = v.data := hget .data
  rw [drift, drift, hcontext, hmodule, hdata, sub_left_inj] at hdrift
  cases u
  cases v
  simp_all

end Usage

namespace Region

/-- The process owns the slot, the counters of the slot stand at the amounts owed, and the totals
are off the sums of the kinds by as much as given. -/
structure Books (pid : Pid) (i : Fin maxProcesses) (drift : DeviceIndex → UInt64) (owed : Amounts)
    (r : Region) : Prop where
  owns : r.Owns pid i
  get_eq : ∀ d kind, (r.usageAt i d).get kind = owed d kind
  drift_eq : ∀ d, (r.usageAt i d).drift = drift d

namespace Books

variable {pid : Pid} {i : Fin maxProcesses} {drift : DeviceIndex → UInt64} {owed : Amounts}
  {r r' : Region}

/-- The books only look at the owners of slots, at the mark, and at the counters of one slot. -/
theorem congr (h : r.Books pid i drift owed) (howns : r'.Owns pid i)
    (husage : ∀ d, r'.usageAt i d = r.usageAt i d) : r'.Books pid i drift owed where
  owns := howns
  get_eq d kind := by rw [husage, h.get_eq]
  drift_eq d := by rw [husage, h.drift_eq]

/-- A charge is owed. -/
theorem addUsage (h : r.Books pid i drift owed) (d : DeviceIndex) (kind : UsageKind)
    (bytes : UInt64) :
    (r.modifySlot i (·.addUsage d kind bytes)).Books pid i drift (owed + due d.val kind bytes) where
  owns := h.owns.modifySlot fun _ => rfl
  get_eq e k := by
    show ((r.modifySlot i (·.writeUsage d (·.charge kind bytes))).usageAt i e).get k = _
    rw [usageAt_writeUsage, Pi.add_apply, Pi.add_apply, due]
    -- Only the counter of the device and the kind moves.
    by_cases he : e = d
    · subst he
      rw [if_pos rfl, Usage.get_charge, h.get_eq]
      by_cases hk : k = kind
      · rw [if_pos hk, if_pos ⟨rfl, hk.symm⟩]
      · rw [if_neg hk, if_neg fun hand => hk hand.2.symm, add_zero]
    · rw [if_neg he, if_neg fun hand => he (Fin.ext hand.1.symm), add_zero, h.get_eq]
  drift_eq e := by
    show ((r.modifySlot i (·.writeUsage d (·.charge kind bytes))).usageAt i e).drift = _
    rw [usageAt_writeUsage]
    split
    next he => rw [Usage.drift_charge, h.drift_eq, he]
    next => exact h.drift_eq e

/-- A charge that is taken back is no longer owed. -/
theorem removeUsage (h : r.Books pid i drift owed) (d : DeviceIndex) (kind : UsageKind)
    (bytes : UInt64) :
    (r.modifySlot i (·.removeUsage d kind bytes)).Books pid i drift
      (owed - due d.val kind bytes) := by
  -- Modulo `2^64` taking back is charging the negative.
  have hslot : ∀ s : Slot, s.removeUsage d kind bytes = s.addUsage d kind (-bytes) := by
    intro s
    simp only [Slot.removeUsage, Slot.addUsage, Usage.release_eq_charge_neg]
  have hdue : owed - due d.val kind bytes = owed + due d.val kind (-bytes) := by
    rw [sub_eq_add_neg, ← due_neg]
  simp only [hslot]
  rw [hdue]
  exact h.addUsage d kind (-bytes)

/-- Reaping by the process itself leaves its books alone. -/
theorem reap (h : r.Books pid i drift owed) (alive : Pid → Bool) :
    (r.reap pid alive).2.Books pid i drift owed :=
  h.congr (h.owns.reap alive) fun d => by rw [usageAt, h.owns.slotAt_reap alive, usageAt]

/-- The books say nothing about the lock. -/
theorem setLock (h : r.Books pid i drift owed) (word : LockWord) :
    { r with lock := word }.Books pid i drift owed :=
  h.congr (h.owns.setLock word) fun _ => rfl

end Books

end Region

/-! ## Members -/

namespace Member

variable (m : Member) {pid : Pid} {i : Fin maxProcesses} {drift : DeviceIndex → UInt64}
  (owed : Amounts)

/-- Whoever charges the process, the charge is owed. A refusal means that nothing was due. -/
theorem triple_addUsage (dev : Nat) (bytes : UInt64) (kind : UsageKind) :
    Triple (fun s => s.region.Books pid i drift owed) (m.addUsage pid dev bytes kind)
      (fun _ s => s.region.Books pid i drift (owed + due dev kind bytes))
      (fun s => s.region.Books pid i drift owed ∧ due dev kind bytes = 0) := by
  intro s hs
  cases hd : device? dev with
  | error e =>
    -- A device out of range is refused before anything is charged.
    rw [m.addUsage_apply, hd]
    exact ⟨hs, due_of_error hd kind bytes⟩
  | ok d =>
    obtain rfl := val_of_device?_eq_ok hd
    obtain ⟨t, hregion, hrun⟩ := m.addUsage_of_owns hs.owns d bytes kind
    rw [hrun]
    show t.region.Books pid i drift _
    rw [hregion]
    exact hs.addUsage d kind bytes

/-- Whoever takes back a charge of the process, it is no longer owed. A refusal means that there
was nothing to take back. -/
theorem triple_removeUsage (dev : Nat) (bytes : UInt64) (kind : UsageKind) :
    Triple (fun s => s.region.Books pid i drift owed) (m.removeUsage pid dev bytes kind)
      (fun _ s => s.region.Books pid i drift (owed - due dev kind bytes))
      (fun s => s.region.Books pid i drift (owed - due dev kind bytes)) := by
  intro s hs
  -- A device out of range is refused, and nothing is due for it.
  cases hd : device? dev with
  | error e =>
    rw [m.removeUsage_apply, hd]
    show s.region.Books pid i drift _
    rwa [due_of_error hd, sub_zero]
  | ok d =>
    obtain rfl := val_of_device?_eq_ok hd
    obtain ⟨t, hregion, hrun⟩ := m.removeUsage_of_owns hs.owns d bytes kind
    rw [hrun]
    show t.region.Books pid i drift _
    rw [hregion]
    exact hs.removeUsage d kind bytes

/-- A process that clears the slots of dead ones keeps its books. -/
theorem books_clearDead :
    Keeps (fun s => s.region.Books m.pid i drift owed) m.clearDead :=
  fun _ hs => ((hs.setLock _).reap m.alive).setLock _

end Member

end GpuQuota
