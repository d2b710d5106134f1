import GpuQuota.Proofs.Allocation.Settled
import GpuQuota.Proofs.Registry.Reachable
import Mathlib.Algebra.BigOperators.Group.Finset.Basic

/-!
# What is charged is what is tracked

Several allocators work for one process, on whatever device is current, with a driver that may
refuse anything; the process may also be charged directly, and others change the region as they
like as long as its slot stays registered. Between operations the counters of its slot stand where
they started, plus what it was charged directly, plus what its allocators track.

The module introduces:

* `AllocCall` — an operation of an allocator; `DirectCharge` — a charge past the allocators.
* `Session` — a region, the allocators of a process, and the driver.
* `Session.Course` — the operations carried out from a start.
* `Session.charges_conserved` — the counters at every point of a course.
-/

namespace GpuQuota

variable {σ ι : Type}

/-! ## Totals -/

/-- On every device the total is the sum of the kinds, modulo `2^64`. -/
def Slot.IsSummed (s : Slot) : Prop := ∀ d, (s.device d).usage.drift = 0

namespace Slot

theorem IsSummed.writeUsage {s : Slot} (h : s.IsSummed) (d : DeviceIndex) {f : Usage → Usage}
    (hf : ∀ u, (f u).drift = u.drift) : (s.writeUsage d f).IsSummed := by
  intro e
  rw [device_writeUsage]
  split
  next => exact (hf _).trans (h d)
  next => exact h e

/-- What is only observed does not enter the sums. -/
theorem IsSummed.congr {s s' : Slot} (h : s.IsSummed)
    (husage : ∀ d, (s'.device d).usage = (s.device d).usage) : s'.IsSummed := by
  intro d
  rw [husage]
  exact h d

theorem isSummed_of_zero {s : Slot} (h : s.devices = .replicate _ .zero) : s.IsSummed := by
  intro d
  rw [device_replicate_zero h]
  rfl

end Slot

/-- In every reachable region the totals are the sums of their kinds. -/
theorem Population.isSummed_of_reachable {p : Population} (h : p.Reachable)
    (i : Fin maxProcesses) : (p.region.slotAt i).IsSummed := by
  -- A charge moves a total and one of its kinds alike; nothing else moves either.
  have hstable : Region.Stable fun r => ∀ i, (r.slotAt i).IsSummed := by
    refine Region.stable_forall_slotAt (Slot.isSummed_of_zero rfl)
      (fun _ _ => Slot.isSummed_of_zero rfl)
      (fun _ d kind bytes hs => hs.writeUsage d fun u => u.drift_charge kind bytes)
      (fun _ d kind bytes hs => hs.writeUsage d fun u => u.drift_release kind bytes)
      (fun s hostPid hs => hs.congr fun d => ?_) (fun _ _ hs => hs)
      (fun s d f hf hs => hs.congr fun e => ?_) (fun s hs => hs.congr fun d => ?_)
    · simp [Slot.device, Slot.setHostPid]
    · simp only [Slot.device, Slot.modifyDevice, Fin.getElem_fin, Vector.getElem_set]
      split
      next he => simp [he, hf]
      next => rfl
    · simp [Slot.device, Slot.resetObserved, DeviceRecord.forgetObserved]
  refine h.of_stable hstable (fun settings now i => ?_) i
  rw [slotAt_setUp]
  exact Slot.isSummed_of_zero rfl

/-! ## Operations -/

/-- An operation of an allocator. -/
inductive AllocCall
  /-- Allocates data. -/
  | allocate (size : UInt64)
  /-- Allocates memory of one kind. -/
  | allocateAs (size : UInt64) (kind : UsageKind)
  /-- Allocates from the pool. -/
  | allocateAsync (size : UInt64) (stream : Stream)
  /-- Frees memory. -/
  | free (address : Address)
  /-- Gives memory back to the pool. -/
  | freeAsync (address : Address) (stream : Stream)
  /-- Takes in memory that was allocated elsewhere. -/
  | registerExternal (address : Address) (size : UInt64)

/-- The desk after an operation, whether or not it was refused. -/
def AllocCall.run [DeviceDriver σ] (m : Member) : AllocCall → Desk σ → Desk σ
  | .allocate size, desk => (Allocator.allocate m size desk).2
  | .allocateAs size kind, desk => (Allocator.allocateAs m size kind desk).2
  | .allocateAsync size stream, desk => (Allocator.allocateAsync m size stream desk).2
  | .free address, desk => (Allocator.free m address desk).2
  | .freeAsync address stream, desk => (Allocator.freeAsync m address stream desk).2
  | .registerExternal address size, desk => (Allocator.registerExternal m address size desk).2

/-- A charge past the allocators. -/
inductive DirectCharge
  /-- Charges. -/
  | add (dev : Nat) (bytes : UInt64) (kind : UsageKind)
  /-- Takes a charge back. -/
  | remove (dev : Nat) (bytes : UInt64) (kind : UsageKind)

namespace DirectCharge

/-- The seat of a member after it has charged a process. -/
def run (m : Member) (pid : Pid) : DirectCharge → Seat → Seat
  | .add dev bytes kind, s => (m.addUsage pid dev bytes kind s).2
  | .remove dev bytes kind, s => (m.removeUsage pid dev bytes kind s).2

/-- What is charged. -/
def amounts : DirectCharge → Amounts
  | .add dev bytes kind => due dev kind bytes
  | .remove dev bytes kind => -due dev kind bytes

/-- What is charged in all. -/
def net (directs : List DirectCharge) : Amounts := (directs.map amounts).sum

theorem net_append (directs directs' : List DirectCharge) :
    net (directs ++ directs') = net directs + net directs' := by
  rw [net, List.map_append, List.sum_append, net, net]

theorem net_singleton (x : DirectCharge) : net [x] = x.amounts := by
  rw [net, List.map_singleton, List.sum_singleton]

end DirectCharge

/-- Every operation of an allocator keeps the desk settled. -/
theorem AllocCall.run_settled [DeviceDriver σ] (m : Member) {i : Fin maxProcesses}
    {drift : DeviceIndex → UInt64} {base : Amounts} (call : AllocCall) {desk : Desk σ}
    (h : desk.Settled m.pid i drift base) : (call.run m desk).Settled m.pid i drift base := by
  cases call with
  | allocate size => exact (Allocator.triple_allocateAs m base size .data).snd h
  | allocateAs size kind => exact (Allocator.triple_allocateAs m base size kind).snd h
  | allocateAsync size stream => exact (Allocator.triple_allocateAsync m base size stream).snd h
  | free address => exact (Allocator.triple_free m base address).snd h
  | freeAsync address stream => exact (Allocator.triple_freeAsync m base address stream).snd h
  | registerExternal address size =>
    exact (Allocator.triple_registerExternal m base address size).snd h

/-- The books of the process move with what the allocator tracks. -/
theorem AllocCall.run_books [DeviceDriver σ] (m : Member) {i : Fin maxProcesses}
    {drift : DeviceIndex → UInt64} {owed : Amounts} (call : AllocCall) (desk : Desk σ)
    (h : desk.seat.region.Books m.pid i drift owed) :
    (call.run m desk).seat.region.Books m.pid i drift
      (owed - desk.holdings.charged + (call.run m desk).holdings.charged) := by
  refine call.run_settled m ?_
  rwa [Desk.Settled, sub_add_cancel]

/-- A direct charge moves the books by what is charged. -/
theorem DirectCharge.run_books (m : Member) {pid : Pid} {i : Fin maxProcesses}
    {drift : DeviceIndex → UInt64} {owed : Amounts} (x : DirectCharge) {s : Seat}
    (h : s.region.Books pid i drift owed) :
    (x.run m pid s).region.Books pid i drift (owed + x.amounts) := by
  cases x with
  | add dev bytes kind =>
    -- Only a device out of range is refused, and nothing is due for it.
    refine ((m.triple_addUsage owed dev bytes kind).mono (fun _ _ h => h) fun t ht => ?_).snd h
    show t.region.Books pid i drift (owed + due dev kind bytes)
    rw [ht.2, add_zero]
    exact ht.1
  | remove dev bytes kind =>
    rw [amounts, ← sub_eq_add_neg]
    exact (m.triple_removeUsage owed dev bytes kind).snd h

/-- In a sum over allocators the one that is asked stands apart; the others keep what they track. -/
theorem Holdings.sum_update {ι M : Type} [Fintype ι] [DecidableEq ι] [AddCommMonoid M]
    (f : Holdings → M) (holdings : ι → Holdings) (j : ι) (h' : Holdings) :
    ∑ k, f (Function.update holdings j h' k) =
      f h' + ∑ k ∈ Finset.univ.erase j, f (holdings k) := by
  rw [← Finset.add_sum_erase _ _ (Finset.mem_univ j), Function.update_self]
  congr 1
  refine Finset.sum_congr rfl fun k hk => ?_
  rw [Function.update_of_ne (Finset.ne_of_mem_erase hk)]

/-- A region with the allocators of one process and the driver that they ask. -/
structure Session (σ ι : Type) where
  /-- The region. -/
  region : Region
  /-- What each allocator tracks. -/
  holdings : ι → Holdings
  /-- The driver. -/
  driver : σ

namespace Session

variable [DecidableEq ι] [DeviceDriver σ]

/-- An allocator carries an operation out, with a member that remembers whatever it may. -/
def serve (s : Session σ ι) (j : ι) (m : Member) (remembered : Option Nat) (expired : Nat)
    (call : AllocCall) : Session σ ι :=
  let desk := call.run m ⟨⟨s.region, remembered, expired⟩, s.holdings j, s.driver⟩
  { region := desk.seat.region
    holdings := Function.update s.holdings j desk.holdings
    driver := desk.driver }

/-- The operations carried out from a start, with the direct charges among them, while slot `i`
stays registered to the process. -/
inductive Course (pid : Pid) (i : Fin maxProcesses) (start : Session σ ι) :
    List DirectCharge → Session σ ι → Prop
  /-- Nothing has happened yet. -/
  | start : Course pid i start [] start
  /-- An allocator of the process carries an operation out. -/
  | call {directs : List DirectCharge} {s : Session σ ι} (h : Course pid i start directs s) (j : ι)
    (m : Member) (hm : m.pid = pid) (remembered : Option Nat) (expired : Nat) (call : AllocCall) :
    Course pid i start directs (s.serve j m remembered expired call)
  /-- Somebody charges the process directly. -/
  | direct {directs : List DirectCharge} {s : Session σ ι} (h : Course pid i start directs s)
    (m : Member) (remembered : Option Nat) (expired : Nat) (x : DirectCharge) :
    Course pid i start (directs ++ [x])
      { s with region := (x.run m pid ⟨s.region, remembered, expired⟩).region }
  /-- Others change the region, but not the counters of the process and not that slot `i` is its
  own; the driver may have another device current or change in any other way. -/
  | others {directs : List DirectCharge} {s : Session σ ι} (h : Course pid i start directs s)
    (r : Region) (driver : σ) (howns : r.Owns pid i)
    (husage : ∀ d, r.usageAt i d = s.region.usageAt i d) :
    Course pid i start directs { s with region := r, driver }

section

variable [Fintype ι] {pid : Pid} {i : Fin maxProcesses} {start s : Session σ ι}
  {directs : List DirectCharge} {drift : DeviceIndex → UInt64} {base : Amounts}

/-- The slot is charged the base amounts, what the process was charged directly, and what all its
allocators track. -/
def Settled (pid : Pid) (i : Fin maxProcesses) (drift : DeviceIndex → UInt64) (base : Amounts)
    (s : Session σ ι) : Prop :=
  s.region.Books pid i drift (base + ∑ j, (s.holdings j).charged)

/-- What one allocator does keeps the books of all of them. -/
theorem Settled.serve {m : Member} (h : s.Settled m.pid i drift base) (j : ι)
    (remembered : Option Nat) (expired : Nat) (call : AllocCall) :
    (s.serve j m remembered expired call).Settled m.pid i drift base := by
  -- The desk of one allocator is settled on top of what the others are charged.
  have hothers := Holdings.sum_update Holdings.charged s.holdings j
  have hdesk : Desk.Settled m.pid i drift
      (base + ∑ k ∈ Finset.univ.erase j, (s.holdings k).charged)
      ⟨⟨s.region, remembered, expired⟩, s.holdings j, s.driver⟩ := by
    have hall := hothers (s.holdings j)
    rw [Function.update_eq_self] at hall
    rw [Settled, hall, add_left_comm, add_comm] at h
    exact h
  have hrun := call.run_settled m hdesk
  rw [Settled, Session.serve]
  dsimp only
  rw [hothers, add_left_comm, add_comm]
  exact hrun

/-- The books are settled at every point of a course. -/
theorem Course.settled (hcourse : Course pid i start directs s)
    (hstart : start.Settled pid i drift base) :
    s.Settled pid i drift (base + DirectCharge.net directs) := by
  -- By induction on the course; a direct charge is what moves the base.
  induction hcourse with
  | start => rwa [DirectCharge.net, List.map_nil, List.sum_nil, add_zero]
  | call h j m hm remembered expired call ih =>
    subst hm
    exact ih.serve j remembered expired call
  | direct h m remembered expired x ih =>
    rw [Settled, DirectCharge.net_append, DirectCharge.net_singleton, ← add_assoc,
      add_right_comm]
    exact x.run_books m ih
  | others h r driver howns husage ih => exact ih.congr howns husage

/-- Between operations the counters of a registered process stand where they started, plus what the
process was charged directly, plus what its allocators track; the totals are the sums of their
kinds; and once nothing is tracked any more, every counter is back where it started. -/
theorem charges_conserved {p : Population} (hreach : p.Reachable)
    (hregion : start.region = p.region) (hpid : pid ≠ 0)
    (hslot : (start.region.slotAt i).pid = pid)
    (hempty : ∀ j, (start.holdings j).plain.entries = [] ∧ (start.holdings j).pooled.entries = [])
    (hcourse : Course pid i start directs s) (d : DeviceIndex) :
    (∀ kind, (s.region.usageAt i d).get kind = (start.region.usageAt i d).get kind +
      DirectCharge.net directs d kind + ∑ j, (s.holdings j).charged d kind) ∧
    (s.region.usageAt i d).total = (s.region.usageAt i d).context +
      (s.region.usageAt i d).module + (s.region.usageAt i d).data ∧
    ((∀ j, (s.holdings j).plain.entries = [] ∧ (s.holdings j).pooled.entries = []) →
      DirectCharge.net directs = 0 → s.region.usageAt i d = start.region.usageAt i d) := by
  -- At the start nothing is tracked, and the totals have no drift in a reachable region.
  have hstart : start.Settled pid i (fun _ => 0)
      (fun d kind => (start.region.usageAt i d).get kind) := by
    have hnone : ∑ j, (start.holdings j).charged = 0 :=
      Finset.sum_eq_zero fun j _ => Holdings.charged_of_entries_eq_nil (hempty j)
    rw [Settled, hnone, add_zero]
    have hsummed := p.isSummed_of_reachable hreach i
    rw [← hregion] at hsummed
    have howns := hreach.consistent.owns (i := i)
    rw [← hregion, hslot] at howns
    exact ⟨howns hpid, fun _ _ => rfl, hsummed⟩
  obtain ⟨-, hget, hdrift⟩ := hcourse.settled hstart
  have hget' : ∀ kind, (s.region.usageAt i d).get kind = (start.region.usageAt i d).get kind +
      DirectCharge.net directs d kind + ∑ j, (s.holdings j).charged d kind := by
    intro kind
    rw [hget, Pi.add_apply, Pi.add_apply, Pi.add_apply, Pi.add_apply, Finset.sum_apply,
      Finset.sum_apply]
  refine ⟨hget', sub_eq_zero.1 (hdrift d), fun hfreed hnet => ?_⟩
  refine Usage.ext_of_get (fun kind => ?_) ((hdrift d).trans ?_)
  · -- With nothing tracked and nothing charged directly only the starting value is left.
    have hnone : ∑ j, (s.holdings j).charged d kind = 0 := by
      refine Finset.sum_eq_zero fun j _ => ?_
      rw [Holdings.charged_of_entries_eq_nil (hfreed j)]
      rfl
    rw [hget', hnet, hnone, add_zero]
    exact add_zero _
  · exact (hstart.drift_eq d).symm

end

/-- A process registers, allocates on a simulated device, is charged directly, and frees. -/
theorem charges_conserved_after_free :
    ∃ (i : Fin maxProcesses) (start s : Session SimulatedDevice Unit),
      Course 7 i start [.add 0 64 .module] s ∧ ∀ d kind,
        (s.region.usageAt i d).get kind = (start.region.usageAt i d).get kind +
          DirectCharge.net [.add 0 64 .module] d kind + ∑ j, (s.holdings j).charged d kind := by
  let process : Handle := { pid := 7, pid_ne_zero := by decide, settings := .standard }
  let m : Member := process.member fun _ => true
  let r := (RegionCall.registerSelf.run m (process.seat (Region.zero.setUp .standard 0))).region
  let i : Fin maxProcesses := ⟨0, by decide⟩
  let start : Session SimulatedDevice Unit := ⟨r, fun _ => {}, {}⟩
  have hreach := ((Population.Reachable.fresh .standard 0).step (.attach _ [] process)).step
    (.operate _ [] [] process (fun _ => true) .registerSelf)
  have hslot : (start.region.slotAt i).pid = 7 := by decide +kernel
  have h₀ : Course 7 i start [] start := .start
  -- An allocation, a direct charge, and the release of what was allocated.
  have h₁ := h₀.call () m rfl none 0 (.allocate 4096)
  have h₂ := h₁.direct m none 0 (.add 0 64 .module)
  have h₃ := h₂.call () m rfl none 0 (.free simulatedBase)
  refine ⟨i, start, _, h₃, fun d => ?_⟩
  exact (charges_conserved hreach rfl (by decide) hslot (fun _ => ⟨rfl, rfl⟩) h₃ d).1

end Session

end GpuQuota
