import GpuQuota.Proofs.Allocation.Books

/-!
# Allocators keep the books settled

An allocator charges, tracks and asks the driver in an order of its own for each operation, and
undoes what it did when it is refused. Through all of that, what its process is charged moves with
what the allocator tracks, so that the difference of the two is the same after every operation.

The module introduces:

* `Desk.Settled` — the process is charged given amounts besides what the allocator tracks.
* `Allocator.triple_reserve` — a reservation is charged in full or not at all.
* `Allocator.payForPool` — the end of an allocation from the pool.
* `Allocator.triple_allocateAs`, `.triple_free`, `.triple_allocateAsync`, `.triple_freeAsync`,
  `.triple_registerExternal` — the operations of an allocator.
-/

namespace GpuQuota

variable {σ α : Type}

/-- The process is charged the base amounts, and besides them what the allocator tracks. -/
def Desk.Settled (pid : Pid) (i : Fin maxProcesses) (drift : DeviceIndex → UInt64)
    (base : Amounts) (desk : Desk σ) : Prop :=
  desk.seat.region.Books pid i drift (base + desk.holdings.charged)

namespace Allocator

/-! ## The primitives -/

theorem onSeat_apply (op : SeatM α) (desk : Desk σ) :
    onSeat op desk = (.ok (op desk.seat).1, { desk with seat := (op desk.seat).2 }) := rfl

theorem onRegion_apply (op : RegionM α) (desk : Desk σ) :
    onRegion op desk = match op desk.seat with
      | (.ok a, seat) => (.ok a, { desk with seat })
      | (.error e, seat) => (.error (.region e), { desk with seat }) := by
  rw [onRegion, Run.bind_apply, onSeat_apply]
  rcases op desk.seat with ⟨e | a, seat⟩ <;> rfl

section Primitives

variable {pid : Pid} {i : Fin maxProcesses} {drift : DeviceIndex → UInt64} {base : Amounts}

/-- An operation on the seat that moves the books moves the base. -/
theorem triple_onRegion {op : RegionM α} {gained lost : Amounts}
    (hop : ∀ owed, Triple (fun s => s.region.Books pid i drift owed) op
      (fun _ s => s.region.Books pid i drift (owed + gained))
      (fun s => s.region.Books pid i drift (owed + lost))) :
    Triple (Desk.Settled pid i drift base) (onRegion op : AllocM σ α)
      (fun _ => Desk.Settled pid i drift (base + gained))
      (Desk.Settled pid i drift (base + lost)) := by
  intro desk hdesk
  -- The operation settles what is owed on top of the base, so the sums are regrouped first.
  have hrun := hop _ desk.seat hdesk
  rw [add_right_comm base _ gained, add_right_comm base _ lost] at hrun
  rw [onRegion_apply]
  generalize op desk.seat = run at hrun ⊢
  obtain ⟨e | a, seat⟩ := run
  · exact hrun
  · exact hrun

/-- An operation on the seat that keeps the books keeps the desk settled. -/
theorem triple_onSeat {op : SeatM α} {E : Desk σ → Prop}
    (hop : ∀ owed, Keeps (fun s => s.region.Books pid i drift owed) op) :
    Triple (Desk.Settled pid i drift base) (onSeat op)
      (fun _ => Desk.Settled pid i drift base) E :=
  fun desk hdesk => hop _ desk.seat hdesk

/-- Reading the region keeps the desk settled. -/
theorem triple_read {op : RegionM α} (hop : ∀ s, (op s).2 = s) :
    Triple (Desk.Settled pid i drift base) (onRegion op : AllocM σ α)
      (fun _ => Desk.Settled pid i drift base) (Desk.Settled pid i drift base) := by
  intro desk hdesk
  have hread := hop desk.seat
  rw [onRegion_apply]
  generalize op desk.seat = run at hread ⊢
  obtain ⟨e | a, seat⟩ := run
  · rw [show seat = desk.seat from hread]
    exact hdesk
  · rw [show seat = desk.seat from hread]
    exact hdesk

/-- The driver sees neither the books nor what is tracked, and its refusal is a result. -/
theorem triple_attempt {E : Desk σ → Prop} (call : Call σ α) :
    Triple (Desk.Settled pid i drift base) (attempt call)
      (fun _ => Desk.Settled pid i drift base) E :=
  fun _ hdesk => hdesk

/-- The driver sees neither the books nor what is tracked. -/
theorem triple_onDriver (call : Call σ α) :
    Triple (Desk.Settled pid i drift base) (onDriver call)
      (fun _ => Desk.Settled pid i drift base) (Desk.Settled pid i drift base) := by
  refine Triple.bind (triple_attempt call) fun answer => ?_
  cases answer with
  | ok a => exact Triple.pure fun _ h => h
  | error e => exact Triple.throw fun _ h => h

/-- A change of what is tracked moves the base the other way. -/
theorem triple_modifyHoldings {base' : Amounts} {E : Desk σ → Prop} {f : Holdings → Holdings}
    (hf : ∀ h, base' + (f h).charged = base + h.charged) :
    Triple (Desk.Settled pid i drift base) (modifyHoldings f)
      (fun _ => Desk.Settled pid i drift base') E := by
  refine Triple.modify fun desk hdesk => ?_
  show desk.seat.region.Books pid i drift (base' + (f desk.holdings).charged)
  rw [hf]
  exact hdesk

/-- What is no longer tracked is in the base again. -/
theorem triple_takeOut {E : Desk σ → Prop} {f : Holdings → Holdings} {a : Allocation}
    {desk : Desk σ} (hdesk : desk.Settled pid i drift base)
    (hf : (f desk.holdings).charged + due a.device a.kind a.length = desk.holdings.charged) :
    Triple (· = desk) (modifyHoldings f)
      (fun _ => Desk.Settled pid i drift (base + due a.device a.kind a.length)) E := by
  refine Triple.modify ?_
  rintro _ rfl
  show Region.Books pid i drift _ _
  -- What the entry was charged is owed on top of the base from now on.
  rw [add_right_comm, add_assoc, hf]
  exact hdesk

/-- What is tracked need no longer be in the base. -/
theorem triple_trackPlain {E : Desk σ → Prop} (a : Allocation) :
    Triple (Desk.Settled pid i drift (base + due a.device a.kind a.length))
      (trackPlain a) (fun _ => Desk.Settled pid i drift base) E := by
  refine triple_modifyHoldings fun h => ?_
  simp only [Holdings.charged, Tracked.charged_push]
  abel

/-- What is tracked for the pool need no longer be in the base. -/
theorem triple_trackPooled {E : Desk σ → Prop} (a : Allocation) :
    Triple (Desk.Settled pid i drift (base + due a.device a.kind a.length))
      (trackPooled a) (fun _ => Desk.Settled pid i drift base) E := by
  refine triple_modifyHoldings fun h => ?_
  simp only [Holdings.charged, Tracked.charged_push]
  abel

/-- Lowering the watermark of the pool moves nothing. -/
theorem triple_releasePool {E : Desk σ → Prop} (bytes : UInt64) :
    Triple (Desk.Settled pid i drift base)
      (modifyHoldings fun h => { h with pooled := h.pooled.releasePool bytes })
      (fun _ => Desk.Settled pid i drift base) E := by
  refine triple_modifyHoldings fun h => ?_
  have hentries : (h.pooled.releasePool bytes).entries = h.pooled.entries := rfl
  rw [Holdings.charged, Holdings.charged, Tracked.charged_congr hentries]

end Primitives

/-! ## Charges -/

section Charges

variable (m : Member) {i : Fin maxProcesses} {drift : DeviceIndex → UInt64} (base : Amounts)
  (dev : Nat) (bytes : UInt64) (kind : UsageKind)

theorem triple_addUsage :
    Triple (Desk.Settled m.pid i drift base)
      (onRegion (m.addUsage m.pid dev bytes kind) : AllocM σ Unit)
      (fun _ => Desk.Settled m.pid i drift (base + due dev kind bytes))
      (Desk.Settled m.pid i drift base) := by
  -- A refused charge adds nothing, which is written as zero to fit the shape of the lemma.
  have hop : ∀ owed, Triple (fun s => s.region.Books m.pid i drift owed)
      (m.addUsage m.pid dev bytes kind)
      (fun _ s => s.region.Books m.pid i drift (owed + due dev kind bytes))
      (fun s => s.region.Books m.pid i drift (owed + 0)) := by
    intro owed
    rw [add_zero]
    exact (m.triple_addUsage owed dev bytes kind).mono (fun _ _ h => h) (fun _ h => h.1)
  have hdesk := @triple_onRegion σ _ _ _ _ base _ _ _ hop
  rwa [add_zero] at hdesk

/-- What is due is taken back, if the operation is refused because there is nothing to take. -/
theorem triple_removeUsage :
    Triple (Desk.Settled m.pid i drift (base + due dev kind bytes))
      (onRegion (m.removeUsage m.pid dev bytes kind) : AllocM σ Unit)
      (fun _ => Desk.Settled m.pid i drift base) (Desk.Settled m.pid i drift base) := by
  -- On a device out of range nothing is due, so the refusal leaves the books where they belong.
  have hop : ∀ owed, Triple (fun s => s.region.Books m.pid i drift owed)
      (m.removeUsage m.pid dev bytes kind)
      (fun _ s => s.region.Books m.pid i drift (owed + -due dev kind bytes))
      (fun s => s.region.Books m.pid i drift (owed + -due dev kind bytes)) := by
    intro owed
    rw [← sub_eq_add_neg]
    exact m.triple_removeUsage owed dev bytes kind
  have hdesk := @triple_onRegion σ _ _ _ _ (base + due dev kind bytes) _ _ _ hop
  rwa [add_neg_cancel_right] at hdesk

/-- Reading the limit of a device changes nothing. -/
theorem triple_memoryLimit :
    Triple (Desk.Settled m.pid i drift base) (onRegion (Member.memoryLimit dev) : AllocM σ UInt64)
      (fun _ => Desk.Settled m.pid i drift base) (Desk.Settled m.pid i drift base) := by
  refine triple_read fun s => ?_
  show (refuse .device (s.region.memoryLimit dev) s).2 = s
  cases s.region.memoryLimit dev <;> rfl

/-- Summing the table changes nothing. -/
theorem triple_usageSum :
    Triple (Desk.Settled m.pid i drift base) (onRegion (Member.usageSum dev) : AllocM σ UsageSum)
      (fun _ => Desk.Settled m.pid i drift base) (Desk.Settled m.pid i drift base) := by
  refine triple_read fun s => ?_
  rw [Member.usageSum, Run.bind_apply]
  cases device? dev <;> rfl

/-- Where there is no sum nothing was due. -/
theorem triple_usageSum_of_due :
    Triple (Desk.Settled m.pid i drift (base + due dev kind bytes))
      (onRegion (Member.usageSum dev) : AllocM σ UsageSum)
      (fun _ => Desk.Settled m.pid i drift (base + due dev kind bytes))
      (Desk.Settled m.pid i drift base) := by
  intro desk hdesk
  rw [onRegion_apply, Member.usageSum, Run.bind_apply]
  -- A device out of range is owed nothing, so the refusal leaves the base.
  cases hd : device? dev with
  | error e =>
    rw [due_of_error hd, add_zero] at hdesk
    exact hdesk
  | ok d => exact hdesk

/-! ## Reservations -/

/-- A charge that exceeds the limit is taken back. -/
theorem triple_charge (limit : UInt64) :
    Triple (Desk.Settled m.pid i drift base) (charge m dev bytes kind limit : AllocM σ _)
      (fun others? => match others? with
        | none => Desk.Settled m.pid i drift (base + due dev kind bytes)
        | some _ => Desk.Settled m.pid i drift base)
      (Desk.Settled m.pid i drift base) := by
  unfold charge
  refine Triple.bind (triple_addUsage m base dev bytes kind) fun _ => ?_
  split
  next => exact Triple.pure fun _ h => h
  next =>
    refine Triple.bind (triple_usageSum_of_due m base dev bytes kind) fun sum => ?_
    dsimp only
    -- A charge that exceeds the limit is taken back at once.
    split
    next => exact Triple.pure fun _ h => h
    next =>
      refine Triple.bind (triple_removeUsage m base dev bytes kind) fun _ => ?_
      exact Triple.pure fun _ h => h

/-- A reservation is charged in full, or refused and not charged at all. -/
theorem triple_reserve :
    Triple (Desk.Settled m.pid i drift base) (reserve m dev bytes kind : AllocM σ Unit)
      (fun _ => Desk.Settled m.pid i drift (base + due dev kind bytes))
      (Desk.Settled m.pid i drift base) := by
  unfold reserve
  refine Triple.bind (triple_memoryLimit m base dev) fun limit => ?_
  refine Triple.bind (triple_charge m base dev bytes kind limit) fun others? => ?_
  -- The first attempt was refused: there is a second one only if dead slots were cleared.
  cases others? with
  | none => exact Triple.pure fun _ h => h
  | some others =>
    refine Triple.bind (triple_onSeat fun owed => m.books_clearDead owed) fun reaped => ?_
    split
    next => exact Triple.throw fun _ h => h
    next =>
      refine Triple.bind (triple_charge m base dev bytes kind limit) fun others? => ?_
      cases others? with
      | none => exact Triple.pure fun _ h => h
      | some others => exact Triple.throw fun _ h => h

/-- Taking a reservation back takes back what is due, slot or no slot. -/
theorem triple_unreserve {E : Desk σ → Prop} :
    Triple (Desk.Settled m.pid i drift (base + due dev kind bytes))
      (unreserve m dev bytes kind : AllocM σ Unit)
      (fun _ => Desk.Settled m.pid i drift base) E := by
  intro desk hdesk
  have hremove := triple_removeUsage m base dev bytes kind desk hdesk
  rw [onRegion_apply] at hremove
  show Desk.Settled m.pid i drift base
    { desk with seat := (m.removeUsage m.pid dev bytes kind desk.seat).2 }
  generalize m.removeUsage m.pid dev bytes kind desk.seat = run at hremove ⊢
  obtain ⟨e | _, seat⟩ := run
  · exact hremove
  · exact hremove

/-- Looking whether a request would fit keeps the desk settled. -/
theorem triple_admissible :
    Triple (Desk.Settled m.pid i drift base) (admissible m dev bytes : AllocM σ Unit)
      (fun _ => Desk.Settled m.pid i drift base) (Desk.Settled m.pid i drift base) := by
  unfold admissible
  refine Triple.bind (triple_memoryLimit m base dev) fun limit => ?_
  split
  next => exact Triple.pure fun _ h => h
  next =>
    refine Triple.bind (triple_usageSum m base dev) fun sum => ?_
    dsimp only
    -- Nothing is charged on either way; dead slots are cleared on one of them.
    split
    next =>
      refine Triple.bind (triple_onSeat fun owed => m.books_clearDead owed) fun reaped => ?_
      split
      next => exact Triple.throw fun _ h => h
      next =>
        refine Triple.bind (triple_usageSum m base dev) fun sum => ?_
        split
        next => exact Triple.throw fun _ h => h
        next => exact Triple.pure fun _ h => h
    next => exact Triple.pure fun _ h => h

end Charges

/-! ## The operations of an allocator -/

section Operations

variable [DeviceDriver σ] (m : Member) {i : Fin maxProcesses} {drift : DeviceIndex → UInt64}
  (base : Amounts)

/-- Allocating keeps the desk settled, whatever the driver answers. -/
theorem triple_allocateAs (size : UInt64) (kind : UsageKind) :
    Triple (Desk.Settled m.pid i drift base) (allocateAs m size kind : AllocM σ Address)
      (fun _ => Desk.Settled m.pid i drift base) (Desk.Settled m.pid i drift base) := by
  unfold allocateAs
  refine Triple.bind (triple_onDriver _) fun device => ?_
  refine Triple.bind (triple_reserve m base device size kind) fun _ => ?_
  refine Triple.bind (triple_attempt _) fun answer => ?_
  split
  next e =>
    -- The driver failed, so the reservation is taken back.
    refine Triple.bind (triple_unreserve m base device size kind) fun _ => ?_
    exact Triple.throw fun _ h => h
  next address handle =>
    refine Triple.bind (triple_trackPlain ⟨address, size, device, kind, handle⟩) fun _ => ?_
    exact Triple.pure fun _ h => h

/-- Freeing keeps the desk settled: an entry that the driver refuses to free comes back. -/
theorem triple_free (address : Address) :
    Triple (Desk.Settled m.pid i drift base) (free m address : AllocM σ FreeOutcome)
      (fun _ => Desk.Settled m.pid i drift base) (Desk.Settled m.pid i drift base) := by
  refine Triple.get_bind fun desk hdesk => ?_
  split
  next =>
    refine Triple.bind ((triple_onDriver _).pre ?_) fun _ => Triple.pure fun _ h => h
    rintro _ rfl
    exact hdesk
  next a rest hremove =>
    -- While the driver is asked, what the entry stands for is in the base.
    have hcharged : ({ desk.holdings with plain := rest } : Holdings).charged +
        due a.device a.kind a.length = desk.holdings.charged := by
      rw [Holdings.charged, Holdings.charged, Tracked.charged_remove? hremove]
      exact add_right_comm _ _ _
    refine Triple.bind (triple_takeOut hdesk hcharged) fun _ => ?_
    refine Triple.bind (triple_attempt _) fun answer => ?_
    split
    next e =>
      refine Triple.bind (triple_trackPlain a) fun _ => ?_
      exact Triple.throw fun _ h => h
    next =>
      refine Triple.bind (triple_removeUsage m base a.device a.length a.kind) fun _ => ?_
      exact Triple.pure fun _ h => h

/-- The end of an allocation from the pool: the watermark has risen by what is charged, which is
then reserved and tracked. A refusal of the charge gives the memory back. -/
def payForPool (m : Member) (device : Nat) (address : Address) (stream : Stream) (charged : UInt64)
    (pooled : Tracked) : AllocM σ Address := do
  modifyHoldings fun h => { h with pooled }
  if charged > 0 then
    tryCatch (reserve m device charged .data) fun e => do
      modifyHoldings fun h => { h with pooled := h.pooled.releasePool charged }
      let _ ← attempt (DeviceDriver.freeAsync address stream)
      throw e
  trackPooled { address, length := charged, device, kind := .data, handle := none }
  return address

/-- What a pool allocation is charged with is what is tracked of it, be it all, part or none of the
request. -/
private theorem triple_payForPool {desk : Desk σ} (hdesk : desk.Settled m.pid i drift base)
    (device : Nat) (address : Address) (stream : Stream) (charged : UInt64) {pooled : Tracked}
    (hentries : pooled.entries = desk.holdings.pooled.entries) :
    Triple (· = desk) (payForPool m device address stream charged pooled)
      (fun _ => Desk.Settled m.pid i drift base) (Desk.Settled m.pid i drift base) := by
  have htrack : Triple (Desk.Settled m.pid i drift (base + due device .data charged))
      (do
        trackPooled { address, length := charged, device, kind := .data, handle := none }
        return address : AllocM σ Address)
      (fun _ => Desk.Settled m.pid i drift base) (Desk.Settled m.pid i drift base) :=
    Triple.bind (triple_trackPooled ⟨address, charged, device, .data, none⟩) fun _ =>
      Triple.pure fun _ h => h
  have hwatermark : Triple (· = desk)
      (modifyHoldings fun h => { h with pooled } : AllocM σ Unit)
      (fun _ => Desk.Settled m.pid i drift base) (Desk.Settled m.pid i drift base) := by
    refine Triple.modify ?_
    rintro _ rfl
    show Region.Books m.pid i drift (base + Holdings.charged ⟨_, pooled⟩) _
    rw [Holdings.charged, Tracked.charged_congr hentries]
    exact hdesk
  refine Triple.bind hwatermark fun _ => ?_
  dsimp only
  split
  next =>
    -- The watermark stays ahead of the charge until the charge is refused.
    refine Triple.bind (Triple.tryCatch (triple_reserve m base device charged .data) fun e => ?_)
      fun _ => htrack
    refine Triple.bind (triple_releasePool charged) fun _ => ?_
    exact Triple.bind (triple_attempt _) fun _ => Triple.throw fun _ h => h
  next hzero =>
    -- Nothing was charged, and the entry stands for nothing.
    refine htrack.pre fun desk hdesk => ?_
    obtain rfl : charged = 0 := by simpa using hzero
    rwa [due_zero, add_zero]

/-- Allocating from the pool keeps the desk settled. -/
theorem triple_allocateAsync (size : UInt64) (stream : Stream) :
    Triple (Desk.Settled m.pid i drift base) (allocateAsync m size stream : AllocM σ Address)
      (fun _ => Desk.Settled m.pid i drift base) (Desk.Settled m.pid i drift base) := by
  unfold allocateAsync
  refine Triple.bind (triple_onDriver _) fun device => ?_
  refine Triple.bind (triple_admissible m base device size) fun _ => ?_
  refine Triple.bind (triple_onDriver _) fun address => ?_
  refine Triple.bind (triple_attempt _) fun answer => ?_
  -- From here on the charge depends on how far the pool has grown.
  refine Triple.get_bind fun desk hdesk => ?_
  exact triple_payForPool m base hdesk device address stream _ rfl

/-- Giving memory back to the pool keeps the desk settled. -/
theorem triple_freeAsync (address : Address) (stream : Stream) :
    Triple (Desk.Settled m.pid i drift base)
      (freeAsync m address stream : AllocM σ FreeOutcome)
      (fun _ => Desk.Settled m.pid i drift base) (Desk.Settled m.pid i drift base) := by
  refine Triple.get_bind fun desk hdesk => ?_
  split
  next =>
    refine Triple.bind ((triple_onDriver _).pre ?_) fun _ => Triple.pure fun _ h => h
    rintro _ rfl
    exact hdesk
  next a rest hremove =>
    have hcharged : ({ desk.holdings with pooled := rest } : Holdings).charged +
        due a.device a.kind a.length = desk.holdings.charged := by
      rw [Holdings.charged, Holdings.charged, Tracked.charged_remove? hremove]
      exact add_assoc _ _ _
    refine Triple.bind (triple_takeOut hdesk hcharged) fun _ => ?_
    refine Triple.bind (triple_attempt _) fun answer => ?_
    split
    next e =>
      refine Triple.bind (triple_trackPooled a) fun _ => ?_
      exact Triple.throw fun _ h => h
    next =>
      refine Triple.bind (triple_releasePool a.length) fun _ => ?_
      dsimp only
      split
      next =>
        refine Triple.bind (triple_removeUsage m base a.device a.length a.kind) fun _ => ?_
        exact Triple.pure fun _ h => h
      next hzero =>
        -- An entry of length zero was never charged.
        refine Triple.pure fun desk hdesk => ?_
        have hlength : a.length = 0 := by simpa using hzero
        rwa [hlength, due_zero, add_zero] at hdesk

/-- Taking in memory from elsewhere keeps the desk settled. -/
theorem triple_registerExternal (address : Address) (size : UInt64) :
    Triple (Desk.Settled m.pid i drift base) (registerExternal m address size : AllocM σ Unit)
      (fun _ => Desk.Settled m.pid i drift base) (Desk.Settled m.pid i drift base) := by
  refine Triple.bind (triple_onDriver _) fun device => ?_
  refine Triple.bind (triple_reserve m base device size .data) fun _ => ?_
  exact triple_trackPlain ⟨address, size, device, .data, none⟩

end Operations

end Allocator

end GpuQuota
