import GpuQuota.Proofs.Allocation.Seat

/-!
# Tracked entries are on devices of the region

An allocator tracks nothing before the region has told the limit of its device, and a region tells
the limits of its own devices only. So whatever an allocator comes to track is on a device of the
region, whether or not its process is registered meanwhile.

The module introduces:

* `Holdings.InRange` — all tracked entries are on devices of the region.
* `Desk.Reachable` — the desks that calls of an allocator lead to.
* `Desk.Reachable.inRange` — on all of them the entries are in range.
-/

namespace GpuQuota

variable {σ α : Type}

namespace Holdings

/-- All tracked entries are on devices of the region. -/
structure InRange (h : Holdings) : Prop where
  plain : ∀ a ∈ h.plain.entries, a.device < maxDevices
  pooled : ∀ a ∈ h.pooled.entries, a.device < maxDevices

namespace InRange

variable {h : Holdings} {a : Allocation} {rest : Tracked} {address : Address}

theorem pushPlain (hh : h.InRange) (ha : a.device < maxDevices) :
    ({ h with plain := h.plain.push a } : Holdings).InRange where
  plain b hb := by
    rcases List.mem_append.1 hb with hb | hb
    · exact hh.plain b hb
    · rwa [List.mem_singleton.1 hb]
  pooled := hh.pooled

theorem pushPooled (hh : h.InRange) (ha : a.device < maxDevices) :
    ({ h with pooled := h.pooled.push a } : Holdings).InRange where
  plain := hh.plain
  pooled b hb := by
    rcases List.mem_append.1 hb with hb | hb
    · exact hh.pooled b hb
    · rwa [List.mem_singleton.1 hb]

/-- What is taken out is in range, and so is what is left. -/
theorem removePlain (hh : h.InRange) (hremove : h.plain.remove? address = some (a, rest)) :
    a.device < maxDevices ∧ ({ h with plain := rest } : Holdings).InRange := by
  have hmem : ∀ b, b ∈ a :: rest.entries → b.device < maxDevices :=
    fun b hb => hh.plain b ((Tracked.perm_remove? hremove).1.mem_iff.2 hb)
  exact ⟨hmem a List.mem_cons_self, fun b hb => hmem b (List.mem_cons_of_mem a hb), hh.pooled⟩

theorem removePooled (hh : h.InRange) (hremove : h.pooled.remove? address = some (a, rest)) :
    a.device < maxDevices ∧ ({ h with pooled := rest } : Holdings).InRange := by
  have hmem : ∀ b, b ∈ a :: rest.entries → b.device < maxDevices :=
    fun b hb => hh.pooled b ((Tracked.perm_remove? hremove).1.mem_iff.2 hb)
  exact ⟨hmem a List.mem_cons_self, hh.plain, fun b hb => hmem b (List.mem_cons_of_mem a hb)⟩

end InRange

end Holdings

namespace Allocator

/-! ## What tells the device -/

/-- Whatever first asks for the limit of a device succeeds on devices of the region only. -/
private theorem lt_of_memoryLimit {dev : Nat} {f : UInt64 → AllocM σ α} {desk : Desk σ} {a : α}
    (h : ((onRegion (Member.memoryLimit dev) >>= f : AllocM σ α) desk).1 = .ok a) :
    dev < maxDevices := by
  by_contra hdev
  -- Reading the limit of a device out of range is what refuses the call.
  have hread : Member.memoryLimit dev desk.seat = (.error (.device ⟨dev⟩), desk.seat) := by
    show refuse .device (desk.seat.region.memoryLimit dev) desk.seat = _
    rw [Region.memoryLimit, device?, dif_neg hdev]
    rfl
  rw [Run.bind_apply, onRegion_apply, hread] at h
  cases h

/-- What is reserved is on a device of the region. -/
theorem lt_of_reserve {m : Member} {dev : Nat} {bytes : UInt64} {kind : UsageKind} {desk : Desk σ}
    (h : (reserve m dev bytes kind desk).1 = .ok ()) : dev < maxDevices :=
  lt_of_memoryLimit h

/-- What would fit is on a device of the region. -/
theorem lt_of_admissible {m : Member} {dev : Nat} {size : UInt64} {desk : Desk σ}
    (h : (admissible m dev size desk).1 = .ok ()) : dev < maxDevices :=
  lt_of_memoryLimit h

/-- Charging and clearing leave alone what is tracked. -/
theorem bearable_inRange (m : Member) : Bearable m fun _ h => h.InRange where
  addUsage _ _ _ _ _ hh := hh
  removeUsage _ _ _ _ _ hh := hh
  clearDead _ _ hh := hh

/-! ## The operations of an allocator -/

section

variable (m : Member) (size : UInt64)

theorem keeps_inRange_trackPlain {a : Allocation} (ha : a.device < maxDevices) :
    Keeps (fun desk : Desk σ => desk.holdings.InRange) (trackPlain a) :=
  keeps_modify fun _ h => h.pushPlain ha

theorem keeps_inRange_trackPooled {a : Allocation} (ha : a.device < maxDevices) :
    Keeps (fun desk : Desk σ => desk.holdings.InRange) (trackPooled a) :=
  keeps_modify fun _ h => h.pushPooled ha

/-- What is not tracked is left to the driver. -/
private theorem keeps_inRange_untracked (call : Call σ Unit) :
    Keeps (fun desk : Desk σ => desk.holdings.InRange)
      (do onDriver call; return .untracked : AllocM σ FreeOutcome) :=
  Keeps.bind_except (keeps_onDriver call fun _ _ h => h) fun _ => keeps_pure _

variable [DeviceDriver σ]

theorem keeps_inRange_allocateAs (kind : UsageKind) :
    Keeps (fun desk : Desk σ => desk.holdings.InRange) (allocateAs m size kind) := by
  refine Keeps.bind_except (keeps_onDriver _ fun _ _ h => h) fun device => ?_
  -- That the reservation went through says that the device is one of the region.
  refine Keeps.bind_except_ok ((bearable_inRange m).reserve device size kind) fun _ hok => ?_
  obtain ⟨_, hreserve⟩ := hok
  refine Keeps.bind_except (keeps_attempt _ fun _ _ h => h) fun answer => ?_
  cases answer with
  | error e =>
    exact Keeps.bind_except ((bearable_inRange m).unreserve device size kind) fun _ => keeps_throw _
  | ok place =>
    refine Keeps.bind_except (keeps_inRange_trackPlain (lt_of_reserve hreserve)) fun _ => ?_
    exact keeps_pure _

theorem keeps_inRange_free (address : Address) :
    Keeps (fun desk : Desk σ => desk.holdings.InRange) (free m address) := by
  refine Triple.keeps (Triple.get_bind fun desk hdesk => ?_)
  split
  next => exact (Triple.of_keeps (keeps_inRange_untracked _)).pre fun _ h => h ▸ hdesk
  next a rest hremove =>
    -- The entry that is taken out is in range, should it have to come back.
    obtain ⟨ha, hrest⟩ := hdesk.removePlain hremove
    refine Triple.bind (Q := fun _ desk => desk.holdings.InRange)
      (Triple.modify fun _ h => h ▸ hrest) fun _ => Triple.of_keeps ?_
    refine Keeps.bind_except (keeps_attempt _ fun _ _ h => h) fun answer => ?_
    cases answer with
    | error e => exact Keeps.bind_except (keeps_inRange_trackPlain ha) fun _ => keeps_throw _
    | ok _ =>
      have hback := (bearable_inRange m).takeBack (σ := σ) a.device a.length a.kind
      exact Keeps.bind_except hback fun _ => keeps_pure _

theorem keeps_inRange_freeAsync (address : Address) (stream : Stream) :
    Keeps (fun desk : Desk σ => desk.holdings.InRange) (freeAsync m address stream) := by
  refine Triple.keeps (Triple.get_bind fun desk hdesk => ?_)
  split
  next => exact (Triple.of_keeps (keeps_inRange_untracked _)).pre fun _ h => h ▸ hdesk
  next a rest hremove =>
    obtain ⟨ha, hrest⟩ := hdesk.removePooled hremove
    refine Triple.bind (Q := fun _ desk => desk.holdings.InRange)
      (Triple.modify fun _ h => h ▸ hrest) fun _ => Triple.of_keeps ?_
    refine Keeps.bind_except (keeps_attempt _ fun _ _ h => h) fun answer => ?_
    cases answer with
    | error e => exact Keeps.bind_except (keeps_inRange_trackPooled ha) fun _ => keeps_throw _
    | ok _ =>
      -- The watermark moves, and the entries stay.
      refine Keeps.bind_except (keeps_modify fun _ h => ⟨h.plain, h.pooled⟩) fun _ => ?_
      dsimp only
      split
      next =>
        have hback := (bearable_inRange m).takeBack (σ := σ) a.device a.length a.kind
        exact Keeps.bind_except hback fun _ => keeps_pure _
      next => exact keeps_pure _

private theorem inRange_payForPool {device : Nat} (hdevice : device < maxDevices)
    (address : Address) (stream : Stream) (charged : UInt64) {pooled : Tracked}
    {desk : Desk σ} (hdesk : desk.holdings.InRange)
    (hentries : pooled.entries = desk.holdings.pooled.entries) :
    Triple (· = desk) (payForPool m device address stream charged pooled)
      (fun _ desk => desk.holdings.InRange) (·.holdings.InRange) := by
  have htrack : Keeps (fun desk : Desk σ => desk.holdings.InRange)
      (do
        trackPooled { address, length := charged, device, kind := .data, handle := none }
        return address : AllocM σ Address) :=
    Keeps.bind_except (keeps_inRange_trackPooled hdevice) fun _ => keeps_pure _
  -- Raising the watermark changes no entry, so that only the payment is left to follow.
  have hraised : ({ desk.holdings with pooled } : Holdings).InRange :=
    ⟨hdesk.plain, by rw [hentries]; exact hdesk.pooled⟩
  refine Triple.bind (Q := fun _ desk => desk.holdings.InRange)
    (Triple.modify fun _ h => h ▸ hraised) fun _ => Triple.of_keeps ?_
  dsimp only
  split
  next =>
    have hreserve := (bearable_inRange m).reserve (σ := σ) device charged .data
    refine Keeps.bind_except (Keeps.tryCatch hreserve fun e => ?_) fun _ => htrack
    refine Keeps.bind_except (keeps_modify fun _ h => ⟨h.plain, h.pooled⟩) fun _ => ?_
    exact Keeps.bind_except (keeps_attempt _ fun _ _ h => h) fun _ => keeps_throw _
  next => exact htrack

theorem keeps_inRange_allocateAsync (stream : Stream) :
    Keeps (fun desk : Desk σ => desk.holdings.InRange) (allocateAsync m size stream) := by
  unfold allocateAsync
  refine Keeps.bind_except (keeps_onDriver _ fun _ _ h => h) fun device => ?_
  have hadmit := keeps_admissible (σ := σ) (bearable_inRange m).clearDead device size
  -- The device is checked by the question whether the request fits.
  refine Keeps.bind_except_ok hadmit fun _ hok => ?_
  obtain ⟨_, hadmissible⟩ := hok
  refine Keeps.bind_except (keeps_onDriver _ fun _ _ h => h) fun address => ?_
  refine Keeps.bind_except (keeps_attempt _ fun _ _ h => h) fun answer => ?_
  refine Triple.keeps (Triple.get_bind fun desk hdesk => ?_)
  exact inRange_payForPool m (lt_of_admissible hadmissible) address stream _ hdesk rfl

theorem keeps_inRange_registerExternal (address : Address) :
    Keeps (fun desk : Desk σ => desk.holdings.InRange) (registerExternal m address size) := by
  refine Keeps.bind_except (keeps_onDriver _ fun _ _ h => h) fun device => ?_
  refine Keeps.bind_except_ok ((bearable_inRange m).reserve device size .data) fun _ hok => ?_
  obtain ⟨_, hreserve⟩ := hok
  exact keeps_inRange_trackPlain (lt_of_reserve hreserve)

end

end Allocator

/-- Whatever an allocator is asked for, its entries stay in range. -/
theorem AllocCall.run_inRange [DeviceDriver σ] (m : Member) (call : AllocCall) (desk : Desk σ)
    (hdesk : desk.holdings.InRange) : (call.run m desk).holdings.InRange := by
  cases call with
  | allocate size => exact Allocator.keeps_inRange_allocateAs m size .data desk hdesk
  | allocateAs size kind => exact Allocator.keeps_inRange_allocateAs m size kind desk hdesk
  | allocateAsync size stream =>
    exact Allocator.keeps_inRange_allocateAsync m size stream desk hdesk
  | free address => exact Allocator.keeps_inRange_free m address desk hdesk
  | freeAsync address stream => exact Allocator.keeps_inRange_freeAsync m address stream desk hdesk
  | registerExternal address size =>
    exact Allocator.keeps_inRange_registerExternal m size address desk hdesk

/-! ## Reachable desks -/

/-- What calls of an allocator lead to from nothing tracked, while others change the region and the
driver as they like. -/
inductive Desk.Reachable [DeviceDriver σ] : Desk σ → Prop
  /-- Nothing is tracked yet. -/
  | fresh (seat : Seat) (driver : σ) : Reachable ⟨seat, {}, driver⟩
  /-- The allocator carries an operation out. -/
  | call {desk : Desk σ} (h : Reachable desk) (m : Member) (call : AllocCall) :
    Reachable (call.run m desk)
  /-- The seat and the driver change between operations. -/
  | others {desk : Desk σ} (h : Reachable desk) (seat : Seat) (driver : σ) :
    Reachable ⟨seat, desk.holdings, driver⟩

/-- Whatever an allocator comes to track is on a device of the region. -/
theorem Desk.Reachable.inRange [DeviceDriver σ] {desk : Desk σ} (h : desk.Reachable) :
    desk.holdings.InRange := by
  induction h with
  | fresh seat driver => exact ⟨nofun, nofun⟩
  | call _ m call ih => exact call.run_inRange m _ ih
  | others _ seat driver ih => exact ih

end GpuQuota
