import GpuQuota.Proofs.Allocation.InRange

/-!
# Refused operations are undone

An operation of an allocator can be refused at many points: the device is none of the region, the
request does not fit, the driver fails, or the pool has grown and the growth does not fit. Whatever
was charged, tracked or taken out up to there is undone. All that a refused operation leaves behind
is that slots of dead processes may have been cleared.

The module introduces:

* `Slot.unnumbered` — a slot apart from its sequence number.
* `Seat.Stands` — how a seat stands since a start: what became of the own slot and of the others.
* `Allocator.stands_reserve` — a reservation charges in full or leaves the seat as it stood.
* `Desk.Undone` — what a refused operation leaves as it was.
* `AllocCall.succeeds`, `AllocCall.undone_of_refused` — every refused operation is undone.
-/

namespace GpuQuota

/-! ## Slots apart from their sequence numbers -/

namespace Slot

/-- The slot apart from its sequence number, which every write moves on. -/
def unnumbered (s : Slot) : Slot := { s with seq := 0 }

/-- Writes alike to slots alike leave them alike. -/
theorem unnumbered_writeUsage_congr {s t : Slot} (h : s.unnumbered = t.unnumbered)
    (d : DeviceIndex) (f : Usage → Usage) :
    (s.writeUsage d f).unnumbered = (t.writeUsage d f).unnumbered :=
  congrArg (·.modifyDevice d fun r => { r with usage := f r.usage }) h

/-- Taking a charge back leaves the slot as it was. -/
theorem unnumbered_removeUsage_addUsage (s : Slot) (d : DeviceIndex) (kind : UsageKind)
    (bytes : UInt64) :
    ((s.addUsage d kind bytes).removeUsage d kind bytes).unnumbered = s.unnumbered := by
  simp only [unnumbered, addUsage, removeUsage, writeUsage, modifyDevice, Fin.getElem_fin,
    Vector.set_set, Vector.getElem_set_self, Usage.release_charge]
  rw [Vector.set_getElem_self]

/-- The counters do not depend on the sequence number. -/
theorem usage_of_unnumbered {s t : Slot} (h : s.unnumbered = t.unnumbered) (d : DeviceIndex) :
    (s.device d).usage = (t.device d).usage :=
  congrArg (fun u => (u.device d).usage) h

/-- The slot charged on a device; on none of the region it stays as it is. -/
def chargeOn (dev : Nat) (kind : UsageKind) (bytes : UInt64) (s : Slot) : Slot :=
  match device? dev with
  | .ok d => s.addUsage d kind bytes
  | .error _ => s

end Slot

/-! ## Seats since a start -/

/-- A slot is cleared by reaping if it belonged to a dead process, and left alone otherwise. -/
theorem Region.slotAt_reap_or (r : Region) (me : Pid) (alive : Pid → Bool) (j : Fin maxProcesses) :
    (r.reap me alive).2.slotAt j = r.slotAt j ∨
      isDeadSlot me alive (r.slotAt j) = true ∧ (r.reap me alive).2.slotAt j = .empty := by
  have hslot := r.slotAt_sweep me alive j
  rw [reap_eq]
  show (r.sweep me alive).slotAt j = _ ∨ _ ∧ (r.sweep me alive).slotAt j = _
  rw [hslot]
  split
  next hj => exact .inr ⟨(mem_deadSlots.1 hj).2, rfl⟩
  next => exact .inl rfl

namespace Seat

/-- Since the region was at a start, the own slot has changed as a function says, and no other slot
has changed but those of dead processes that were cleared. -/
structure Stands (m : Member) (i : Fin maxProcesses) (start : Region) (f : Slot → Slot) (s : Seat) :
    Prop where
  own : s.region.ownSlot? m.pid s.remembered = some i.val
  mine : (s.region.slotAt i).unnumbered = (f (start.slotAt i)).unnumbered
  spared : ∀ j, j ≠ i → s.region.slotAt j = start.slotAt j ∨
    Region.isDeadSlot m.pid m.alive (start.slotAt j) = true ∧ s.region.slotAt j = .empty

namespace Stands

variable {m : Member} {i : Fin maxProcesses} {start : Region} {f : Slot → Slot} {s : Seat}

/-- The slot belongs to the member. -/
theorem pid_eq (h : s.Stands m i start f) : (s.region.slotAt i).pid = m.pid := by
  obtain ⟨j, hji, hj⟩ := Region.ownSlot?_eq_some h.own
  rw [← Fin.ext hji, hj]

/-- The member finds the slot again and changes it. -/
theorem modifyOwn (h : s.Stands m i start f) {f' g : Slot → Slot}
    (hg : ∀ t : Slot, (g t).pid = t.pid)
    (hf : ∀ t : Slot, t.unnumbered = (f (start.slotAt i)).unnumbered →
      (g t).unnumbered = (f' (start.slotAt i)).unnumbered) :
    ({ s with region := s.region.modifySlot i g, remembered := some i.val } : Seat).Stands
      m i start f' where
  own := Region.ownSlot?_some (by rw [Region.pid_modifySlot _ _ _ hg, h.pid_eq])
  mine := by
    rw [Region.slotAt_modifySlot, if_pos rfl]
    exact hf _ h.mine
  spared j hj := by
    rw [Region.slotAt_modifySlot, if_neg hj]
    exact h.spared j hj

end Stands

variable {m : Member} {i : Fin maxProcesses} {start : Region}

/-- Clearing the slots of dead processes spares the own slot and those of the living. -/
theorem stands_clearDead (hm : m.pid ≠ 0) (f : Slot → Slot) :
    Keeps (Stands m i start f) m.clearDead := by
  intro s hs
  rw [m.clearDead_apply]
  have hreap := s.region.slotAt_reap_or m.pid m.alive
  -- The own slot is not dead, and so it is not cleared.
  have hmine : (s.region.reap m.pid m.alive).2.slotAt i = s.region.slotAt i := by
    rcases hreap i with hi | ⟨hdead, -⟩
    · exact hi
    · exact absurd hs.pid_eq ((Region.isDeadSlot_iff m.pid m.alive).1 hdead).2.1
  refine ⟨?_, ?_, fun j hj => ?_⟩
  · refine Region.ownSlot?_of_kept hs.own (congrArg (·.pid) hmine) (fun j hj => ?_) fun hlt => ?_
    · change ((s.region.reap m.pid m.alive).2.slotAt j).pid = m.pid at hj
      rcases hreap j with hkept | ⟨-, hempty⟩
      · rwa [hkept] at hj
      · rw [hempty] at hj
        exact absurd hj.symm hm
    · show i.val < (s.region.reap m.pid m.alive).2.mark
      rw [Region.reap_eq] at hmine ⊢
      refine Region.lt_mark_trim ?_ (by rwa [Region.mark_sweep])
      rw [show (s.region.sweep m.pid m.alive).slotAt i = s.region.slotAt i from hmine, hs.pid_eq]
      exact hm
  · show ((s.region.reap m.pid m.alive).2.slotAt i).unnumbered = _
    rw [hmine]
    exact hs.mine
  · show (s.region.reap m.pid m.alive).2.slotAt j = _ ∨
      _ ∧ (s.region.reap m.pid m.alive).2.slotAt j = _
    rcases hreap j with hkept | ⟨hdead, hempty⟩
    · rw [hkept]
      exact hs.spared j hj
    · -- A slot cleared now was dead at the start too, or it had been cleared before.
      rcases hs.spared j hj with hstart | ⟨hdead', -⟩
      · exact .inr ⟨hstart ▸ hdead, hempty⟩
      · exact .inr ⟨hdead', hempty⟩

/-! ### Charges of the own slot -/

section Charges

variable (hm : m.pid ≠ 0) (dev : Nat) (bytes : UInt64) (kind : UsageKind)

/-- The member finds its slot. -/
private theorem Stands.slotOf?_eq {f : Slot → Slot} {s : Seat} (hm : m.pid ≠ 0)
    (h : s.Stands m i start f) :
    m.slotOf? m.pid s = (some i.val, { s with remembered := some i.val }) := by
  rw [m.slotOf?_apply, if_neg hm, if_pos rfl, m.mySlot?_apply, h.own]

include hm

/-- A charge is refused only where there is nothing to charge. -/
theorem stands_addUsage :
    Triple (Stands m i start id) (m.addUsage m.pid dev bytes kind)
      (fun _ => Stands m i start (Slot.chargeOn dev kind bytes)) (Stands m i start id) := by
  intro s hs
  rw [m.addUsage_apply]
  -- A device out of range is refused before the slot is touched.
  cases hd : device? dev with
  | error e => exact hs
  | ok d =>
    dsimp only
    rw [hs.slotOf?_eq hm]
    refine hs.modifyOwn (fun _ => rfl) fun t ht => ?_
    rw [Slot.chargeOn, hd]
    exact Slot.unnumbered_writeUsage_congr ht d _

/-- Taking a charge back leaves the own slot as it stood before, refused or not. -/
theorem stands_removeUsage :
    Triple (Stands m i start (Slot.chargeOn dev kind bytes)) (m.removeUsage m.pid dev bytes kind)
      (fun _ => Stands m i start id) (Stands m i start id) := by
  intro s hs
  rw [m.removeUsage_apply]
  -- A device out of range was never charged.
  cases hd : device? dev with
  | error e =>
    have hnone : Slot.chargeOn dev kind bytes (start.slotAt i) = start.slotAt i := by
      rw [Slot.chargeOn, hd]
    exact ⟨hs.own, hnone ▸ hs.mine, hs.spared⟩
  | ok d =>
    dsimp only
    rw [hs.slotOf?_eq hm]
    refine hs.modifyOwn (fun _ => rfl) fun t ht => ?_
    rw [Slot.chargeOn, hd] at ht
    exact (Slot.unnumbered_writeUsage_congr ht d _).trans
      (Slot.unnumbered_removeUsage_addUsage _ d kind bytes)

/-- On a device of the region a member that finds its slot is not refused. -/
theorem removeUsage_of_stands (hdev : dev < maxDevices) :
    Triple (Stands m i start id) (m.removeUsage m.pid dev bytes kind) (fun _ _ => True)
      (fun _ => False) := by
  intro s hs
  rw [m.removeUsage_apply, device?, dif_pos hdev]
  dsimp only
  rw [hs.slotOf?_eq hm]
  trivial

omit hm in
/-- Where there is no sum there was nothing to charge. -/
theorem stands_usageSum :
    Triple (Stands m i start (Slot.chargeOn dev kind bytes)) (Member.usageSum dev)
      (fun _ => Stands m i start (Slot.chargeOn dev kind bytes)) (Stands m i start id) := by
  intro s hs
  rw [Member.usageSum, Run.bind_apply]
  cases hd : device? dev with
  | error e =>
    -- Nothing was charged for a device out of range, so there is nothing to take back.
    have hnone : Slot.chargeOn dev kind bytes (start.slotAt i) = start.slotAt i := by
      rw [Slot.chargeOn, hd]
    exact ⟨hs.own, hnone ▸ hs.mine, hs.spared⟩
  | ok d => exact hs

end Charges

end Seat

/-! ## Desks -/

/-- The seat has a property, and just this is tracked. -/
def Desk.Has {σ : Type} (A : Seat → Prop) (h : Holdings) (desk : Desk σ) : Prop :=
  A desk.seat ∧ desk.holdings = h

/-- Releasing what was charged for the growth of the pool puts the watermark back, which cannot have
been cut off at the largest word: a charge never reaches beyond what the pool has reserved. -/
theorem Tracked.releasePool_chargePool (t : Tracked) (reserved requested : UInt64) :
    (t.chargePool reserved requested).2.releasePool (t.chargePool reserved requested).1 = t := by
  -- What is charged is at most what the pool reserves beyond the watermark, so that adding it does
  -- not saturate.
  have hfit : t.watermark.toNat + (t.chargePool reserved requested).1.toNat ≤ wordMax := by
    have hword := reserved.toNat_lt
    unfold chargePool
    dsimp only
    split
    next hlt =>
      rw [UInt64.lt_iff_toNat_lt] at hlt
      have hgrown : (reserved - t.watermark).toNat = reserved.toNat - t.watermark.toNat :=
        UInt64.toNat_sub_of_le _ _ (UInt64.le_iff_toNat_le.2 hlt.le)
      rw [toNat_min, hgrown]
      simp only [wordMax]
      omega
    next =>
      have := t.watermark.toNat_lt
      simp only [wordMax, UInt64.toNat_zero]
      omega
  have hback : satSub (satAdd t.watermark (t.chargePool reserved requested).1)
      (t.chargePool reserved requested).1 = t.watermark := by
    rw [← UInt64.toNat_inj, toNat_satSub, toNat_satAdd, Nat.min_eq_left hfit, Nat.add_sub_cancel]
  exact congrArg (fun w => ({ t with watermark := w } : Tracked)) hback

namespace Allocator

variable {σ α : Type} {A B C : Seat → Prop} {h : Holdings}

/-- An operation on the region does not concern what is tracked. -/
theorem has_onRegion {op : RegionM α} (hop : Triple A op (fun _ => B) C) :
    Triple (Desk.Has A h) (onRegion op : AllocM σ α) (fun _ => Desk.Has B h) (Desk.Has C h) := by
  intro desk hdesk
  have hrun := hop desk.seat hdesk.1
  rw [onRegion_apply]
  generalize op desk.seat = run at hrun ⊢
  obtain ⟨e | a, seat⟩ := run
  · exact ⟨hrun, hdesk.2⟩
  · exact ⟨hrun, hdesk.2⟩

/-- Nor does an operation on the seat. -/
theorem has_onSeat {op : SeatM α} (hop : Keeps A op) {E : Desk σ → Prop} :
    Triple (Desk.Has A h) (onSeat op : AllocM σ α) (fun _ => Desk.Has A h) E :=
  fun desk hdesk => ⟨hop desk.seat hdesk.1, hdesk.2⟩

/-- The driver concerns neither the seat nor what is tracked. -/
theorem has_attempt (call : Call σ α) {E : Desk σ → Prop} :
    Triple (Desk.Has A h) (attempt call) (fun _ => Desk.Has A h) E := fun _ hdesk => hdesk

/-- Nor does it where it refuses. -/
theorem has_onDriver (call : Call σ α) :
    Triple (Desk.Has A h) (onDriver call) (fun _ => Desk.Has A h) (Desk.Has A h) :=
  Triple.of_keeps (keeps_onDriver call fun _ _ hdesk => hdesk)

/-- A change of what is tracked does not concern the seat. -/
theorem has_modifyHoldings (f : Holdings → Holdings) {E : Desk σ → Prop} :
    Triple (Desk.Has A h) (modifyHoldings f : AllocM σ Unit) (fun _ => Desk.Has A (f h)) E :=
  Triple.modify fun _ hdesk => ⟨hdesk.1, congrArg f hdesk.2⟩

/-! ### Reservations -/

section Reserve

variable {m : Member} {i : Fin maxProcesses} {start : Region} (hm : m.pid ≠ 0) (dev : Nat)
  (bytes : UInt64) (kind : UsageKind)

include hm

/-- A charge that exceeds the limit is taken back. -/
theorem stands_charge (limit : UInt64) :
    Triple (Desk.Has (Seat.Stands m i start id) h) (charge m dev bytes kind limit : AllocM σ _)
      (fun others? => match others? with
        | none => Desk.Has (Seat.Stands m i start (Slot.chargeOn dev kind bytes)) h
        | some _ => Desk.Has (Seat.Stands m i start id) h)
      (Desk.Has (Seat.Stands m i start id) h) := by
  unfold charge
  refine Triple.bind (has_onRegion (Seat.stands_addUsage hm dev bytes kind)) fun _ => ?_
  split
  next => exact Triple.pure fun _ hdesk => hdesk
  next =>
    refine Triple.bind (has_onRegion (Seat.stands_usageSum dev bytes kind)) fun sum => ?_
    dsimp only
    -- The sum decides whether the charge stays.
    split
    next => exact Triple.pure fun _ hdesk => hdesk
    next =>
      refine Triple.bind (has_onRegion (Seat.stands_removeUsage hm dev bytes kind)) fun _ => ?_
      exact Triple.pure fun _ hdesk => hdesk

/-- A reservation charges in full or leaves the seat as it stood. -/
theorem stands_reserve :
    Triple (Desk.Has (Seat.Stands m i start id) h) (reserve m dev bytes kind : AllocM σ Unit)
      (fun _ => Desk.Has (Seat.Stands m i start (Slot.chargeOn dev kind bytes)) h)
      (Desk.Has (Seat.Stands m i start id) h) := by
  unfold reserve
  have hlimit := Triple.of_keeps (Member.keeps_memoryLimit (P := Seat.Stands m i start id) dev)
  refine Triple.bind (has_onRegion hlimit) fun limit => ?_
  refine Triple.bind (stands_charge hm dev bytes kind limit) fun others? => ?_
  cases others? with
  | none => exact Triple.pure fun _ hdesk => hdesk
  | some others =>
    -- The first charge is gone again when dead processes are cleared for a second one.
    refine Triple.bind (has_onSeat (Seat.stands_clearDead hm id)) fun cleared => ?_
    split
    next => exact Triple.throw fun _ hdesk => hdesk
    next =>
      refine Triple.bind (stands_charge hm dev bytes kind limit) fun others? => ?_
      cases others? with
      | none => exact Triple.pure fun _ hdesk => hdesk
      | some others => exact Triple.throw fun _ hdesk => hdesk

/-- Taking a reservation back leaves the seat as it stood before. -/
theorem stands_unreserve {E : Desk σ → Prop} :
    Triple (Desk.Has (Seat.Stands m i start (Slot.chargeOn dev kind bytes)) h)
      (unreserve m dev bytes kind : AllocM σ Unit)
      (fun _ => Desk.Has (Seat.Stands m i start id) h) E := by
  intro desk hdesk
  have hback := (Seat.stands_removeUsage hm dev bytes kind).snd hdesk.1
  exact ⟨hback, hdesk.2⟩

/-- Looking whether a request would fit leaves the own slot as it stands. -/
theorem stands_admissible :
    Triple (Desk.Has (Seat.Stands m i start id) h) (admissible m dev bytes : AllocM σ Unit)
      (fun _ => Desk.Has (Seat.Stands m i start id) h) (Desk.Has (Seat.Stands m i start id) h) := by
  refine Triple.of_keeps ?_
  exact keeps_admissible (R := fun s t => Seat.Stands m i start id s ∧ t = h)
    (fun t s hs => ⟨Seat.stands_clearDead hm id s hs.1, hs.2⟩) dev bytes

end Reserve

/-! ### The operations of an allocator -/

section Operations

variable {m : Member} {i : Fin maxProcesses} {start : Region}

/-- The seat stands as it stood, and what is tracked is tracked again. -/
def Restored (m : Member) (i : Fin maxProcesses) (start : Region) (h : Holdings) (desk : Desk σ) :
    Prop :=
  desk.seat.Stands m i start id ∧
    desk.holdings.plain.entries.Perm h.plain.entries ∧
    desk.holdings.pooled.entries.Perm h.pooled.entries ∧
    desk.holdings.pooled.watermark = h.pooled.watermark

/-- Where the seat stands as it stood and the same is tracked all is restored. -/
private theorem restored_of_has {desk : Desk σ} (hdesk : desk.Has (Seat.Stands m i start id) h) :
    Restored m i start h desk := by
  obtain ⟨hseat, rfl⟩ := hdesk
  exact ⟨hseat, .refl _, .refl _, rfl⟩

/-- A refusal of the driver at the start leaves everything as it was. -/
private theorem restored_onDriver (call : Call σ α) :
    Triple (Desk.Has (Seat.Stands m i start id) h) (onDriver call)
      (fun _ => Desk.Has (Seat.Stands m i start id) h) (Restored m i start h) :=
  (has_onDriver call).mono (fun _ _ hdesk => hdesk) fun _ => restored_of_has

variable (hm : m.pid ≠ 0)

include hm

/-- A reservation charges the own slot, or is refused with all restored. -/
private theorem restored_reserve (dev : Nat) (bytes : UInt64) (kind : UsageKind) :
    Triple (Desk.Has (Seat.Stands m i start id) h) (reserve m dev bytes kind : AllocM σ Unit)
      (fun _ => Desk.Has (Seat.Stands m i start (Slot.chargeOn dev kind bytes)) h)
      (Restored m i start h) :=
  (stands_reserve hm dev bytes kind).mono (fun _ _ hdesk => hdesk) fun _ => restored_of_has

/-- The charge of an entry is taken back without a refusal. -/
private theorem restored_removeUsage {dev : Nat} (hdev : dev < maxDevices) (bytes : UInt64)
    (kind : UsageKind) {t : Holdings} :
    Triple (Desk.Has (Seat.Stands m i start id) t)
      (onRegion (m.removeUsage m.pid dev bytes kind) : AllocM σ Unit)
      (fun _ _ => True) (Restored m i start h) :=
  (has_onRegion (Seat.removeUsage_of_stands hm dev bytes kind hdev)).mono (fun _ _ _ => trivial)
    fun _ hdesk => hdesk.1.elim

variable [DeviceDriver σ]

/-- An allocation that is refused leaves all restored, as the charge goes back. -/
theorem restored_allocateAs (size : UInt64) (kind : UsageKind) :
    Triple (Desk.Has (Seat.Stands m i start id) h) (allocateAs m size kind : AllocM σ Address)
      (fun _ _ => True) (Restored m i start h) := by
  refine Triple.bind (restored_onDriver _) fun device => ?_
  refine Triple.bind (restored_reserve hm device size kind) fun _ => ?_
  refine Triple.bind (has_attempt _) fun answer => ?_
  cases answer with
  | error e =>
    -- The charge was made before the driver was asked, and goes back.
    refine Triple.bind (stands_unreserve hm device size kind) fun _ => ?_
    exact Triple.throw fun _ => restored_of_has
  | ok place => exact Triple.bind (has_modifyHoldings _) fun _ => Triple.pure fun _ _ => trivial

/-- So does memory from elsewhere that is not taken in. -/
theorem restored_registerExternal (address : Address) (size : UInt64) :
    Triple (Desk.Has (Seat.Stands m i start id) h)
      (registerExternal m address size : AllocM σ Unit)
      (fun _ _ => True) (Restored m i start h) := by
  refine Triple.bind (restored_onDriver _) fun device => ?_
  refine Triple.bind (restored_reserve hm device size .data) fun _ => ?_
  exact (has_modifyHoldings _).mono (fun _ _ _ => trivial) fun _ hdesk => hdesk

/-- An entry that the driver refuses to free is tracked again, be it at another place. -/
theorem restored_free (address : Address) (hrange : h.InRange) :
    Triple (Desk.Has (Seat.Stands m i start id) h) (free m address : AllocM σ FreeOutcome)
      (fun _ _ => True) (Restored m i start h) := by
  refine Triple.get_bind fun desk hdesk => ?_
  split
  next =>
    refine Triple.bind ((restored_onDriver _).pre fun _ heq => heq ▸ hdesk) fun _ => ?_
    exact Triple.pure fun _ _ => trivial
  next a rest hremove =>
    rw [hdesk.2] at hremove
    refine Triple.bind ((has_modifyHoldings _).pre fun _ heq => heq ▸ hdesk) fun _ => ?_
    refine Triple.bind (has_attempt _) fun answer => ?_
    cases answer with
    | error e =>
      -- The entry was taken out before the driver was asked; it comes back at the end of the list.
      refine Triple.bind (has_modifyHoldings _) fun _ => Triple.throw fun t ht => ?_
      have hperm : (rest.push a).entries.Perm h.plain.entries :=
        (List.perm_append_singleton a rest.entries).trans (Tracked.perm_remove? hremove).1.symm
      obtain ⟨hseat, htracked⟩ := ht
      refine ⟨hseat, ?_, ?_, ?_⟩
      · rwa [htracked]
      · rw [htracked]
      · rw [htracked]
    | ok _ =>
      -- The driver has freed the memory, so nothing may be refused from here on.
      have hdev := (hrange.removePlain hremove).1
      exact Triple.bind (restored_removeUsage hm hdev _ _) fun _ => Triple.pure fun _ _ => trivial

/-- So does a release into the pool: the entry that was taken out goes back in. -/
theorem restored_freeAsync (address : Address) (stream : Stream) (hrange : h.InRange) :
    Triple (Desk.Has (Seat.Stands m i start id) h)
      (freeAsync m address stream : AllocM σ FreeOutcome)
      (fun _ _ => True) (Restored m i start h) := by
  refine Triple.get_bind fun desk hdesk => ?_
  split
  next =>
    refine Triple.bind ((restored_onDriver _).pre fun _ heq => heq ▸ hdesk) fun _ => ?_
    exact Triple.pure fun _ _ => trivial
  next a rest hremove =>
    rw [hdesk.2] at hremove
    refine Triple.bind ((has_modifyHoldings _).pre fun _ heq => heq ▸ hdesk) fun _ => ?_
    refine Triple.bind (has_attempt _) fun answer => ?_
    cases answer with
    | error e =>
      -- Taking an entry out lowers no watermark, so there is only the entry to bring back.
      refine Triple.bind (has_modifyHoldings _) fun _ => Triple.throw fun t ht => ?_
      obtain ⟨hrest, hwatermark⟩ := Tracked.perm_remove? hremove
      have hperm : (rest.push a).entries.Perm h.pooled.entries :=
        (List.perm_append_singleton a rest.entries).trans hrest.symm
      obtain ⟨hseat, htracked⟩ := ht
      refine ⟨hseat, ?_, ?_, ?_⟩
      · rw [htracked]
      · rwa [htracked]
      · rwa [htracked]
    | ok _ =>
      refine Triple.bind (has_modifyHoldings _) fun _ => ?_
      dsimp only
      split
      next =>
        have hdev := (hrange.removePooled hremove).1
        exact Triple.bind (restored_removeUsage hm hdev _ _) fun _ => Triple.pure fun _ _ => trivial
      next => exact Triple.pure fun _ _ => trivial

/-- A charge for the growth of the pool that is refused lowers the watermark to where it stood. -/
private theorem restored_payForPool (device : Nat) (address : Address) (stream : Stream)
    {charged : UInt64} {pooled : Tracked} (hback : pooled.releasePool charged = h.pooled) :
    Triple (Desk.Has (Seat.Stands m i start id) h)
      (payForPool m device address stream charged pooled : AllocM σ Address)
      (fun _ _ => True) (Restored m i start h) := by
  have htrack : ∀ {B : Seat → Prop} {t : Holdings}, Triple (Desk.Has B t)
      (do
        trackPooled { address, length := charged, device, kind := .data, handle := none }
        return address : AllocM σ Address) (fun _ _ => True) (Restored m i start h) :=
    Triple.bind (has_modifyHoldings _) fun _ => Triple.pure fun _ _ => trivial
  refine Triple.bind (has_modifyHoldings _) fun _ => ?_
  dsimp only
  split
  next =>
    -- Only the refused charge reaches the handler: it lowers the watermark and gives the memory
    -- back, and whatever the driver answers to that, the operation is refused.
    refine Triple.bind (Triple.tryCatch (stands_reserve hm device charged .data) fun e => ?_)
      fun _ => htrack
    refine Triple.bind (has_modifyHoldings _) fun _ => ?_
    refine Triple.bind (has_attempt _) fun _ => Triple.throw fun t ht => restored_of_has ?_
    rwa [hback] at ht
  next => exact htrack

/-- So does an allocation from the pool: the pool gives up what it was not paid for. -/
theorem restored_allocateAsync (size : UInt64) (stream : Stream) :
    Triple (Desk.Has (Seat.Stands m i start id) h)
      (allocateAsync m size stream : AllocM σ Address)
      (fun _ _ => True) (Restored m i start h) := by
  unfold allocateAsync
  refine Triple.bind (restored_onDriver _) fun device => ?_
  have hadmissible : Triple (Desk.Has (Seat.Stands m i start id) h)
      (admissible m device size : AllocM σ Unit) (fun _ => Desk.Has (Seat.Stands m i start id) h)
      (Restored m i start h) :=
    (stands_admissible hm device size).mono (fun _ _ hdesk => hdesk) fun _ => restored_of_has
  refine Triple.bind hadmissible fun _ => ?_
  refine Triple.bind (restored_onDriver _) fun address => ?_
  refine Triple.bind (has_attempt _) fun answer => ?_
  refine Triple.get_bind fun desk hdesk => ?_
  rw [hdesk.2]
  refine (restored_payForPool hm device address stream ?_).pre fun _ heq => heq ▸ hdesk
  -- What is undone is just what the pool was charged with.
  exact h.pooled.releasePool_chargePool _ size

end Operations

end Allocator

/-! ## Refused calls -/

/-- What a refused operation of an allocator leaves as it was. -/
structure Desk.Undone {σ : Type} (m : Member) (i : Fin maxProcesses) (before after : Desk σ) :
    Prop where
  /-- The process is charged what it was charged, of every kind and in total. -/
  usage_eq : ∀ d, after.seat.region.usageAt i d = before.seat.region.usageAt i d
  /-- The same entries are tracked. -/
  plain_perm : after.holdings.plain.entries.Perm before.holdings.plain.entries
  /-- The same entries from the pool are tracked. -/
  pooled_perm : after.holdings.pooled.entries.Perm before.holdings.pooled.entries
  /-- As much of the pool is paid for. -/
  watermark_eq : after.holdings.pooled.watermark = before.holdings.pooled.watermark
  /-- Every other slot is what it was, or has been cleared and belonged to a dead process. -/
  spared : ∀ j, j ≠ i → after.seat.region.slotAt j = before.seat.region.slotAt j ∨
    Region.isDeadSlot m.pid m.alive (before.seat.region.slotAt j) = true ∧
      after.seat.region.slotAt j = .empty

namespace AllocCall

variable {σ : Type} [DeviceDriver σ]

/-- Whether an operation is carried out, rather than refused. -/
def succeeds (m : Member) : AllocCall → Desk σ → Bool
  | .allocate size, desk => (Allocator.allocate m size desk).1.isOk
  | .allocateAs size kind, desk => (Allocator.allocateAs m size kind desk).1.isOk
  | .allocateAsync size stream, desk => (Allocator.allocateAsync m size stream desk).1.isOk
  | .free address, desk => (Allocator.free m address desk).1.isOk
  | .freeAsync address stream, desk => (Allocator.freeAsync m address stream desk).1.isOk
  | .registerExternal address size, desk => (Allocator.registerExternal m address size desk).1.isOk

/-- Whatever an allocator is asked for and whatever the driver answers, if the operation is refused
to a process that finds its slot, then the charges of the process, what is tracked, and the slots of
the living are what they were. -/
theorem undone_of_refused {desk : Desk σ} (hreach : desk.Reachable) {m : Member}
    {i : Fin maxProcesses} (hpid : m.pid ≠ 0)
    (hown : desk.seat.region.ownSlot? m.pid desk.seat.remembered = some i.val) (call : AllocCall)
    (hrefused : call.succeeds m desk = false) : desk.Undone m i (call.run m desk) := by
  have hrange := hreach.inRange
  have hstart : desk.Has (Seat.Stands m i desk.seat.region id) desk.holdings :=
    ⟨⟨hown, rfl, fun _ _ => .inl rfl⟩, rfl⟩
  -- The claim is about the call as such; each operation has its own lemma.
  have hrestored : Allocator.Restored m i desk.seat.region desk.holdings (call.run m desk) := by
    cases call with
    | allocate size =>
      exact (Allocator.restored_allocateAs hpid size .data).of_refusal hstart hrefused
    | allocateAs size kind =>
      exact (Allocator.restored_allocateAs hpid size kind).of_refusal hstart hrefused
    | allocateAsync size stream =>
      exact (Allocator.restored_allocateAsync hpid size stream).of_refusal hstart hrefused
    | free address =>
      exact (Allocator.restored_free hpid address hrange).of_refusal hstart hrefused
    | freeAsync address stream =>
      exact (Allocator.restored_freeAsync hpid address stream hrange).of_refusal hstart hrefused
    | registerExternal address size =>
      exact (Allocator.restored_registerExternal hpid address size).of_refusal hstart hrefused
  obtain ⟨hseat, hplain, hpooled, hwatermark⟩ := hrestored
  exact ⟨fun d => Slot.usage_of_unnumbered hseat.mine d, hplain, hpooled, hwatermark, hseat.spared⟩

/-- A registered process asks for memory that the driver does not give. -/
theorem undone_of_refused_allocate :
    ∃ (m : Member) (i : Fin maxProcesses) (desk : Desk SimulatedDevice),
      (allocate 4096).succeeds m desk = false ∧ desk.Undone m i ((allocate 4096).run m desk) := by
  let m : Member := ⟨7, .standard, fun _ => true⟩
  let seat : Seat := (m.registerSelf { region := Region.zero.setUp .standard 0 }).2
  let desk : Desk SimulatedDevice := ⟨seat, {}, { failNext := some .outOfMemory }⟩
  have hown : desk.seat.region.ownSlot? m.pid desk.seat.remembered = some 0 := by decide +kernel
  -- The driver is out of memory, after the request has been charged.
  have hrefused : (allocate 4096).succeeds m desk = false := by decide +kernel
  exact ⟨m, ⟨0, by decide⟩, desk, hrefused,
    undone_of_refused (.fresh seat _) (by decide) hown (allocate 4096) hrefused⟩

end AllocCall

end GpuQuota
