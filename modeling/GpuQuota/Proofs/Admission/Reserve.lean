import GpuQuota.Proofs.Admission.Contest
import GpuQuota.Proofs.Allocation.Settled

/-!
# A reservation is made of single steps

What an allocator does when it reserves memory, nobody else moving meanwhile, is a sequence of
steps of a contest: it charges, looks for the mark, reads slot after slot, and grants or rolls
back; clearing the slots of dead processes is a sequence of steps too.

The module introduces:

* `Contest.Follows` — a desk has come by steps of a contest to where it stands.
* `Region.sumBelow` — what has been read before a position; `Region.sumBelow_mark` is the whole
  sum.
* `Contest.triple_reserve` — a reservation follows a contest, and ends with a grant or with
  nothing charged.
-/

namespace GpuQuota

open Allocator

namespace Region

/-- The sum over the slots before a position. -/
def sumBelow (r : Region) (d : DeviceIndex) (n : Nat) : UsageSum :=
  (r.slots.toList.take n).foldl (fun sum s => if s.isFree then sum else sum.add (s.total d)) {}

/-- The sum before the mark is the usage of all registered processes. -/
theorem sumBelow_mark (r : Region) (d : DeviceIndex) : r.sumBelow d r.mark = r.usageSum d := by
  rw [usageSum, registered, List.foldl_filter, sumBelow, scanned]
  congr 1
  funext sum s
  cases s.isFree <;> rfl

/-- One more slot. -/
theorem sumBelow_succ (r : Region) (d : DeviceIndex) (i : Fin maxProcesses) :
    r.sumBelow d (i + 1) = r.readSlot d i (r.sumBelow d i) := by
  have hi : i.val < r.slots.toList.length := by simp
  have hslot : r.slots.toList[i.val] = r.slotAt i := by simp [slotAt]
  rw [sumBelow, List.take_add_one, List.getElem?_eq_getElem hi, hslot, Option.toList_some,
    List.foldl_append, List.foldl_cons, List.foldl_nil, ← sumBelow, readSlot]

end Region

namespace Contest

variable (d : DeviceIndex) (limit : UInt64)

/-- Reading goes on up to the mark. -/
theorem steps_read (r : Region) (alive : Pid → Bool) (older : List Reservation) (x : Reservation)
    (n : Nat) (hn : n ≤ r.mark) :
    Relation.ReflTransGen (Step d limit)
      ⟨r, alive, older ++ [{ x with stage := .reading r.mark 0 {} }]⟩
      ⟨r, alive, older ++ [{ x with stage := .reading r.mark n (r.sumBelow d n) }]⟩ := by
  induction n with
  | zero => exact .refl
  | succ n ih =>
    -- The last slot is read on top of what the earlier steps have read.
    let i : Fin maxProcesses := ⟨n, by have := r.mark_le; omega⟩
    let y : Reservation := { x with stage := .reading r.mark n (r.sumBelow d n) }
    have hstep : Step d limit ⟨r, alive, older ++ [y]⟩ _ :=
      .read _ older [] y r.mark i (r.sumBelow d n) rfl rfl hn
    rw [← r.sumBelow_succ d i] at hstep
    exact (ih (by omega)).tail hstep

/-- Clearing slots of dead processes one after the other. -/
theorem steps_clear (s : Contest) (me : Pid) (dead : List (Fin maxProcesses))
    (hdead : ∀ i ∈ dead, Region.isDeadSlot me s.alive (s.region.slotAt i) = true)
    (hnodup : dead.Nodup) :
    ∃ r : Region, Relation.ReflTransGen (Step d limit) s { s with region := r } ∧
      (∀ i, r.slotAt i = if i ∈ dead then .empty else s.region.slotAt i) ∧
      r.mark = s.region.mark := by
  induction dead with
  | nil => exact ⟨s.region, .refl, by simp, rfl⟩
  | cons i dead ih =>
    obtain ⟨hi, hnodup⟩ := List.nodup_cons.1 hnodup
    obtain ⟨r, hsteps, hslot, hmark⟩ := ih (fun j hj => hdead j (List.mem_cons_of_mem _ hj)) hnodup
    -- The slots cleared before leave this one as it was, so its owner is still dead.
    have hkept : r.slotAt i = s.region.slotAt i := by rw [hslot, if_neg hi]
    have hstep : Step d limit { s with region := r } _ :=
      .clear { s with region := r } i me (by rw [hkept]; exact hdead i List.mem_cons_self)
    refine ⟨_, hsteps.tail hstep, fun j => ?_, ?_⟩
    · refine (Region.slotAt_modifySlot r i j (·.clear)).trans ?_
      by_cases hji : j = i
      · rw [if_pos hji, if_pos (hji ▸ List.mem_cons_self)]
        rfl
      · rw [if_neg hji, hslot]
        simp [hji]
    · rw [Region.mark_modifySlot, hmark]

/-- Reaping is a sequence of steps: dead slots are cleared one after the other, then the mark is
lowered. -/
theorem steps_reap (s : Contest) (me : Pid) :
    Relation.ReflTransGen (Step d limit) s { s with region := (s.region.reap me s.alive).2 } := by
  have hdead : ∀ i ∈ (s.region.deadSlots me s.alive).toList,
      Region.isDeadSlot me s.alive (s.region.slotAt i) = true :=
    fun i hi => (Region.mem_deadSlots.1 (Finset.mem_toList.1 hi)).2
  obtain ⟨r, hsteps, hslot, hmark⟩ := s.steps_clear d limit me _ hdead (Finset.nodup_toList _)
  have hsweep : ∀ i, (s.region.sweep me s.alive).slotAt i = r.slotAt i := by
    intro i
    rw [Region.slotAt_sweep, hslot]
    simp only [Finset.mem_toList]
  -- A sweep leaves the slots, owners and totals that clearing one slot after the other leaves.
  have helsewhere : Step d limit { s with region := r } _ :=
    .elsewhere { s with region := r } (s.region.sweep me s.alive) (fun i => by rw [hsweep])
      (fun i => by rw [Region.usageAt, hsweep, Region.usageAt])
      (by rw [Region.mark_sweep]; exact hmark.symm)
  rw [Region.reap_eq]
  exact (hsteps.tail helsewhere).tail (.trim _)

/-! ## The steps of an allocator -/

/-- The desk has come by steps of a contest to where it stands, with further reservations, and the
process still owns its slot. -/
def Follows (pid : Pid) (i : Fin maxProcesses) (start : Contest)
    (further : List Reservation) {σ : Type} (desk : Desk σ) : Prop :=
  desk.seat.region.Owns pid i ∧
    Relation.ReflTransGen (Step d limit) start
      ⟨desk.seat.region, start.alive, start.reservations ++ further⟩

section Reserve

variable {d : DeviceIndex} {limit : UInt64} {σ : Type} {m : Member} {i : Fin maxProcesses}
  {start : Contest}

/-- A step of the contest that the desk follows. -/
theorem Follows.step {desk : Desk σ} {further further' : List Reservation}
    (h : Follows d limit m.pid i start further desk) (desk' : Desk σ)
    (howns : desk'.seat.region.Owns m.pid i)
    (hstep : Step d limit ⟨desk.seat.region, start.alive, start.reservations ++ further⟩
      ⟨desk'.seat.region, start.alive, start.reservations ++ further'⟩) :
    Follows d limit m.pid i start further' desk' :=
  ⟨howns, h.2.tail hstep⟩

/-- Charging is a step. -/
theorem triple_addUsage (halive : start.alive m.pid = true)
    (hidle : ∀ x ∈ start.reservations, x.slot = i → x.stage = .granted) {bytes : UInt64}
    (hfit : limit.toNat + bytes.toNat < 2 ^ 64) (kind : UsageKind) {E : Desk σ → Prop} :
    Triple (Follows d limit m.pid i start []) (onRegion (m.addUsage m.pid d bytes kind))
      (fun _ => Follows d limit m.pid i start [⟨i, bytes, kind, .charged⟩]) E := by
  intro desk hdesk
  obtain ⟨t, hregion, hrun⟩ := m.addUsage_of_owns hdesk.1 d bytes kind
  rw [onRegion_apply, hrun]
  -- The member finds the slot that it owns, which is the slot of the reservation.
  refine hdesk.step { desk with seat := t } ?_ ?_
  · show t.region.Owns m.pid i
    rw [hregion]
    exact hdesk.1.modifySlot fun _ => rfl
  · have hlive : Live ⟨desk.seat.region, start.alive, start.reservations ++ []⟩ i := by
      rw [Live, hdesk.1.pid_eq]
      exact ⟨hdesk.1.pid_ne_zero, halive⟩
    have hstep := Step.charge (d := d) _ i bytes kind hlive (by simpa using hidle) hfit
    show Step d limit _ ⟨t.region, start.alive, _⟩
    rw [hregion]
    simpa using hstep

/-- Summing the table up is to look for the mark and to read slot after slot. -/
theorem triple_usageSum (hlimit : limit ≠ 0) {bytes : UInt64} {kind : UsageKind}
    {E : Desk σ → Prop} :
    Triple (Follows d limit m.pid i start [⟨i, bytes, kind, .charged⟩])
      (onRegion (Member.usageSum d))
      (fun sum desk => ∃ mark,
        Follows d limit m.pid i start [⟨i, bytes, kind, .reading mark mark sum⟩] desk) E := by
  intro desk hdesk
  let x : Reservation := ⟨i, bytes, kind, .charged⟩
  have hbegin : Step d limit ⟨desk.seat.region, start.alive, start.reservations ++ [x]⟩ _ :=
    .begin _ start.reservations [] x rfl rfl hlimit
  have hread := steps_read d limit desk.seat.region start.alive start.reservations x _ le_rfl
  rw [Region.sumBelow_mark] at hread
  have hrun : Member.usageSum d desk.seat = (.ok (desk.seat.region.usageSum d), desk.seat) := by
    rw [Member.usageSum, Run.bind_apply, device?_val]
    rfl
  rw [onRegion_apply, hrun]
  -- Nobody moves meanwhile, so the sum read in steps is the sum of the region as it stands.
  exact ⟨_, hdesk.1, (hdesk.2.tail hbegin).trans hread⟩

/-- Taking the charge back is a step if the sum exceeds the limit. -/
theorem triple_removeUsage {bytes : UInt64} {kind : UsageKind} {sum : UsageSum}
    (hsum : ¬ sum.bytes ≤ limit) {E : Desk σ → Prop} :
    Triple (fun desk => ∃ mark,
        Follows d limit m.pid i start [⟨i, bytes, kind, .reading mark mark sum⟩] desk)
      (onRegion (m.removeUsage m.pid d bytes kind))
      (fun _ => Follows d limit m.pid i start []) E := by
  rintro desk ⟨mark, hdesk⟩
  obtain ⟨t, hregion, hrun⟩ := m.removeUsage_of_owns hdesk.1 d bytes kind
  rw [onRegion_apply, hrun]
  refine hdesk.step { desk with seat := t } ?_ ?_
  · show t.region.Owns m.pid i
    rw [hregion]
    exact hdesk.1.modifySlot fun _ => rfl
  · show Step d limit _ ⟨t.region, start.alive, _⟩
    rw [hregion]
    -- The reservation has read more than the limit, which is what lets it be rolled back.
    let x : Reservation := ⟨i, bytes, kind, .reading mark mark sum⟩
    exact .rollBack _ start.reservations [] x mark sum rfl rfl hsum

/-- Clearing the slots of dead processes is a sequence of steps. -/
theorem triple_clearDead (halive : m.alive = start.alive) {E : Desk σ → Prop} :
    Triple (Follows d limit m.pid i start []) (onSeat m.clearDead)
      (fun _ => Follows d limit m.pid i start []) E := by
  intro desk hdesk
  let word := (desk.seat.region.lock.acquire m.pid m.alive m.settings.lock.retries).word
  let locked : Region := { desk.seat.region with lock := word }
  let reaped : Region := (locked.reap m.pid m.alive).2
  -- Taking the lock and giving it back are steps elsewhere.
  have hlock : Step d limit ⟨desk.seat.region, m.alive, start.reservations ++ []⟩ _ :=
    .elsewhere _ locked (fun _ => rfl) (fun _ => rfl) rfl
  have hreap := steps_reap d limit ⟨locked, m.alive, start.reservations ++ []⟩ m.pid
  have hrelease : Step d limit ⟨reaped, m.alive, start.reservations ++ []⟩ _ :=
    .elsewhere _ { reaped with lock := reaped.lock.release } (fun _ => rfl) (fun _ => rfl) rfl
  obtain ⟨howns, hsteps⟩ := hdesk
  rw [← halive] at hsteps
  refine ⟨((howns.setLock word).reap m.alive).setLock _, ?_⟩
  rw [← halive]
  exact ((hsteps.tail hlock).trans hreap).tail hrelease

/-! ## Reservations -/

/-- One attempt to charge ends with a grant or with nothing charged. -/
theorem triple_attempt (halive : start.alive m.pid = true)
    (hidle : ∀ x ∈ start.reservations, x.slot = i → x.stage = .granted) {bytes : UInt64}
    (hfit : limit.toNat + bytes.toNat < 2 ^ 64) (kind : UsageKind) {E : Desk σ → Prop} :
    Triple (Follows d limit m.pid i start [])
      (Allocator.charge m d bytes kind limit : AllocM σ (Option UInt64))
      (fun others? => match others? with
        | none => Follows d limit m.pid i start [⟨i, bytes, kind, .granted⟩]
        | some _ => Follows d limit m.pid i start []) E := by
  unfold Allocator.charge
  refine Triple.bind (triple_addUsage halive hidle hfit kind) fun _ => ?_
  split
  next hzero =>
    -- Without a limit nothing is summed up.
    refine Triple.pure fun desk hdesk => hdesk.step _ hdesk.1 ?_
    let x : Reservation := ⟨i, bytes, kind, .charged⟩
    exact .grantUnlimited _ start.reservations [] x rfl rfl hzero
  next hlimit =>
    refine Triple.bind (triple_usageSum hlimit) fun sum => ?_
    dsimp only
    split
    next hsum =>
      refine Triple.pure ?_
      rintro desk ⟨mark, hdesk⟩
      refine hdesk.step _ hdesk.1 ?_
      let x : Reservation := ⟨i, bytes, kind, .reading mark mark sum⟩
      exact .grant _ start.reservations [] x mark sum rfl rfl hsum
    next hsum =>
      exact Triple.bind (triple_removeUsage hsum) fun _ => Triple.pure fun _ h => h

/-- A reservation by a process that nobody disturbs is a run of the contest. It ends with the
request granted, or refused and not charged. -/
theorem triple_reserve (halive : m.alive = start.alive) (hme : start.alive m.pid = true)
    (hidle : ∀ x ∈ start.reservations, x.slot = i → x.stage = .granted) {bytes : UInt64}
    (hlimit : start.region.memoryLimits.get d = limit) (hfit : limit.toNat + bytes.toNat < 2 ^ 64)
    (kind : UsageKind) :
    Triple (fun desk : Desk σ => desk.seat.region = start.region ∧ start.region.Owns m.pid i)
      (Allocator.reserve m d bytes kind)
      (fun _ => Follows d limit m.pid i start [⟨i, bytes, kind, .granted⟩])
      (Follows d limit m.pid i start []) := by
  have hread : Triple (fun desk : Desk σ => desk.seat.region = start.region ∧
      start.region.Owns m.pid i) (onRegion (Member.memoryLimit d))
      (fun found desk => found = limit ∧ Follows d limit m.pid i start [] desk)
      (Follows d limit m.pid i start []) := by
    rintro desk ⟨hregion, howns⟩
    have hrun : Member.memoryLimit d desk.seat = (.ok limit, desk.seat) := by
      show refuse .device (desk.seat.region.memoryLimit d) desk.seat = _
      rw [Region.memoryLimit, device?_val, hregion, ← hlimit]
      rfl
    rw [onRegion_apply, hrun]
    refine ⟨rfl, ?_, ?_⟩
    · show desk.seat.region.Owns m.pid i
      rwa [hregion]
    · show Relation.ReflTransGen _ start ⟨desk.seat.region, _, _⟩
      rw [hregion, List.append_nil]
  unfold Allocator.reserve
  refine Triple.bind hread fun found => Triple.of_fact ?_
  rintro rfl
  refine Triple.bind (triple_attempt hme hidle hfit kind) fun others? => ?_
  cases others? with
  | none => exact Triple.pure fun _ h => h
  | some others =>
    -- The first attempt was refused; there is another one if slots have been cleared.
    refine Triple.bind (triple_clearDead halive) fun reaped => ?_
    split
    next => exact Triple.throw fun _ h => h
    next =>
      refine Triple.bind (triple_attempt hme hidle hfit kind) fun others? => ?_
      cases others? with
      | none => exact Triple.pure fun _ h => h
      | some others => exact Triple.throw fun _ h => h

end Reserve

end Contest

end GpuQuota
