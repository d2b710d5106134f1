import GpuQuota.Proofs.Allocation.Pool

/-!
# Which addresses count as device memory

An allocator tells device memory from other memory by the ranges that it tracks, and of those it
looks at the plain ones alone. So an address counts as device memory just if it lies in memory that
was allocated or taken in, and is not given back yet; memory from the pool counts only where it
overlaps with such memory.

The module introduces:

* `Handout.Covers` — the address lies in memory that was handed out.
* `AllocCall.outstanding` — what an allocator has out after an operation, by what the operation
  answers.
* `Desk.Outstanding` — the desks that calls of an allocator lead to, with what it has out.
* `AllocCall.plain_run` — an operation moves the tracked blocks as it moves what is out.
* `Desk.Outstanding.isDeviceMemory_iff` — which addresses count as device memory.
-/

namespace GpuQuota

/-! ## Ranges -/

/-- The address lies in a block, which is at least one byte long. -/
def InBlock (b : Address × UInt64) (a : Address) : Prop :=
  b.1.toNat ≤ a.toNat ∧ a.toNat < b.1.toNat + max b.2.toNat 1

instance (b : Address × UInt64) (a : Address) : Decidable (InBlock b a) :=
  inferInstanceAs (Decidable (_ ∧ _))

/-- An entry covers its block; no range wraps around at the end of the address space. -/
theorem Allocation.covers_iff {e : Allocation} {a : Address} :
    e.covers a = true ↔ InBlock (e.address, e.length) a := by
  rw [covers, Bool.and_eq_true, decide_eq_true_iff, decide_eq_true_iff]
  show _ ↔ e.address.toNat ≤ a.toNat ∧ a.toNat < e.address.toNat + max e.length.toNat 1
  rw [UInt64.le_iff_toNat_le]
  refine and_congr_right fun hle => ?_
  have hmax : (max e.length 1).toNat = max e.length.toNat 1 := toNat_max _ _
  rw [UInt64.lt_iff_toNat_lt, UInt64.toNat_sub_of_le _ _ (UInt64.le_iff_toNat_le.2 hle), hmax]
  omega

namespace Tracked

theorem covers_iff {t : Tracked} {a : Address} :
    t.covers a = true ↔ ∃ b ∈ t.blocks, InBlock b a := by
  simp [covers, blocks, Allocation.covers_iff]

/-- What is taken out is what a search finds. -/
theorem find?_of_remove? {t rest : Tracked} {address : Address} {e : Allocation}
    (h : t.remove? address = some (e, rest)) : t.find? address = some e := by
  rw [remove?, Option.bind_eq_bind, Option.bind_eq_some_iff] at h
  obtain ⟨n, hn, h⟩ := h
  rw [Option.bind_eq_bind, Option.bind_eq_some_iff] at h
  obtain ⟨b, hb, h⟩ := h
  cases h
  rw [find?, List.find?_eq_bind_findIdx?_getElem?, hn]
  exact hb

end Tracked

namespace Handout

/-- The block that was asked for. -/
def block (x : Handout) : Address × UInt64 := (x.address, x.size)

/-- The address lies in the memory that was handed out. -/
def Covers (x : Handout) (a : Address) : Prop := InBlock x.block a

instance (x : Handout) (a : Address) : Decidable (x.Covers a) :=
  inferInstanceAs (Decidable (InBlock _ _))

end Handout

/-- The blocks that are out and did not come from the pool. -/
def plainBlocks (live : List Handout) : Multiset (Address × UInt64) :=
  (live.filter (·.origin = .plain)).map Handout.block

section PlainBlocks

variable {live l₁ l₂ : List Handout} {x : Handout}

theorem mem_plainBlocks {b : Address × UInt64} :
    b ∈ plainBlocks live ↔ ∃ x ∈ live, x.origin = .plain ∧ x.block = b := by
  simp [plainBlocks, and_assoc]

/-- Memory adds its block wherever it stands in the list. -/
theorem plainBlocks_insert (hx : x.origin = .plain) :
    plainBlocks (l₁ ++ x :: l₂) = x.block ::ₘ plainBlocks (l₁ ++ l₂) := by
  simp [plainBlocks, hx]

/-- Memory from the pool adds none. -/
theorem plainBlocks_insert_pooled (hx : x.origin = .pooled) :
    plainBlocks (l₁ ++ x :: l₂) = plainBlocks (l₁ ++ l₂) := by
  simp [plainBlocks, hx]

end PlainBlocks

/-! ## What is out -/

/-- Whether an attempt to free memory was carried out. A driver that refuses keeps the memory in
use; a region that refuses does so when the driver has freed it. -/
def FreeOutcome.isFreed : Except AllocError FreeOutcome → Bool
  | .ok _ => true
  | .error (.driver _) => false
  | .error _ => true

/-- The memory that goes back when an address is given back in the way of an origin. The driver may
have handed an address out several times; of own memory what goes back is then as long as the first
entry that is tracked. -/
def Holdings.takesBack (h : Holdings) (address : Address) (o : Origin) (x : Handout) : Bool :=
  x.address = address && x.origin = o &&
    (o = .pooled || (h.plain.find? address).all (·.length = x.size))

namespace AllocCall

variable {σ : Type} [DeviceDriver σ] (m : Member)

/-- What an operation that succeeds puts out: memory that is handed out, or taken in. -/
def acquires (call : AllocCall) (desk : Desk σ) : Option Handout :=
  match call with
  | .registerExternal address size =>
    (Allocator.registerExternal m address size desk).1.toOption.map fun _ => ⟨address, .plain, size⟩
  | call => call.handout m desk

/-- Whether an operation gives back the pointer that it is called with. -/
def givesBack : AllocCall → Desk σ → Bool
  | .free address, desk => FreeOutcome.isFreed (Allocator.free m address desk).1
  | .freeAsync address stream, desk =>
    FreeOutcome.isFreed (Allocator.freeAsync m address stream desk).1
  | _, _ => false

/-- What is out after an operation. A pointer that goes back in another way than it came stays out,
as far as that operation goes. -/
def outstanding (call : AllocCall) (desk : Desk σ) (live : List Handout) : List Handout :=
  match call.returns with
  | none => live ++ (call.acquires m desk).toList
  | some (address, o) =>
    if call.givesBack m desk then live.eraseP (desk.holdings.takesBack address o) else live

end AllocCall

/-- What calls of an allocator lead to from nothing tracked, and what it has out then, while others
change the region and the driver as they like. -/
inductive Desk.Outstanding {σ : Type} [DeviceDriver σ] : List Handout → Desk σ → Prop
  /-- Nothing is out yet. -/
  | fresh (seat : Seat) (driver : σ) : Outstanding [] ⟨seat, {}, driver⟩
  /-- The allocator carries an operation out. -/
  | call {live : List Handout} {desk : Desk σ} (h : Outstanding live desk) (m : Member)
    (call : AllocCall) : Outstanding (call.outstanding m desk live) (call.run m desk)
  /-- The seat and the driver change between operations. -/
  | others {live : List Handout} {desk : Desk σ} (h : Outstanding live desk) (seat : Seat)
    (driver : σ) : Outstanding live ⟨seat, desk.holdings, driver⟩

/-! ## The operations of an allocator -/

/-- These blocks are tracked as plain. -/
def Desk.Spans {σ : Type} (B : Multiset (Address × UInt64)) (desk : Desk σ) : Prop :=
  desk.holdings.plain.blocks = B

namespace Allocator

variable {σ : Type} {B : Multiset (Address × UInt64)}

/-- Charging works on the seat alone. -/
theorem endures_spans (m : Member) : Endures m (Desk.Spans (σ := σ) B) where
  addUsage _ _ _ _ _ hdesk := hdesk
  removeUsage _ _ _ _ _ hdesk := hdesk
  clearDead _ _ hdesk := hdesk

theorem attempt_apply {α : Type} (call : Call σ α) (desk : Desk σ) :
    attempt call desk =
      (.ok (call desk.driver).1, { desk with driver := (call desk.driver).2 }) := rfl

theorem onDriver_apply {α : Type} (call : Call σ α) (desk : Desk σ) :
    onDriver call desk = match call desk.driver with
      | (.ok a, driver) => (.ok a, { desk with driver })
      | (.error e, driver) => (.error (.driver e), { desk with driver }) := by
  rw [onDriver, Run.bind_apply, attempt_apply]
  rcases call desk.driver with ⟨e | a, driver⟩ <;> rfl

theorem spans_trackPlain (e : Allocation) {E : Desk σ → Prop} :
    Triple (Desk.Spans B) (trackPlain e)
      (fun _ => Desk.Spans ((e.address, e.length) ::ₘ B)) E := by
  refine Triple.modify fun desk hdesk => ?_
  exact (Tracked.blocks_push _ e).trans (congrArg _ hdesk)

variable [DeviceDriver σ] (m : Member) (size : UInt64) (address : Address)

theorem spans_allocateAs (kind : UsageKind) :
    Triple (Desk.Spans (σ := σ) B) (allocateAs m size kind)
      (fun address => Desk.Spans ((address, size) ::ₘ B)) (Desk.Spans B) := by
  refine Triple.bind (Triple.of_keeps (keeps_onDriver _ fun _ _ h => h)) fun device => ?_
  refine Triple.bind (Triple.of_keeps ((endures_spans m).reserve device size kind)) fun _ => ?_
  refine Triple.bind (Triple.of_keeps (keeps_attempt _ fun _ _ h => h)) fun answer => ?_
  cases answer with
  | error e =>
    refine Triple.bind (Triple.of_keeps ((endures_spans m).unreserve device size kind)) fun _ => ?_
    exact Triple.throw fun _ hdesk => hdesk
  | ok place => exact Triple.bind (spans_trackPlain _) fun _ => Triple.pure fun _ hdesk => hdesk

theorem spans_registerExternal :
    Triple (Desk.Spans (σ := σ) B) (registerExternal m address size)
      (fun _ => Desk.Spans ((address, size) ::ₘ B)) (Desk.Spans B) := by
  refine Triple.bind (Triple.of_keeps (keeps_onDriver _ fun _ _ h => h)) fun device => ?_
  refine Triple.bind (Triple.of_keeps ((endures_spans m).reserve device size .data)) fun _ => ?_
  exact spans_trackPlain _

variable {m address}

/-- A pointer that is not tracked as plain is left to the driver. -/
theorem free_apply_of_none {desk : Desk σ} (hnone : desk.holdings.plain.remove? address = none) :
    free m address desk = match DeviceDriver.free address none desk.driver with
      | (.ok _, driver) => (.ok .untracked, { desk with driver })
      | (.error err, driver) => (.error (.driver err), { desk with driver }) := by
  have hread : (get : AllocM σ (Desk σ)) desk = (.ok desk, desk) := rfl
  unfold free
  rw [Run.bind_apply, hread]
  dsimp only
  rw [hnone]
  dsimp only
  rw [Run.bind_apply, onDriver_apply]
  rcases DeviceDriver.free address none desk.driver with ⟨err | _, driver⟩ <;> rfl

/-- The entry of a tracked pointer comes back if the driver refuses. -/
theorem free_apply_of_some {desk : Desk σ} {e : Allocation} {rest : Tracked}
    (hremove : desk.holdings.plain.remove? address = some (e, rest)) :
    free m address desk = match DeviceDriver.free address e.handle desk.driver with
      | (.error err, driver) =>
        (.error (.driver err), ⟨desk.seat, { desk.holdings with plain := rest.push e }, driver⟩)
      | (.ok _, driver) =>
        match m.removeUsage m.pid e.device e.length e.kind desk.seat with
        | (.ok _, seat) =>
          (.ok (.freed e.length), ⟨seat, { desk.holdings with plain := rest }, driver⟩)
        | (.error err, seat) =>
          (.error (.region err), ⟨seat, { desk.holdings with plain := rest }, driver⟩) := by
  -- The entry is taken out before the driver is asked; each step below is one of the operation.
  have hread : (get : AllocM σ (Desk σ)) desk = (.ok desk, desk) := rfl
  unfold free
  rw [Run.bind_apply, hread]
  dsimp only
  rw [hremove]
  dsimp only
  rw [Run.bind_apply]
  show (attempt (DeviceDriver.free address e.handle) >>= _ : AllocM σ _)
    { desk with holdings := { desk.holdings with plain := rest } } = _
  rw [Run.bind_apply, attempt_apply]
  dsimp only
  rcases DeviceDriver.free address e.handle desk.driver with ⟨err | _, driver⟩
  · rfl
  · show (onRegion _ >>= _ : AllocM σ _) _ = _
    rw [Run.bind_apply, onRegion_apply]
    dsimp only
    rcases m.removeUsage m.pid e.device e.length e.kind desk.seat with ⟨err | _, seat⟩ <;> rfl

theorem plain_free_of_none {desk : Desk σ}
    (hnone : desk.holdings.plain.remove? address = none) :
    (free m address desk).2.holdings.plain = desk.holdings.plain := by
  rw [free_apply_of_none hnone]
  rcases DeviceDriver.free address none desk.driver with ⟨err | _, driver⟩ <;> rfl

theorem plain_free_of_some {desk : Desk σ} {e : Allocation} {rest : Tracked}
    (hremove : desk.holdings.plain.remove? address = some (e, rest)) :
    (free m address desk).2.holdings.plain =
      if FreeOutcome.isFreed (free m address desk).1 then rest else rest.push e := by
  rw [free_apply_of_some hremove]
  rcases DeviceDriver.free address e.handle desk.driver with ⟨err | _, driver⟩
  · rfl
  · dsimp only
    rcases m.removeUsage m.pid e.device e.length e.kind desk.seat with ⟨err | _, seat⟩ <;> rfl

end Allocator

/-! ## Giving back -/

section GivingBack

variable {live : List Handout} {h : Holdings} {address : Address} {e : Allocation} {rest : Tracked}

theorem Holdings.takesBack_iff {o : Origin} {x : Handout} :
    h.takesBack address o x = true ↔ (x.address = address ∧ x.origin = o) ∧
      (o = .pooled ∨ ∀ e, h.plain.find? address = some e → e.length = x.size) := by
  simp [takesBack, Option.all_eq_true]

/-- Giving memory back to the pool leaves the other memory out. -/
theorem plainBlocks_eraseP_pooled :
    plainBlocks (live.eraseP (h.takesBack address .pooled)) = plainBlocks live := by
  rcases List.exists_or_eq_self_of_eraseP (h.takesBack address .pooled) live with
    heq | ⟨x, l₁, l₂, -, hx, hlive, heq⟩
  · rw [heq]
  · rw [heq, hlive, plainBlocks_insert_pooled (Holdings.takesBack_iff.1 hx).1.2]

/-- Of an address that is not tracked as plain nothing can go back. -/
theorem eraseP_of_remove?_eq_none (hlive : h.plain.blocks = plainBlocks live)
    (hnone : h.plain.remove? address = none) :
    live.eraseP (h.takesBack address .plain) = live := by
  refine List.eraseP_of_forall_not fun x hx hback => ?_
  obtain ⟨rfl, ho⟩ := (Holdings.takesBack_iff.1 hback).1
  have hblock : x.block ∈ h.plain.blocks := by
    rw [hlive]
    exact mem_plainBlocks.2 ⟨x, hx, ho, rfl⟩
  -- A plain handout that is outstanding would be tracked, and would have been found.
  obtain ⟨e, he, heq⟩ := List.mem_map.1 (Multiset.mem_coe.1 hblock)
  apply Tracked.remove?_eq_none_iff.1 hnone
  exact List.mem_map.2 ⟨e, he, congrArg Prod.fst heq⟩

/-- Otherwise the block goes back that is taken out. -/
theorem plainBlocks_eraseP_of_remove? (hlive : h.plain.blocks = plainBlocks live)
    (hremove : h.plain.remove? address = some (e, rest)) :
    plainBlocks (live.eraseP (h.takesBack address .plain)) = rest.blocks := by
  have haddress := Tracked.address_remove? hremove
  have hfind := Tracked.find?_of_remove? hremove
  have hblocks := (Tracked.blocks_remove? hremove).symm.trans hlive
  -- Some handout that is out has the block of the entry.
  obtain ⟨y, hy, hyo, hyblock⟩ :=
    mem_plainBlocks.1 (hblocks ▸ Multiset.mem_cons_self (e.address, e.length) rest.blocks)
  obtain ⟨hya, hys⟩ := Prod.mk.inj hyblock
  have hback : h.takesBack address .plain y = true := by
    refine Holdings.takesBack_iff.2 ⟨⟨hya.trans haddress, hyo⟩, .inr fun f hf => ?_⟩
    cases hfind.symm.trans hf
    exact hys.symm
  -- Whichever goes back has it, too.
  obtain ⟨x, l₁, l₂, -, hx, rfl, heq⟩ := List.exists_of_eraseP hy hback
  obtain ⟨⟨hxa, hxo⟩, hxs⟩ := Holdings.takesBack_iff.1 hx
  have hxblock : x.block = (e.address, e.length) := by
    rw [Handout.block, hxa, haddress, hxs.resolve_left (by decide) e hfind]
  rw [plainBlocks_insert hxo, hxblock, Multiset.cons_inj_right] at hblocks
  rw [heq, hblocks]

end GivingBack

/-! ## Whole operations -/

namespace AllocCall

variable {σ : Type} (m : Member) {desk : Desk σ} {live : List Handout}

/-- An operation that tracks what it puts out tracks as much as is out. -/
private theorem plain_run_of_acquiring {α : Type} {op : AllocM σ α} {handout : α → Handout}
    (hdesk : desk.holdings.plain.blocks = plainBlocks live)
    (hplain : ∀ a, (handout a).origin = .plain)
    (htriple : Triple (Desk.Spans (plainBlocks live)) op
      (fun a => Desk.Spans ((handout a).block ::ₘ plainBlocks live))
      (Desk.Spans (plainBlocks live))) :
    (op desk).2.holdings.plain.blocks =
      plainBlocks (live ++ ((op desk).1.toOption.map handout).toList) := by
  have hrun := htriple desk hdesk
  generalize op desk = run at hrun ⊢
  obtain ⟨e | a, after⟩ := run
  · -- A refused operation hands nothing out.
    exact hrun.trans (congrArg plainBlocks (List.append_nil live).symm)
  · have hnew : plainBlocks (live ++ [handout a]) = _ := plainBlocks_insert (hplain a)
    rw [List.append_nil] at hnew
    exact hrun.trans hnew.symm

variable [DeviceDriver σ]

/-- An operation moves the tracked blocks as it moves what is out. -/
theorem plain_run (call : AllocCall) (hdesk : desk.holdings.plain.blocks = plainBlocks live) :
    (call.run m desk).holdings.plain.blocks = plainBlocks (call.outstanding m desk live) := by
  cases call with
  | allocate size =>
    exact plain_run_of_acquiring hdesk (fun _ => rfl) (Allocator.spans_allocateAs m size .data)
  | allocateAs size kind =>
    exact plain_run_of_acquiring hdesk (fun _ => rfl) (Allocator.spans_allocateAs m size kind)
  | allocateAsync size stream =>
    -- What comes from the pool is tracked elsewhere.
    have hsame : plainBlocks ((allocateAsync size stream).outstanding m desk live) =
        plainBlocks live := by
      show plainBlocks (live ++ (Option.map _ _).toList) = _
      cases (Allocator.allocateAsync m size stream desk).1.toOption with
      | none => exact congrArg plainBlocks (List.append_nil live)
      | some p =>
        exact (plainBlocks_insert_pooled rfl).trans (congrArg plainBlocks (List.append_nil live))
    rw [hsame]
    exact (Allocator.endures_spans m).allocateAsync size (fun _ _ h => h) (fun _ _ h => h) stream
      desk hdesk
  | free address =>
    show (Allocator.free m address desk).2.holdings.plain.blocks = plainBlocks
      (if FreeOutcome.isFreed (Allocator.free m address desk).1 then _ else _)
    cases hremove : desk.holdings.plain.remove? address with
    | none =>
      rw [Allocator.plain_free_of_none hremove, hdesk, eraseP_of_remove?_eq_none hdesk hremove,
        ite_self]
    | some found =>
      obtain ⟨e, rest⟩ := found
      rw [Allocator.plain_free_of_some hremove]
      -- The entry comes back exactly if the pointer stays out.
      split
      next => exact (plainBlocks_eraseP_of_remove? hdesk hremove).symm
      next => rw [Tracked.blocks_push, ← Tracked.blocks_remove? hremove, hdesk]
  | freeAsync address stream =>
    have hsame : plainBlocks ((freeAsync address stream).outstanding m desk live) =
        plainBlocks live := by
      show plainBlocks (if _ then _ else _) = _
      split
      next => exact plainBlocks_eraseP_pooled
      next => rfl
    rw [hsame]
    exact (Allocator.endures_spans m).freeAsync (fun _ _ h => h) (fun _ _ h => h) address stream
      desk hdesk
  | registerExternal address size =>
    exact plain_run_of_acquiring hdesk (fun _ => rfl)
      (Allocator.spans_registerExternal m size address)

end AllocCall

/-! ## Classification -/

namespace Desk.Outstanding

variable {σ : Type} [DeviceDriver σ] {live : List Handout} {desk : Desk σ}

/-- The blocks that are tracked as plain are those that are out. -/
theorem plain_blocks (h : desk.Outstanding live) :
    desk.holdings.plain.blocks = plainBlocks live := by
  induction h with
  | fresh seat driver => rfl
  | call _ m call ih => exact call.plain_run m ih
  | others _ seat driver ih => exact ih

/-- An address counts as device memory just if it lies in memory that was allocated or taken in and
is still out. Memory from the pool is passed over, so the answer for an address in it is right only
where it overlaps with such memory. -/
theorem isDeviceMemory_iff (h : desk.Outstanding live) (a : Address) :
    (desk.holdings.isDeviceMemory a = true ↔ ∃ x ∈ live, x.origin = .plain ∧ x.Covers a) ∧
      ((desk.holdings.isDeviceMemory a = true ↔ ∃ x ∈ live, x.Covers a) ↔
        ∀ x ∈ live, x.origin = .pooled → x.Covers a →
          ∃ y ∈ live, y.origin = .plain ∧ y.Covers a) := by
  have hplain : desk.holdings.isDeviceMemory a = true ↔
      ∃ x ∈ live, x.origin = .plain ∧ x.Covers a := by
    rw [Holdings.isDeviceMemory, Tracked.covers_iff, h.plain_blocks]
    constructor
    · rintro ⟨b, hb, hba⟩
      obtain ⟨x, hx, ho, rfl⟩ := mem_plainBlocks.1 hb
      exact ⟨x, hx, ho, hba⟩
    · rintro ⟨x, hx, ho, hxa⟩
      exact ⟨x.block, mem_plainBlocks.2 ⟨x, hx, ho, rfl⟩, hxa⟩
  refine ⟨hplain, ?_⟩
  rw [hplain]
  constructor
  · intro hall x hx _ hxa
    exact hall.2 ⟨x, hx, hxa⟩
  · intro hpool
    -- Plain memory always counts, so only memory from the pool needs a substitute.
    refine ⟨fun ⟨x, hx, _, hxa⟩ => ⟨x, hx, hxa⟩, ?_⟩
    rintro ⟨x, hx, hxa⟩
    cases ho : x.origin with
    | plain => exact ⟨x, hx, ho, hxa⟩
    | pooled => exact hpool x hx ho hxa

/-- Memory was allocated, other memory was taken in, and the former was freed again. -/
theorem isDeviceMemory_iff_of_free :
    ∃ (live : List Handout) (desk : Desk SimulatedDevice), desk.Outstanding live ∧
      live = [⟨1048576, .plain, 8192⟩] ∧
      (desk.holdings.isDeviceMemory 1056767 = true ↔
        ∃ x ∈ live, x.origin = .plain ∧ x.Covers 1056767) ∧
      ((desk.holdings.isDeviceMemory 1056767 = true ↔ ∃ x ∈ live, x.Covers 1056767) ↔
        ∀ x ∈ live, x.origin = .pooled → x.Covers 1056767 →
          ∃ y ∈ live, y.origin = .plain ∧ y.Covers 1056767) := by
  let m : Member := ⟨7, .standard, fun _ => true⟩
  let seat : Seat := (m.registerSelf { region := Region.zero.setUp .standard 0 }).2
  let start : Desk SimulatedDevice := ⟨seat, {}, {}⟩
  have hfreed := (((Outstanding.fresh seat ({} : SimulatedDevice)).call m (.allocate 4096)).call m
    (.registerExternal 1048576 8192)).call m (.free start.driver.nextAddress)
  -- Of what the three calls have handed out only the memory from elsewhere is left.
  generalize hlive : AllocCall.outstanding (σ := SimulatedDevice) m (.free _) _ _ = live at hfreed
  refine ⟨live, _, hfreed, ?_, hfreed.isDeviceMemory_iff 1056767⟩
  rw [← hlive]
  decide +kernel

/-- Memory from the pool that is in use does not count as device memory. -/
theorem not_isDeviceMemory_of_pooled :
    ∃ (x : Handout) (live : List Handout) (desk : Desk SimulatedDevice),
      desk.Outstanding live ∧ x ∈ live ∧ x.Covers x.address ∧
        x.address ∈ desk.driver.addresses ∧ x.address ∈ desk.holdings.addresses .pooled ∧
        desk.holdings.isDeviceMemory x.address = false := by
  let m : Member := ⟨7, .standard, fun _ => true⟩
  let seat : Seat := (m.registerSelf { region := Region.zero.setUp .standard 0 }).2
  let start : Desk SimulatedDevice := ⟨seat, {}, {}⟩
  -- One allocation from the pool, of which the pointer is looked at.
  have hgiven := (Outstanding.fresh seat ({} : SimulatedDevice)).call m (.allocateAsync 4096 0)
  exact ⟨⟨start.driver.nextAddress, .pooled, 4096⟩, _, _, hgiven, by decide +kernel⟩

end Desk.Outstanding

end GpuQuota
