import GpuQuota.Proofs.Allocation.Handout
import Mathlib.Algebra.Order.BigOperators.Group.Finset

/-!
# Accounts of the pool

The allocators on one device share its pool, and each remembers only how much of it is paid for.
What a request is charged is found by comparing that with what the pool has reserved. As long as
pointers are given back as they were handed out, the comparison never comes out too low: the pool
has always reserved what all allocators have paid for, so each request is charged in full.

The module introduces:

* `Tracked.chargePool_of_le` — when a request is charged in full.
* `Session.Matched` — pointers are given back where and as they were handed out.
* `Session.Paid` — what the allocators track of the pool is paid for, and in use on the device.
* `AllocCall.Outcome.paid` — no operation breaks that; `Session.Dealings.paid`.
* `Session.PoolExact` — the marks of all allocators make up what the pool has in use.
* `Session.pool_exact` — so it is at every point of matched dealings, and the next request that
  succeeds is charged in full.
-/

namespace GpuQuota

/-! ## Blocks of the pool -/

namespace Tracked

variable (t : Tracked)

/-- The blocks of memory that the entries stand for. -/
def blocks : Multiset (Address × UInt64) := t.entries.map fun a => (a.address, a.length)

theorem blocks_push (a : Allocation) : (t.push a).blocks = (a.address, a.length) ::ₘ t.blocks := by
  rw [blocks, push, List.map_append, ← Multiset.coe_add, add_comm]
  rfl

variable {t} {t' : Tracked}

theorem blocks_of_perm (h : t'.entries.Perm t.entries) : t'.blocks = t.blocks :=
  Multiset.coe_eq_coe.2 (h.map _)

theorem blocks_remove? {rest : Tracked} {address : Address} {a : Allocation}
    (h : t.remove? address = some (a, rest)) :
    t.blocks = (a.address, a.length) ::ₘ rest.blocks :=
  Multiset.coe_eq_coe.2 ((perm_remove? h).1.map _)

/-- A request is charged in full if the pool has reserved enough beyond the watermark. -/
theorem chargePool_of_le {reserved size : UInt64}
    (h : t.watermark.toNat + size.toNat ≤ reserved.toNat) :
    t.chargePool reserved size = (size, { t with watermark := satAdd t.watermark size }) := by
  have hcharged : (if t.watermark < reserved then min (reserved - t.watermark) size else 0) =
      size := by
    rw [← UInt64.toNat_inj]
    split
    next hlt =>
      have hle := UInt64.le_of_lt hlt
      rw [toNat_min, UInt64.toNat_sub_of_le _ _ hle, Nat.min_eq_right (by omega)]
    next hge =>
      -- Then nothing was asked for.
      have hle := UInt64.le_iff_toNat_le.1 (UInt64.not_lt.1 hge)
      rw [UInt64.toNat_zero]
      omega
  rw [chargePool, hcharged]

/-- What is charged in full is tracked in full. -/
theorem pushPool_of_le {reserved size : UInt64} (address : Address) (device : Nat)
    (h : t.watermark.toNat + size.toNat ≤ reserved.toNat) :
    t.pushPool reserved size address device =
      ({ t with watermark := satAdd t.watermark size } : Tracked).push
        ⟨address, size, device, .data, none⟩ := by
  rw [pushPool, chargePool_of_le h]

end Tracked

namespace Session

variable {ι : Type}

/-- A pointer that was handed out is given back only to the allocator that it came from, and in the
way in which it was handed out. -/
def Matched (given : List (ι × Handout)) (j : ι) (call : AllocCall) : Prop :=
  ∀ p o, call.returns = some (p, o) → ∀ x ∈ given, x.2.address = p → x.1 = j ∧ x.2.origin = o

/-- What is in use and given back is tracked in the list that belongs to the call. -/
theorem Accounted.mem_of_matched {given : List (ι × Handout)} {holdings : ι → Holdings}
    {d : SimulatedDevice} {j : ι} {call : AllocCall} {p : Address} {o : Origin}
    (h : Accounted given holdings d) (hmatched : Matched given j call)
    (hcall : call.returns = some (p, o)) (hp : p ∈ d.addresses) :
    p ∈ (holdings j).addresses o := by
  obtain ⟨x, hx, rfl⟩ := h.given_of_live p hp
  have htracked := h.tracked_of_live x hx hp
  obtain ⟨hj, ho⟩ := hmatched _ _ hcall x hx rfl
  rwa [hj, ho] at htracked

/-! ## What is paid for -/

variable [Fintype ι]

/-- The blocks of the pool that the allocators track. -/
def poolBlocks (holdings : ι → Holdings) : Multiset (Address × UInt64) :=
  ∑ j, (holdings j).pooled.blocks

/-- In the blocks of all allocators those of one stand apart. -/
theorem poolBlocks_eq_add [DecidableEq ι] (holdings : ι → Holdings) (j : ι) :
    poolBlocks holdings =
      (holdings j).pooled.blocks + ∑ k ∈ Finset.univ.erase j, (holdings k).pooled.blocks :=
  (Finset.add_sum_erase _ _ (Finset.mem_univ j)).symm

theorem poolBlocks_update [DecidableEq ι] (holdings : ι → Holdings) (j : ι) (h' : Holdings) :
    poolBlocks (Function.update holdings j h') =
      h'.pooled.blocks + ∑ k ∈ Finset.univ.erase j, (holdings k).pooled.blocks :=
  Holdings.sum_update (·.pooled.blocks) holdings j h'

/-- What the allocators track of the pool is paid for, and in use on the device. -/
structure Paid (given : List (ι × Handout)) (holdings : ι → Holdings) (d : SimulatedDevice) :
    Prop where
  /-- What is tracked is what was asked for. -/
  requested : ∀ j, ∀ b ∈ (holdings j).pooled.blocks, (j, ⟨b.1, .pooled, b.2⟩) ∈ given
  poolBlocks_le : poolBlocks holdings ≤ d.live
  watermark_eq : ∀ j, (holdings j).pooled.watermark.toNat = bytes (holdings j).pooled.blocks
  poolUsed_eq : d.poolUsed.toNat = bytes (poolBlocks holdings)
  poolUsed_le : d.poolUsed.toNat ≤ d.poolReserved.toNat

namespace Paid

variable {given given' : List (ι × Handout)} {holdings holdings' : ι → Holdings}
  {d d' : SimulatedDevice} (h : Paid given holdings d)

include h

/-- The pool is part of what is in use. -/
theorem poolUsed_le_used (hd : d.Sound) : d.poolUsed.toNat ≤ d.used.toNat := by
  rw [h.poolUsed_eq, hd.used_eq]
  exact bytes_mono h.poolBlocks_le

/-- No allocator has paid for more than the pool has in use. -/
theorem watermark_le (j : ι) : (holdings j).pooled.watermark.toNat ≤ d.poolUsed.toNat := by
  rw [h.watermark_eq, h.poolUsed_eq]
  exact bytes_mono (Finset.single_le_sum (fun _ _ => Multiset.zero_le _) (Finset.mem_univ j))

/-- The same is tracked of the pool, and the pool has as much in use. -/
theorem keep (hgiven : given ⊆ given')
    (hblocks : ∀ k, (holdings' k).pooled.blocks = (holdings k).pooled.blocks)
    (hmark : ∀ k, (holdings' k).pooled.watermark = (holdings k).pooled.watermark)
    (hlive : poolBlocks holdings ≤ d'.live) (hused : d'.poolUsed = d.poolUsed)
    (hreserved : d.poolReserved.toNat ≤ d'.poolReserved.toNat) : Paid given' holdings' d' := by
  -- The blocks of all pools together are the same because each pool has its own.
  have hall : poolBlocks holdings' = poolBlocks holdings :=
    Finset.sum_congr rfl fun k _ => hblocks k
  refine ⟨fun j b hb => ?_, ?_, fun j => ?_, ?_, ?_⟩
  · rw [hblocks] at hb
    exact hgiven (h.requested j b hb)
  · rwa [hall]
  · rw [hmark, hblocks, h.watermark_eq]
  · rw [hused, hall, h.poolUsed_eq]
  · rw [hused]
    exact h.poolUsed_le.trans hreserved

/-- The count of the pool is not cut off when the pool grows. -/
theorem toNat_poolUsed (hd : d.Sound) {size : UInt64} (hcarved : d.Carved size d')
    (hgrown : d.PoolGrown size d') : d'.poolUsed.toNat = d.poolUsed.toNat + size.toNat := by
  have hle := h.poolUsed_le_used hd
  have hused := hcarved.toNat_used hd
  have hword := d'.used.toNat_lt
  rw [hgrown.poolUsed_eq, UInt64.toNat_add, Nat.mod_eq_of_lt (by omega)]

/-- The pool has reserved enough to charge any allocator in full for a new block. -/
theorem watermark_add_le (hd : d.Sound) {size : UInt64} (hcarved : d.Carved size d')
    (hgrown : d.PoolGrown size d') (j : ι) :
    (holdings j).pooled.watermark.toNat + size.toNat ≤ d'.poolReserved.toNat :=
  calc (holdings j).pooled.watermark.toNat + size.toNat
    _ ≤ d.poolUsed.toNat + size.toNat := Nat.add_le_add_right (h.watermark_le j) _
    _ = d'.poolUsed.toNat := (h.toNat_poolUsed hd hcarved hgrown).symm
    _ ≤ d'.poolReserved.toNat := hgrown.poolUsed_le

variable [DecidableEq ι] {j : ι} {h' : Holdings} {address : Address} {size : UInt64}

/-- One allocator moves nothing that it tracks of the pool. -/
theorem keep_update (hgiven : given ⊆ given')
    (hblocks : h'.pooled.blocks = (holdings j).pooled.blocks)
    (hmark : h'.pooled.watermark = (holdings j).pooled.watermark)
    (hlive : poolBlocks holdings ≤ d'.live) (hused : d'.poolUsed = d.poolUsed)
    (hreserved : d.poolReserved.toNat ≤ d'.poolReserved.toNat) :
    Paid given' (Function.update holdings j h') d' := by
  refine h.keep hgiven ?_ ?_ hlive hused hreserved
  · exact (Function.forall_update_iff holdings fun k (h : Holdings) =>
      h.pooled.blocks = (holdings k).pooled.blocks).2 ⟨hblocks, fun _ _ => rfl⟩
  · exact (Function.forall_update_iff holdings fun k (h : Holdings) =>
      h.pooled.watermark = (holdings k).pooled.watermark).2 ⟨hmark, fun _ _ => rfl⟩

/-- A block is taken from the pool, tracked and paid for in full. -/
theorem grant (hblocks : h'.pooled.blocks = (address, size) ::ₘ (holdings j).pooled.blocks)
    (hmark : h'.pooled.watermark.toNat = (holdings j).pooled.watermark.toNat + size.toNat)
    (hlive : d'.live = (address, size) :: d.live)
    (hused : d'.poolUsed.toNat = d.poolUsed.toNat + size.toNat)
    (hreserved : d'.poolUsed.toNat ≤ d'.poolReserved.toNat) :
    Paid (given ++ [(j, ⟨address, .pooled, size⟩)]) (Function.update holdings j h') d' := by
  have hall : poolBlocks (Function.update holdings j h') =
      (address, size) ::ₘ poolBlocks holdings := by
    rw [poolBlocks_update, poolBlocks_eq_add holdings j, hblocks, Multiset.cons_add]
  refine ⟨?_, ?_, ?_, ?_, hreserved⟩
  · refine (Function.forall_update_iff holdings fun k (h : Holdings) => ∀ b ∈ h.pooled.blocks,
      (k, ⟨b.1, .pooled, b.2⟩) ∈ given ++ [(j, ⟨address, .pooled, size⟩)]).2
        ⟨fun b hb => ?_, fun k _ b hb => List.mem_append_left _ (h.requested k b hb)⟩
    -- The new block is what was asked for, and the others were before.
    rw [hblocks, Multiset.mem_cons] at hb
    rcases hb with rfl | hold
    · exact List.mem_append_right _ (List.mem_singleton_self _)
    · exact List.mem_append_left _ (h.requested j b hold)
  · rw [hall, hlive, ← Multiset.cons_coe]
    exact Multiset.cons_le_cons _ h.poolBlocks_le
  · refine (Function.forall_update_iff holdings fun _ (h : Holdings) =>
      h.pooled.watermark.toNat = bytes h.pooled.blocks).2 ⟨?_, fun k _ => h.watermark_eq k⟩
    rw [hblocks, bytes_cons, hmark, h.watermark_eq, Nat.add_comm]
  · rw [hall, bytes_cons, hused, h.poolUsed_eq, Nat.add_comm]

/-- A block that was paid for goes back to the pool. -/
theorem drop (hblocks : (holdings j).pooled.blocks = (address, size) ::ₘ h'.pooled.blocks)
    (hmark : h'.pooled.watermark.toNat = (holdings j).pooled.watermark.toNat - size.toNat)
    (hlive : d.live.Perm ((address, size) :: d'.live))
    (hused : d'.poolUsed.toNat = d.poolUsed.toNat - size.toNat)
    (hreserved : d'.poolReserved = d.poolReserved) :
    Paid given (Function.update holdings j h') d' := by
  -- Of all blocks in the pools just the one given back is missing.
  have hall : poolBlocks holdings =
      (address, size) ::ₘ poolBlocks (Function.update holdings j h') := by
    rw [poolBlocks_update, poolBlocks_eq_add holdings j, hblocks, Multiset.cons_add]
  refine ⟨?_, ?_, ?_, ?_, ?_⟩
  · refine (Function.forall_update_iff holdings fun k (h : Holdings) => ∀ b ∈ h.pooled.blocks,
      (k, ⟨b.1, .pooled, b.2⟩) ∈ given).2 ⟨fun b hb => ?_, fun k _ => h.requested k⟩
    exact h.requested j b (hblocks ▸ Multiset.mem_cons_of_mem hb)
  · have hle := h.poolBlocks_le
    rwa [hall, Multiset.coe_eq_coe.2 hlive, ← Multiset.cons_coe, Multiset.cons_le_cons_iff] at hle
  · refine (Function.forall_update_iff holdings fun _ (h : Holdings) =>
      h.pooled.watermark.toNat = bytes h.pooled.blocks).2 ⟨?_, fun k _ => h.watermark_eq k⟩
    rw [hmark, h.watermark_eq, hblocks, bytes_cons, Nat.add_sub_cancel_left]
  · rw [hused, h.poolUsed_eq, hall, bytes_cons, Nat.add_sub_cancel_left]
  · have hle := h.poolUsed_le
    rw [hreserved]
    omega

end Paid

end Session

/-! ## One operation -/

/-- A request to the pool that succeeds hands out what was asked for. -/
theorem AllocCall.handout_of_allocateAsync {σ : Type} [DeviceDriver σ] {m : Member} {size : UInt64}
    {stream : Stream} {desk : Desk σ} (hok : (allocateAsync size stream).succeeds m desk = true) :
    ∃ address, (allocateAsync size stream).handout m desk = some ⟨address, .pooled, size⟩ := by
  rw [succeeds] at hok
  rw [handout]
  cases hrun : (Allocator.allocateAsync m size stream desk).1 with
  | error e =>
    rw [hrun] at hok
    cases hok
  | ok address => exact ⟨address, rfl⟩

namespace AllocCall.Outcome

variable {ι : Type} [Fintype ι] {given : List (ι × Handout)}
  {holdings : ι → Holdings} {j : ι} {h h' : Holdings} {d d' : SimulatedDevice} {call : AllocCall}
  {ok : Bool} {x : Option Handout}

/-- Memory of the pool that is handed out is charged with all that was asked for. -/
theorem charged_of_pooled {address : Address} {size : UInt64}
    (hout : Outcome (holdings j) d call ok (some ⟨address, .pooled, size⟩) h' d') (hd : d.Sound)
    (hpaid : Session.Paid given holdings d) :
    h'.charged = (holdings j).charged + due d.current .data size := by
  cases hout with
  | grantedPooled hcarved hgrown =>
    rw [Tracked.pushPool_of_le _ _ (hpaid.watermark_add_le hd hcarved hgrown j), Holdings.charged,
      Tracked.charged_push, ← add_assoc]
    rfl

variable [DecidableEq ι]

/-- No operation on memory of the device breaks that what is tracked of the pool is paid for, if it
gives pointers back only where and as they were handed out. -/
theorem paid (hout : Outcome (holdings j) d call ok x h' d')
    (hcall : ∀ address size, call ≠ .registerExternal address size)
    (hmatched : Session.Matched given j call) (hacc : Session.Accounted given holdings d)
    (hd : d.Sound) (hleft : d'.nextAddress.toNat < wordMax)
    (hpaid : Session.Paid given holdings d) :
    Session.Paid (given ++ x.toList.map (j, ·)) (Function.update holdings j h') d' := by
  have hgiven := List.subset_append_left given (x.toList.map (j, ·))
  cases hout with
  | refused _ hpooled hwatermark hmemory =>
    refine hpaid.keep_update hgiven (Tracked.blocks_of_perm hpooled) hwatermark ?_
      hmemory.poolUsed_eq (by rw [hmemory.poolReserved_eq])
    rw [hmemory.live_eq]
    exact hpaid.poolBlocks_le
  | granted hcarved hpool =>
    refine hpaid.keep_update hgiven rfl rfl ?_ hpool.poolUsed_eq (by rw [hpool.poolReserved_eq])
    rw [hcarved.live_eq_cons hd, ← Multiset.cons_coe]
    exact hpaid.poolBlocks_le.trans (Multiset.le_cons_self _ _)
  | @grantedPooled size _ hcarved hgrown =>
    -- By then the pool has reserved the new block besides all that is paid for.
    have hfits := hpaid.watermark_add_le hd hcarved hgrown j
    have hmark : (satAdd (holdings j).pooled.watermark size).toNat =
        (holdings j).pooled.watermark.toNat + size.toNat := by
      have hword := d'.poolReserved.toNat_lt
      rw [toNat_satAdd, wordMax]
      omega
    rw [Tracked.pushPool_of_le _ _ hfits]
    exact hpaid.grant (Tracked.blocks_push _ _) hmark (hcarved.live_eq_cons hd)
      (hpaid.toNat_poolUsed hd hcarved hgrown) hgrown.poolUsed_le
  | @unpaid size d₁ _ hcarved hgrown hreleased hshrunk =>
    -- The block was taken and given back, and only the reserve of the pool may have grown.
    have hd₁ := hd.carved hcarved (hreleased.nextAddress_eq ▸ hleft)
    have hlive : d.live.Perm d'.live := by
      have hperm := hreleased.perm hd₁
      rw [hcarved.live_eq_cons hd] at hperm
      exact hperm.cons_inv
    have hused : d'.poolUsed = d.poolUsed := by
      rw [← UInt64.toNat_inj, hshrunk.poolUsed_eq, toNat_satSub,
        hpaid.toNat_poolUsed hd hcarved hgrown, Nat.add_sub_cancel]
    refine hpaid.keep_update hgiven rfl rfl ?_ hused ?_
    · rw [← Multiset.coe_eq_coe.2 hlive]
      exact hpaid.poolBlocks_le
    · rw [hshrunk.poolReserved_eq]
      exact hgrown.poolReserved_le
  | @freed _ address _ rest length _ hreturns _ hreleased hpool =>
    -- What was handed out as plain memory is no block of the pool.
    have hnone : (address, length) ∉ Session.poolBlocks holdings := by
      intro hmem
      obtain ⟨k, -, hk⟩ := Multiset.mem_sum.1 hmem
      cases (hmatched _ _ hreturns _ (hpaid.requested k _ hk) rfl).2
    refine hpaid.keep_update hgiven rfl rfl ?_ hpool.poolUsed_eq (by rw [hpool.poolReserved_eq])
    have hle := hpaid.poolBlocks_le
    rwa [Multiset.coe_eq_coe.2 (hreleased.perm hd), ← Multiset.cons_coe,
      Multiset.le_cons_of_notMem hnone] at hle
  | @freedPooled _ address a rest length _ hreturns hremove hreleased hshrunk =>
    rw [Option.toList_none, List.map_nil, List.append_nil]
    obtain rfl := Tracked.address_remove? hremove
    have hblocks := Tracked.blocks_remove? hremove
    obtain ⟨-, hrest⟩ := Tracked.perm_remove? hremove
    -- The block is in use, so the device gives back just what was paid for.
    have hmem : (a.address, a.length) ∈ d.live := by
      refine Multiset.mem_coe.1 (Multiset.mem_of_le hpaid.poolBlocks_le ?_)
      refine Multiset.mem_sum.2 ⟨j, Finset.mem_univ j, ?_⟩
      rw [hblocks]
      exact Multiset.mem_cons_self _ _
    obtain rfl := hreleased.length_eq hd hmem
    refine hpaid.drop hblocks ?_ (hreleased.perm hd) ?_ hshrunk.poolReserved_eq
    · rw [Tracked.releasePool, toNat_satSub, hrest]
    · rw [hshrunk.poolUsed_eq, toNat_satSub]
  -- In matched dealings what is in use is tracked where it is given back.
  | untracked hreturns hnone hreleased _ =>
    exact absurd (hacc.mem_of_matched hmatched hreturns hreleased.mem)
      (Tracked.remove?_eq_none_iff.1 hnone)
  | untrackedPooled hreturns hnone hreleased _ =>
    exact absurd (hacc.mem_of_matched hmatched hreturns hreleased.mem)
      (Tracked.remove?_eq_none_iff.1 hnone)
  | takenIn heq => exact absurd heq (hcall _ _)

end AllocCall.Outcome

/-! ## Dealings -/

namespace Session

variable {ι : Type} [Fintype ι] {given : List (ι × Handout)} {start s : Session SimulatedDevice ι}

/-- The marks of all allocators make up what the pool has in use, each of them stands for what its
allocator tracks of the pool, and that is what was asked for. -/
structure PoolExact (given : List (ι × Handout)) (s : Session SimulatedDevice ι) : Prop where
  watermark_eq : ∀ j, (s.holdings j).pooled.watermark.toNat =
    ((s.holdings j).pooled.entries.map (·.length.toNat)).sum
  /-- There is just one handout at the address of an entry, and it was as long as the entry. -/
  handout_iff : ∀ j, ∀ a ∈ (s.holdings j).pooled.entries, ∀ x,
    x ∈ given ∧ x.2.address = a.address ↔ x = (j, ⟨a.address, .pooled, a.length⟩)
  sum_watermark : ∑ j, (s.holdings j).pooled.watermark.toNat = s.driver.poolUsed.toNat
  poolUsed_le : s.driver.poolUsed ≤ s.driver.poolReserved

/-- Where all that is tracked is paid for and each address was handed out once, the accounts of the
pool are exact. -/
theorem Paid.poolExact (hpaid : Paid given s.holdings s.driver)
    (hacc : Accounted given s.holdings s.driver) : PoolExact given s where
  watermark_eq j := by
    rw [hpaid.watermark_eq, Tracked.blocks, bytes_coe, List.map_map]
    rfl
  handout_iff j a ha x := by
    have hgiven := hpaid.requested j (a.address, a.length)
      (Multiset.mem_coe.2 (List.mem_map_of_mem ha))
    constructor
    · -- No address is handed out twice, so the address tells which handout it was.
      rintro ⟨hx, haddress⟩
      exact hacc.unique hx hgiven haddress
    · rintro rfl
      exact ⟨hgiven, rfl⟩
  sum_watermark := by
    rw [hpaid.poolUsed_eq, poolBlocks, map_sum]
    exact Finset.sum_congr rfl fun j _ => hpaid.watermark_eq j
  poolUsed_le := UInt64.le_iff_toNat_le.2 hpaid.poolUsed_le

variable [DecidableEq ι]

/-- What the allocators track of the pool is paid for at every point of matched dealings. -/
theorem Dealings.paid (hrun : Dealings Matched start given s) (hstart : start.Unused)
    (hcapacity : start.driver.capacity.toNat < wordMax)
    (hleft : s.driver.nextAddress.toNat < wordMax) : Paid given s.holdings s.driver := by
  -- By induction on the dealings; that the blocks are accounted for carries the steps.
  induction hrun with
  | start =>
    have hnone : ∀ j, (start.holdings j).pooled.blocks = 0 := by
      intro j
      rw [hstart.holdings_eq]
      rfl
    have hall : poolBlocks start.holdings = 0 := Finset.sum_eq_zero fun j _ => hnone j
    refine ⟨fun j b hb => ?_, ?_, fun j => ?_, ?_, ?_⟩
    · rw [hnone] at hb
      exact absurd hb (Multiset.notMem_zero _)
    · rw [hall]
      exact Multiset.zero_le _
    · rw [hnone, hstart.holdings_eq]
      rfl
    · rw [hall, hstart.poolUsed_eq]
      rfl
    · rw [hstart.poolUsed_eq]
      exact Nat.zero_le _
  | @call _ s hrun j m remembered expired call hcall hmatched ih =>
    have hout := s.outcome j m remembered expired call
    have hbefore := hout.nextAddress_le.trans_lt hleft
    exact hout.paid hcall hmatched (hrun.accounted hstart hbefore)
      (hrun.sound hstart hcapacity hbefore) hleft (ih hbefore)
  | others _ r d hsame ih =>
    rw [hsame.nextAddress_eq] at hleft
    have hpaid := ih hleft
    refine hpaid.keep (List.Subset.refl _) (fun _ => rfl) (fun _ => rfl) ?_ hsame.poolUsed_eq
      (by rw [hsame.poolReserved_eq])
    rw [hsame.live_eq]
    exact hpaid.poolBlocks_le

/-- Any number of allocators deal with one device, and give pointers back only where and as they
were handed out. As long as the device has addresses left, the accounts of its pool are exact, and
the next request to the pool that succeeds is charged in full to whoever makes it, whether or not
the pool had reserved the memory before. -/
theorem pool_exact (hstart : start.Unused) (hcapacity : start.driver.capacity.toNat < wordMax)
    (hrun : Dealings Matched start given s) (hleft : s.driver.nextAddress.toNat < wordMax) :
    PoolExact given s ∧
    ∀ j (m : Member) remembered expired size stream,
      let request : AllocCall := .allocateAsync size stream
      request.succeeds m (s.desk j remembered expired) = true →
      ∀ i drift owed, s.region.Books m.pid i drift owed →
        (s.serve j m remembered expired request).region.Books m.pid i drift
          (owed + due s.driver.current .data size) := by
  have hpaid := hrun.paid hstart hcapacity hleft
  refine ⟨hpaid.poolExact (hrun.accounted hstart hleft), ?_⟩
  intro j m remembered expired size stream request hok i drift owed hbooks
  obtain ⟨address, hgiven⟩ := AllocCall.handout_of_allocateAsync hok
  have hout := s.outcome j m remembered expired request
  rw [hgiven] at hout
  -- The charge is what the allocator tracks more than before.
  have hcharged := hout.charged_of_pooled (hrun.sound hstart hcapacity hleft) hpaid
  have hmoved := s.books_serve j remembered expired request hbooks
  have howed : owed - (s.holdings j).charged +
      ((s.holdings j).charged + due s.driver.current .data size) =
        owed + due s.driver.current .data size := by
    abel
  rwa [hcharged, howed] at hmoved

/-- Two allocators of a process share a device. One gives back what it had of the pool, the other
takes less of it, and the next request is charged in full although the pool has reserved enough for
it already. -/
theorem pool_exact_of_reuse :
    ∃ (start s : Session SimulatedDevice Bool) (given : List (Bool × Handout)) (m : Member)
      (i : Fin maxProcesses) (drift : DeviceIndex → UInt64) (owed : Amounts),
      start.Unused ∧ Dealings Matched start given s ∧ PoolExact given s ∧
      s.driver.poolUsed + 4096 ≤ s.driver.poolReserved ∧ s.region.Books m.pid i drift owed ∧
      (s.serve true m none 0 (.allocateAsync 4096 0)).region.Books m.pid i drift
        (owed + due 0 .data 4096) := by
  let process : Handle := { pid := 7, pid_ne_zero := by decide, settings := .standard }
  let m : Member := process.member fun _ => true
  let r := (RegionCall.registerSelf.run m (process.seat (Region.zero.setUp .standard 0))).region
  let i : Fin maxProcesses := ⟨0, by decide⟩
  let start : Session SimulatedDevice Bool := ⟨r, fun _ => {}, {}⟩
  let s₁ := start.serve true m none 0 (.allocateAsync 16384 0)
  let s₂ := s₁.serve true m none 0 (.freeAsync simulatedBase 0)
  let s := s₂.serve false m none 0 (.allocateAsync 8192 0)
  have hreach := ((Population.Reachable.fresh .standard 0).step (.attach _ [] process)).step
    (.operate _ [] [] process (fun _ => true) .registerSelf)
  have hslot : (r.slotAt i).pid = 7 := by decide +kernel
  have howns : r.Owns (r.slotAt i).pid i :=
    hreach.consistent.owns (by rw [hslot]; decide)
  rw [hslot] at howns
  have hbooks : start.region.Books m.pid i (fun d => (r.usageAt i d).drift)
      (fun d kind => (r.usageAt i d).get kind) :=
    ⟨howns, fun _ _ => rfl, fun _ => rfl⟩
  -- The books follow the region through all three calls, and the dealings what was handed out.
  have hbooks₁ := start.books_serve true none 0 (.allocateAsync 16384 0) hbooks
  have hbooks₂ := s₁.books_serve true none 0 (.freeAsync simulatedBase 0) hbooks₁
  have hbooks₃ := s₂.books_serve false none 0 (.allocateAsync 8192 0) hbooks₂
  have h₀ : Dealings Matched start [] start := .start
  have h₁ := h₀.call true m none 0 (.allocateAsync 16384 0) nofun nofun
  have hgiven : (AllocCall.allocateAsync 16384 0).handout m (start.desk true none 0) =
      some ⟨simulatedBase, .pooled, 16384⟩ := by decide +kernel
  rw [hgiven] at h₁
  have hmatched : Matched [(true, ⟨simulatedBase, .pooled, 16384⟩)] true
      (.freeAsync simulatedBase 0) := by
    intro p o hreturns x hx _
    rw [List.mem_singleton.1 hx]
    exact ⟨rfl, (Prod.mk.inj (Option.some.inj hreturns)).2⟩
  have h₂ := h₁.call true m none 0 (.freeAsync simulatedBase 0) nofun hmatched
  have h₃ := h₂.call false m none 0 (.allocateAsync 8192 0) nofun nofun
  have hstart : start.Unused := ⟨fun _ => rfl, rfl, rfl, rfl⟩
  have hleft : s.driver.nextAddress.toNat < wordMax := by decide +kernel
  -- The pool has room for the next request and yet charges it in full.
  obtain ⟨hexact, hfull⟩ := pool_exact hstart (by decide +kernel) h₃ hleft
  have hreserved : s.driver.poolUsed + 4096 ≤ s.driver.poolReserved := by decide +kernel
  have hok : (AllocCall.allocateAsync 4096 0).succeeds m (s.desk true none 0) = true := by
    decide +kernel
  have hcurrent : s.driver.current = 0 := by decide +kernel
  have hcharged := hfull true m none 0 4096 0 hok i _ _ hbooks₃
  rw [hcurrent] at hcharged
  exact ⟨start, s, _, m, i, _, _, hstart, h₃, hexact, hreserved, hbooks₃, hcharged⟩

end Session

end GpuQuota
