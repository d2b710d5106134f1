import GpuQuota.Allocator
import Mathlib.Algebra.BigOperators.Group.Multiset.Basic
import Mathlib.Algebra.GroupWithZero.Nat
import Mathlib.Algebra.Order.Group.Multiset

/-!
# Memory of a simulated device

A simulated device hands memory out at rising addresses and remembers what is in use. This module
says what each of its calls does to that memory, apart from all else that a device keeps.

The module introduces:

* `SimulatedDevice.SameMemory` — two devices with the same memory in use and left.
* `SimulatedDevice.Carved`, `SimulatedDevice.Released` — the memory after some was taken or given
  back.
* `SimulatedDevice.SamePool`, `.PoolGrown`, `.PoolShrunk` — the pool after that.
* `SimulatedDevice.carve_cases` and its kind — what the calls come to.
* `SimulatedDevice.Carved.lt` — a new address lies above all older ones while addresses are left.
* `bytes` — the bytes of a number of blocks of memory.
* `SimulatedDevice.Sound` — what is in use is counted in full; no call breaks that while addresses
  are left.
-/

namespace GpuQuota

/-- A word rounded up to a multiple is no smaller. -/
theorem le_roundUp (n : UInt64) {m : UInt64} (hm : m ≠ 0) :
    n.toNat ≤ (roundUp n m).toNat := by
  have hpos : 0 < m.toNat := by
    rw [Nat.pos_iff_ne_zero]
    exact fun h => hm (UInt64.toNat_inj.1 h)
  -- The quotient was rounded down from less than one multiple above.
  have hdiv := Nat.div_add_mod' (n.toNat + m.toNat - 1) m.toNat
  have hmod := Nat.mod_lt (n.toNat + m.toNat - 1) hpos
  have hn := n.toNat_lt
  rw [roundUp, UInt64.toNat_ofNat']
  simp only [wordMax] at *
  omega

namespace SimulatedDevice

/-- The addresses in use. -/
def addresses (d : SimulatedDevice) : List Address := d.live.map (·.1)

/-- The same memory is in use and left, whatever else differs. -/
structure SameMemory (d d' : SimulatedDevice) : Prop where
  capacity_eq : d'.capacity = d.capacity
  nextAddress_eq : d'.nextAddress = d.nextAddress
  live_eq : d'.live = d.live
  used_eq : d'.used = d.used
  poolUsed_eq : d'.poolUsed = d.poolUsed
  poolReserved_eq : d'.poolReserved = d.poolReserved

protected theorem SameMemory.refl (d : SimulatedDevice) : d.SameMemory d :=
  ⟨rfl, rfl, rfl, rfl, rfl, rfl⟩

/-- As much of the pool is in use and reserved. -/
structure SamePool (d d' : SimulatedDevice) : Prop where
  poolUsed_eq : d'.poolUsed = d.poolUsed
  poolReserved_eq : d'.poolReserved = d.poolReserved

/-- The pool has given memory out. It reserves whole pages once more is in use than it has
reserved. -/
structure PoolGrown (size : UInt64) (d d' : SimulatedDevice) : Prop where
  poolUsed_eq : d'.poolUsed = d.poolUsed + size
  poolReserved_eq : d'.poolReserved =
    if d'.poolUsed > d.poolReserved then roundUp d'.poolUsed largePage else d.poolReserved

/-- The pool has got memory back. It keeps what it has reserved. -/
structure PoolShrunk (length : UInt64) (d d' : SimulatedDevice) : Prop where
  poolUsed_eq : d'.poolUsed = satSub d.poolUsed length
  poolReserved_eq : d'.poolReserved = d.poolReserved

/-- Memory of a length was taken at the next address. -/
structure Carved (length : UInt64) (d d' : SimulatedDevice) : Prop where
  fits : satAdd d.used length ≤ d.capacity
  capacity_eq : d'.capacity = d.capacity
  nextAddress_eq :
    d'.nextAddress = satAdd d.nextAddress (roundUp (max length 1) simulatedAlignment)
  live_eq : d'.live = (d.nextAddress, length) :: d.live.filter (·.1 != d.nextAddress)
  used_eq : d'.used = d.used + length

/-- The memory at an address was given back. -/
structure Released (address : Address) (length : UInt64) (d d' : SimulatedDevice) : Prop where
  lookup_eq : d.live.lookup address = some length
  capacity_eq : d'.capacity = d.capacity
  nextAddress_eq : d'.nextAddress = d.nextAddress
  live_eq : d'.live = d.live.filter (·.1 != address)
  used_eq : d'.used = d.used - length

variable (d : SimulatedDevice) (size : UInt64) (address : Address)

/-! ## Taking memory -/

theorem carve_cases :
    (∃ d', carve size d = (.ok d.nextAddress, d') ∧ d.Carved size d' ∧ d.SamePool d') ∨
    ∃ e d', carve size d = (.error e, d') ∧ d.SameMemory d' := by
  unfold carve
  -- The driver fails because it was told to, or because the request does not fit.
  split
  next e _ => exact .inr ⟨e, _, rfl, ⟨rfl, rfl, rfl, rfl, rfl, rfl⟩⟩
  next =>
    split
    next => exact .inr ⟨_, d, rfl, .refl d⟩
    next hfits => exact .inl ⟨_, rfl, ⟨UInt64.not_lt.1 hfits, rfl, rfl, rfl, rfl⟩, rfl, rfl⟩

private theorem allocLarge_cases :
    (∃ length handle d', allocLarge size d = (.ok (d.nextAddress, handle), d') ∧
      d.Carved length d' ∧ d.SamePool d') ∨
    ∃ e d', allocLarge size d = (.error e, d') ∧ d.SameMemory d' := by
  unfold allocLarge
  rcases d.carve_cases (roundUp size largePage) with ⟨d', heq, hcarved, hpool⟩ | ⟨e, d', heq, hsame⟩
  · rw [heq]
    exact .inl ⟨_, _, _, rfl, ⟨hcarved.1, hcarved.2, hcarved.3, hcarved.4, hcarved.5⟩,
      ⟨hpool.1, hpool.2⟩⟩
  · rw [heq]
    exact .inr ⟨e, d', rfl, hsame⟩

/-- Memory in large pages takes up more than was asked for. -/
theorem obtain_cases :
    (∃ length handle d', Allocator.obtain size d = (.ok (d.nextAddress, handle), d') ∧
      d.Carved length d' ∧ d.SamePool d') ∨
    ∃ e d', Allocator.obtain size d = (.error e, d') ∧ d.SameMemory d' := by
  -- Small requests are carved out directly, large ones in whole granules with a handle.
  unfold Allocator.obtain
  split
  next =>
    rcases d.carve_cases size with ⟨d', heq, hcarved, hpool⟩ | ⟨e, d', heq, hsame⟩
    · rw [show DeviceDriver.alloc size d = (.ok d.nextAddress, d') from heq]
      exact .inl ⟨size, none, d', rfl, hcarved, hpool⟩
    · rw [show DeviceDriver.alloc size d = (.error e, d') from heq]
      exact .inr ⟨e, d', rfl, hsame⟩
  next =>
    rcases d.allocLarge_cases size with ⟨length, handle, d', heq, hcarved, hpool⟩ |
      ⟨e, d', heq, hsame⟩
    · rw [show DeviceDriver.allocLarge size d = (.ok (d.nextAddress, handle), d') from heq]
      exact .inl ⟨length, some handle, d', rfl, hcarved, hpool⟩
    · rw [show DeviceDriver.allocLarge size d = (.error e, d') from heq]
      exact .inr ⟨e, d', rfl, hsame⟩

theorem allocAsync_cases :
    (∃ d', allocAsync size d = (.ok d.nextAddress, d') ∧ d.Carved size d' ∧ d.PoolGrown size d') ∨
    ∃ e d', allocAsync size d = (.error e, d') ∧ d.SameMemory d' := by
  unfold allocAsync
  -- The pool grows only by what could be carved out.
  rcases d.carve_cases size with ⟨d', heq, hcarved, hpool⟩ | ⟨e, d', heq, hsame⟩
  · rw [heq]
    refine .inl ⟨_, rfl, ⟨hcarved.1, hcarved.2, hcarved.3, hcarved.4, hcarved.5⟩, ?_, ?_⟩
    · rw [← hpool.poolUsed_eq]
    · rw [← hpool.poolReserved_eq]
  · rw [heq]
    exact .inr ⟨e, d', rfl, hsame⟩

/-! ## Giving memory back -/

theorem free_cases :
    (∃ length d', free address d = (.ok (), d') ∧ d.Released address length d' ∧ d.SamePool d') ∨
    ∃ e, free address d = (.error e, d) := by
  rw [free, release]
  cases h : d.live.lookup address with
  | none => exact .inr ⟨_, rfl⟩
  | some length => exact .inl ⟨length, _, rfl, ⟨h, rfl, rfl, rfl, rfl⟩, rfl, rfl⟩

/-- What is in use is given back without a refusal. -/
theorem freeAsync_of_lookup {length : UInt64} (h : d.live.lookup address = some length) :
    ∃ d', freeAsync address d = (.ok (), d') ∧ d.Released address length d' ∧
      d.PoolShrunk length d' := by
  rw [freeAsync, release, h]
  exact ⟨_, rfl, ⟨h, rfl, rfl, rfl, rfl⟩, rfl, rfl⟩

theorem freeAsync_cases :
    (∃ length d', freeAsync address d = (.ok (), d') ∧ d.Released address length d' ∧
      d.PoolShrunk length d') ∨
    ∃ e, freeAsync address d = (.error e, d) := by
  cases h : d.live.lookup address with
  | none =>
    right
    rw [freeAsync, release, h]
    exact ⟨_, rfl⟩
  | some length => exact .inl ⟨length, d.freeAsync_of_lookup address h⟩

/-! ## Addresses -/

variable {d} {d' : SimulatedDevice} {length : UInt64}

/-- A new address lies above the older ones, as long as addresses are left. -/
theorem Carved.lt (h : d.Carved length d') (hleft : d'.nextAddress.toNat < wordMax) :
    d.nextAddress.toNat < d'.nextAddress.toNat := by
  -- An empty block takes up an address too.
  have hstep := le_roundUp (max length 1) (m := simulatedAlignment) (by decide)
  rw [toNat_max, UInt64.toNat_one] at hstep
  rw [h.nextAddress_eq, toNat_satAdd] at hleft ⊢
  omega

theorem Carved.le (h : d.Carved length d') : d.nextAddress.toNat ≤ d'.nextAddress.toNat := by
  have hword := d.nextAddress.toNat_lt
  rw [h.nextAddress_eq, toNat_satAdd]
  simp only [wordMax]
  omega

theorem Carved.lookup_eq (h : d.Carved length d') :
    d'.live.lookup d.nextAddress = some length := by
  rw [h.live_eq, List.lookup_cons_self]

/-- What is in use after some memory was taken. -/
theorem Carved.mem_addresses (h : d.Carved length d') {p : Address} :
    p ∈ d'.addresses ↔ p = d.nextAddress ∨ p ∈ d.addresses := by
  rw [addresses, h.live_eq, List.map_cons, List.mem_cons]
  by_cases hp : p = d.nextAddress
  · simp [hp]
  · simp [hp, addresses]

/-- What is given back was in use. -/
theorem Released.mem {address : Address} (h : d.Released address length d') :
    address ∈ d.addresses := by
  obtain ⟨before, after, hlive, -⟩ := List.lookup_eq_some_iff.1 h.lookup_eq
  rw [addresses, hlive]
  simp

/-- What is in use after some memory was given back. -/
theorem Released.mem_addresses {address : Address} (h : d.Released address length d')
    {p : Address} : p ∈ d'.addresses ↔ p ∈ d.addresses ∧ p ≠ address := by
  rw [addresses, h.live_eq, addresses]
  simp only [List.mem_map, List.mem_filter, bne_iff_ne]
  constructor
  · rintro ⟨x, ⟨hx, hne⟩, rfl⟩
    exact ⟨⟨x, hx, rfl⟩, hne⟩
  · rintro ⟨⟨x, hx, rfl⟩, hne⟩
    exact ⟨x, ⟨hx, hne⟩, rfl⟩

end SimulatedDevice

/-! ## What is in use is counted -/

/-- The bytes of blocks of memory, of which each is an address with a length. -/
def bytes : Multiset (Address × UInt64) →+ Nat :=
  Multiset.sumAddMonoidHom.comp (Multiset.mapAddMonoidHom fun block => block.2.toNat)

theorem bytes_coe (blocks : List (Address × UInt64)) :
    bytes blocks = (blocks.map (·.2.toNat)).sum := rfl

@[simp] theorem bytes_cons (block : Address × UInt64) (blocks : Multiset (Address × UInt64)) :
    bytes (block ::ₘ blocks) = block.2.toNat + bytes blocks := by
  simp [bytes]

/-- Among more blocks there are no fewer bytes. -/
theorem bytes_mono {blocks blocks' : Multiset (Address × UInt64)} (h : blocks ≤ blocks') :
    bytes blocks ≤ bytes blocks' := by
  obtain ⟨more, rfl⟩ := Multiset.le_iff_exists_add.1 h
  rw [map_add]
  exact Nat.le_add_right _ _

namespace SimulatedDevice

/-- What is in use lies at different addresses that are not handed out again, and is counted in
full. The device has room for less than the largest word, so that no count is cut off. -/
structure Sound (d : SimulatedDevice) : Prop where
  addresses_nodup : d.addresses.Nodup
  addresses_lt : ∀ p ∈ d.addresses, p.toNat < d.nextAddress.toNat
  used_eq : d.used.toNat = bytes d.live
  used_le : d.used.toNat ≤ d.capacity.toNat
  capacity_lt : d.capacity.toNat < wordMax

variable {d d' : SimulatedDevice} {length : UInt64} {address : Address}

/-- A new block stands before all others. -/
theorem Carved.live_eq_cons (h : d.Carved length d') (hd : d.Sound) :
    d'.live = (d.nextAddress, length) :: d.live := by
  rw [h.live_eq, List.filter_eq_self.2 fun block hblock => ?_]
  have hlt := hd.addresses_lt block.1 (List.mem_map_of_mem hblock)
  rw [bne_iff_ne]
  exact fun heq => hlt.ne (congrArg UInt64.toNat heq)

/-- The block that is given back stood among the others. -/
theorem Released.perm (h : d.Released address length d') (hd : d.Sound) :
    d.live.Perm ((address, length) :: d'.live) := by
  obtain ⟨before, after, hlive, hbefore⟩ := List.lookup_eq_some_iff.1 h.lookup_eq
  have hnodup := hd.addresses_nodup
  rw [addresses, hlive, List.map_append, List.map_cons, List.nodup_middle, List.nodup_cons,
    ← List.map_append] at hnodup
  -- No other block lies at the address.
  have hothers : ∀ block ∈ before ++ after, block.1 != address := by
    intro block hblock
    rw [bne_iff_ne]
    exact fun heq => hnodup.1 (List.mem_map.2 ⟨block, hblock, heq⟩)
  have hlive' : d'.live = before ++ after := by
    rw [List.forall_mem_append] at hothers
    rw [h.live_eq, hlive, List.filter_append, List.filter_cons_of_neg (by simp),
      List.filter_eq_self.2 hothers.1, List.filter_eq_self.2 hothers.2]
  rw [hlive', hlive]
  exact List.perm_middle

/-- The block that is given back is as long as it was. -/
theorem Released.length_eq (h : d.Released address length d') (hd : d.Sound) {n : UInt64}
    (hmem : (address, n) ∈ d.live) : n = length := by
  rcases List.mem_cons.1 ((h.perm hd).mem_iff.1 hmem) with heq | hrest
  · exact (Prod.mk.inj heq).2
  · exact absurd rfl (h.mem_addresses.1 (List.mem_map_of_mem hrest)).2

/-- As much more is in use as was taken. -/
theorem Carved.toNat_used (h : d.Carved length d') (hd : d.Sound) :
    d'.used.toNat = d.used.toNat + length.toNat := by
  have hfits := UInt64.le_iff_toNat_le.1 h.fits
  have hcapacity := hd.capacity_lt
  rw [toNat_satAdd] at hfits
  simp only [wordMax] at hfits hcapacity
  rw [h.used_eq, UInt64.toNat_add, Nat.mod_eq_of_lt (by omega)]

namespace Sound

/-- Taking memory leaves a device sound, as long as addresses are left. -/
theorem carved (hd : d.Sound) (h : d.Carved length d') (hleft : d'.nextAddress.toNat < wordMax) :
    d'.Sound where
  -- The new address lies behind all that there are.
  addresses_nodup := by
    rw [addresses, h.live_eq_cons hd]
    exact List.nodup_cons.2 ⟨fun hmem => (hd.addresses_lt _ hmem).false, hd.addresses_nodup⟩
  addresses_lt p hp := by
    rcases h.mem_addresses.1 hp with rfl | hold
    · exact h.lt hleft
    · exact (hd.addresses_lt p hold).trans (h.lt hleft)
  used_eq := by
    rw [h.toNat_used hd, h.live_eq_cons hd, ← Multiset.cons_coe, bytes_cons, hd.used_eq,
      Nat.add_comm]
  used_le := by
    have hfits := UInt64.le_iff_toNat_le.1 h.fits
    have hcapacity := hd.capacity_lt
    rw [toNat_satAdd] at hfits
    rw [h.toNat_used hd, h.capacity_eq]
    omega
  capacity_lt := by
    rw [h.capacity_eq]
    exact hd.capacity_lt

/-- Giving memory back leaves a device sound. -/
theorem released (hd : d.Sound) (h : d.Released address length d') : d'.Sound := by
  -- The block was counted, so the count does not drop below zero.
  have hbytes : d.used.toNat = length.toNat + bytes d'.live := by
    rw [hd.used_eq, Multiset.coe_eq_coe.2 (h.perm hd), ← Multiset.cons_coe, bytes_cons]
  have hle : length ≤ d.used := UInt64.le_iff_toNat_le.2 (by omega)
  have hused : d'.used.toNat = bytes d'.live := by
    rw [h.used_eq, UInt64.toNat_sub_of_le _ _ hle]
    omega
  refine ⟨?_, fun p hp => ?_, hused, ?_, ?_⟩
  · have hperm : d.addresses.Perm (address :: d'.addresses) := (h.perm hd).map _
    exact (List.nodup_cons.1 (hperm.nodup_iff.1 hd.addresses_nodup)).2
  · rw [h.nextAddress_eq]
    exact hd.addresses_lt p (h.mem_addresses.1 hp).1
  · rw [h.capacity_eq]
    have := hd.used_le
    omega
  · rw [h.capacity_eq]
    exact hd.capacity_lt

theorem sameMemory (hd : d.Sound) (h : d.SameMemory d') : d'.Sound where
  addresses_nodup := by
    rw [addresses, h.live_eq]
    exact hd.addresses_nodup
  addresses_lt := by
    rw [addresses, h.live_eq, h.nextAddress_eq]
    exact hd.addresses_lt
  used_eq := by
    rw [h.used_eq, h.live_eq]
    exact hd.used_eq
  used_le := by
    rw [h.used_eq, h.capacity_eq]
    exact hd.used_le
  capacity_lt := by
    rw [h.capacity_eq]
    exact hd.capacity_lt

end Sound

namespace PoolGrown

variable {size : UInt64}

/-- The pool never uses more than it has reserved after it has grown. -/
theorem poolUsed_le (h : d.PoolGrown size d') : d'.poolUsed.toNat ≤ d'.poolReserved.toNat := by
  rw [h.poolReserved_eq]
  split
  next => exact le_roundUp _ (by decide)
  next hwithin => exact UInt64.le_iff_toNat_le.1 (UInt64.not_lt.1 hwithin)

/-- What the pool has reserved it keeps. -/
theorem poolReserved_le (h : d.PoolGrown size d') :
    d.poolReserved.toNat ≤ d'.poolReserved.toNat := by
  rw [h.poolReserved_eq]
  split
  next hbeyond =>
    have hround := le_roundUp d'.poolUsed (m := largePage) (by decide)
    have hlt := UInt64.lt_iff_toNat_lt.1 hbeyond
    omega
  next => exact le_rfl

end PoolGrown

end SimulatedDevice

end GpuQuota
