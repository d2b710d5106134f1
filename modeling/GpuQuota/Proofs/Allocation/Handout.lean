import GpuQuota.Proofs.Allocation.Outcome

/-!
# Memory that is handed out

Any number of allocators hand out the memory of one simulated device, each in both ways, and get
pointers back in either way, rightly or not. As long as the device has addresses left no address is
handed out twice, and memory that is in use on the device is tracked by the allocator that handed it
out, in the way in which it did.

The module introduces:

* `Session.Dealings` — the operations of the allocators on one device, with what was handed out.
* `Session.Accounted` — what is handed out, tracked and in use fits together.
* `AllocCall.Outcome.accounted` — no operation breaks that.
* `Session.Dealings.accounted` — so it holds at every point of the dealings.
* `Session.Dealings.sound` — and so does that the device counts what is in use in full.
-/

namespace GpuQuota

variable {ι : Type}

/-! ## Entries by address -/

namespace Tracked

/-- What is taken out is an entry of the address. -/
theorem address_remove? {t rest : Tracked} {address : Address} {a : Allocation}
    (h : t.remove? address = some (a, rest)) : a.address = address := by
  rw [remove?, Option.bind_eq_bind, Option.bind_eq_some_iff] at h
  obtain ⟨n, hn, h⟩ := h
  rw [Option.bind_eq_bind, Option.bind_eq_some_iff] at h
  obtain ⟨b, hb, h⟩ := h
  cases h
  obtain ⟨hlt, hmatch, -⟩ := List.findIdx?_eq_some_iff_getElem.1 hn
  obtain ⟨-, rfl⟩ := List.getElem?_eq_some_iff.1 hb
  simpa using hmatch

/-- Nothing is taken out only if there is no entry of the address. -/
theorem remove?_eq_none_iff {t : Tracked} {address : Address} :
    t.remove? address = none ↔ address ∉ t.entries.map (·.address) := by
  rw [remove?]
  -- The search for an index and membership are related case by case of the search.
  cases hn : t.entries.findIdx? (·.address == address) with
  | none =>
    rw [List.findIdx?_eq_none_iff] at hn
    exact iff_of_true rfl (by simpa using hn)
  | some n =>
    obtain ⟨hlt, hmatch, -⟩ := List.findIdx?_eq_some_iff_getElem.1 hn
    have hmem : t.entries[n].address ∈ t.entries.map (·.address) :=
      List.mem_map_of_mem (List.getElem_mem hlt)
    rw [beq_iff_eq.1 hmatch] at hmem
    refine iff_of_false ?_ (not_not.2 hmem)
    simp [List.getElem?_eq_getElem hlt]

end Tracked

/-- The addresses that are tracked as of one origin. -/
def Holdings.addresses (h : Holdings) (o : Origin) : List Address :=
  (h.of o).entries.map (·.address)

namespace Session

/-- What is handed out, tracked and in use fits together. -/
structure Accounted (given : List (ι × Handout)) (holdings : ι → Holdings) (d : SimulatedDevice) :
    Prop where
  given_lt : ∀ x ∈ given, x.2.address.toNat < d.nextAddress.toNat
  /-- No address is handed out twice. -/
  given_nodup : (given.map (·.2.address)).Nodup
  given_of_live : ∀ p ∈ d.addresses, ∃ x ∈ given, x.2.address = p
  given_of_tracked : ∀ j o, ∀ p ∈ (holdings j).addresses o,
    ∃ x ∈ given, x.1 = j ∧ x.2.origin = o ∧ x.2.address = p
  /-- No allocator tracks an address twice. -/
  tracked_nodup : ∀ j o, ((holdings j).addresses o).Nodup
  /-- What is in use is tracked where it was handed out. -/
  tracked_of_live : ∀ x ∈ given, x.2.address ∈ d.addresses →
    x.2.address ∈ (holdings x.1).addresses x.2.origin

namespace Accounted

variable {given : List (ι × Handout)} {holdings holdings' : ι → Holdings} {d d' : SimulatedDevice}
  (h : Accounted given holdings d)

include h

/-- There is one handout at an address. -/
theorem unique {x y : ι × Handout} (hx : x ∈ given) (hy : y ∈ given)
    (hxy : x.2.address = y.2.address) : x = y :=
  List.inj_on_of_nodup_map h.given_nodup hx hy hxy

/-- The same is tracked, and no more is in use. -/
theorem keep (hnext : d.nextAddress.toNat ≤ d'.nextAddress.toNat)
    (hlive : ∀ p ∈ d'.addresses, p ∈ d.addresses)
    (htracked : ∀ j o, ((holdings' j).addresses o).Perm ((holdings j).addresses o)) :
    Accounted given holdings' d' where
  -- Nothing new was given out, and what is tracked is the same up to its order.
  given_lt x hx := (h.given_lt x hx).trans_le hnext
  given_nodup := h.given_nodup
  given_of_live p hp := h.given_of_live p (hlive p hp)
  given_of_tracked j o p hp := h.given_of_tracked j o p ((htracked j o).mem_iff.1 hp)
  tracked_nodup j o := (htracked j o).nodup_iff.2 (h.tracked_nodup j o)
  tracked_of_live x hx hp := (htracked x.1 x.2.origin).mem_iff.2
    (h.tracked_of_live x hx (hlive _ hp))

/-- Memory at a new address is handed out and tracked. -/
theorem grant {x : ι × Handout} (hx : x.2.address = d.nextAddress)
    (hnext : d.nextAddress.toNat < d'.nextAddress.toNat)
    (hlive : ∀ p ∈ d'.addresses, p = d.nextAddress ∨ p ∈ d.addresses)
    (hself : (holdings' x.1).addresses x.2.origin =
      (holdings x.1).addresses x.2.origin ++ [d.nextAddress])
    (hothers : ∀ j o, (j, o) ≠ (x.1, x.2.origin) →
      (holdings' j).addresses o = (holdings j).addresses o) :
    Accounted (given ++ [x]) holdings' d' where
  given_lt y hy := by
    rcases List.mem_append.1 hy with hold | hnew
    · exact (h.given_lt y hold).trans hnext
    · rw [List.mem_singleton.1 hnew, hx]
      exact hnext
  given_nodup := by
    rw [List.map_append, List.map_singleton, List.nodup_append]
    refine ⟨h.given_nodup, List.nodup_singleton _, fun p hp q hq => ?_⟩
    -- All older addresses lie below the new one.
    obtain ⟨y, hy, rfl⟩ := List.mem_map.1 hp
    rw [List.mem_singleton.1 hq, hx]
    exact fun heq => (h.given_lt y hy).ne (congrArg UInt64.toNat heq)
  given_of_live p hp := by
    rcases hlive p hp with rfl | hold
    · exact ⟨x, by simp, hx⟩
    · obtain ⟨y, hy, hyp⟩ := h.given_of_live p hold
      exact ⟨y, List.mem_append_left _ hy, hyp⟩
  given_of_tracked j o p hp := by
    have hold : p ∈ (holdings j).addresses o →
        ∃ y ∈ given ++ [x], y.1 = j ∧ y.2.origin = o ∧ y.2.address = p := by
      intro hp
      obtain ⟨y, hy, hyj⟩ := h.given_of_tracked j o p hp
      exact ⟨y, List.mem_append_left _ hy, hyj⟩
    by_cases hjo : (j, o) = (x.1, x.2.origin)
    · obtain ⟨rfl, rfl⟩ := Prod.mk.inj hjo
      rw [hself, List.mem_append] at hp
      rcases hp with hp | hp
      · exact hold hp
      · exact ⟨x, by simp, rfl, rfl, hx.trans (List.mem_singleton.1 hp).symm⟩
    · rw [hothers j o hjo] at hp
      exact hold hp
  tracked_nodup j o := by
    by_cases hjo : (j, o) = (x.1, x.2.origin)
    · obtain ⟨rfl, rfl⟩ := Prod.mk.inj hjo
      rw [hself, List.nodup_append]
      refine ⟨h.tracked_nodup _ _, List.nodup_singleton _, fun p hp q hq => ?_⟩
      -- What is tracked was handed out, and so lies below the new address.
      obtain ⟨y, hy, -, -, rfl⟩ := h.given_of_tracked _ _ p hp
      rw [List.mem_singleton.1 hq]
      exact fun heq => (h.given_lt y hy).ne (congrArg UInt64.toNat heq)
    · rw [hothers j o hjo]
      exact h.tracked_nodup j o
  tracked_of_live y hy hp := by
    rcases List.mem_append.1 hy with hold | hnew
    · -- An older address is still tracked where it was.
      have hlow := h.given_lt y hold
      have hin : y.2.address ∈ d.addresses := by
        refine (hlive _ hp).resolve_left fun heq => ?_
        exact hlow.ne (congrArg UInt64.toNat heq)
      have htracked := h.tracked_of_live y hold hin
      by_cases hjo : (y.1, y.2.origin) = (x.1, x.2.origin)
      · obtain ⟨hj, ho⟩ := Prod.mk.inj hjo
        rw [hj, ho] at htracked ⊢
        rw [hself]
        exact List.mem_append_left _ htracked
      · rw [hothers _ _ hjo]
        exact htracked
    · rw [List.mem_singleton.1 hnew, hself, hx]
      simp

/-- An address is no longer tracked, nor is it in use. -/
theorem drop {j : ι} {o : Origin} {address : Address} (hnext : d'.nextAddress = d.nextAddress)
    (hlive : ∀ p ∈ d'.addresses, p ∈ d.addresses ∧ p ≠ address)
    (hself : ((holdings j).addresses o).Perm (address :: (holdings' j).addresses o))
    (hothers : ∀ k o', (k, o') ≠ (j, o) → (holdings' k).addresses o' = (holdings k).addresses o') :
    Accounted given holdings' d' where
  given_lt x hx := by
    rw [hnext]
    exact h.given_lt x hx
  given_nodup := h.given_nodup
  given_of_live p hp := h.given_of_live p (hlive p hp).1
  given_of_tracked k o' p hp := by
    refine h.given_of_tracked k o' p ?_
    by_cases hko : (k, o') = (j, o)
    · obtain ⟨rfl, rfl⟩ := Prod.mk.inj hko
      exact hself.mem_iff.2 (List.mem_cons_of_mem _ hp)
    · rwa [hothers k o' hko] at hp
  tracked_nodup k o' := by
    by_cases hko : (k, o') = (j, o)
    · obtain ⟨rfl, rfl⟩ := Prod.mk.inj hko
      exact (List.nodup_cons.1 (hself.nodup_iff.1 (h.tracked_nodup k o'))).2
    · rw [hothers k o' hko]
      exact h.tracked_nodup k o'
  -- What is still alive is another address than the one given back.
  tracked_of_live x hx hp := by
    obtain ⟨hold, hne⟩ := hlive _ hp
    have htracked := h.tracked_of_live x hx hold
    by_cases hko : (x.1, x.2.origin) = (j, o)
    · obtain ⟨hj, ho⟩ := Prod.mk.inj hko
      rw [hj, ho] at htracked ⊢
      exact (List.mem_cons.1 (hself.mem_iff.1 htracked)).resolve_left hne
    · rw [hothers _ _ hko]
      exact htracked

end Accounted

end Session

/-! ## One operation -/

section Update

variable [DecidableEq ι] {holdings : ι → Holdings} {j : ι} {h' : Holdings}

theorem Holdings.addresses_update_perm
    (hperm : ∀ o, (h'.addresses o).Perm ((holdings j).addresses o)) (k : ι) (o : Origin) :
    ((Function.update holdings j h' k).addresses o).Perm ((holdings k).addresses o) := by
  by_cases hk : k = j
  · subst hk
    rw [Function.update_self]
    exact hperm o
  · rw [Function.update_of_ne hk]

/-- An operation that moves the entries of one origin leaves all others alone. -/
theorem Holdings.addresses_update_of_ne {o : Origin}
    (hothers : ∀ o', o' ≠ o → h'.addresses o' = (holdings j).addresses o') (k : ι) (o' : Origin)
    (hne : (k, o') ≠ (j, o)) :
    (Function.update holdings j h' k).addresses o' = (holdings k).addresses o' := by
  by_cases hk : k = j
  · subst hk
    rw [Function.update_self]
    exact hothers o' fun ho => hne (by rw [ho])
  · rw [Function.update_of_ne hk]

end Update

namespace AllocCall.Outcome

variable {h h' : Holdings} {d d' : SimulatedDevice} {call : AllocCall} {ok : Bool}
  {x : Option Handout}

/-- Addresses are never given back. -/
theorem nextAddress_le (hout : Outcome h d call ok x h' d') :
    d.nextAddress.toNat ≤ d'.nextAddress.toNat := by
  -- Only an allocation moves the next address, and only upwards.
  cases hout with
  | refused _ _ _ hsame => rw [hsame.nextAddress_eq]
  | granted hcarved _ => exact hcarved.le
  | grantedPooled hcarved _ => exact hcarved.le
  | unpaid hcarved _ hreleased _ =>
    rw [hreleased.nextAddress_eq]
    exact hcarved.le
  | freed _ _ hreleased _ => rw [hreleased.nextAddress_eq]
  | freedPooled _ _ hreleased _ => rw [hreleased.nextAddress_eq]
  | untracked _ _ hreleased _ => rw [hreleased.nextAddress_eq]
  | untrackedPooled _ _ hreleased _ => rw [hreleased.nextAddress_eq]
  | takenIn _ => exact le_rfl

/-- No operation leaves the device unsound, as long as addresses are left. -/
theorem sound (hout : Outcome h d call ok x h' d') (hd : d.Sound)
    (hleft : d'.nextAddress.toNat < wordMax) : d'.Sound := by
  -- Memory is carved out, released, or left alone; an unpaid allocation does both.
  cases hout with
  | refused _ _ _ hsame => exact hd.sameMemory hsame
  | granted hcarved _ => exact hd.carved hcarved hleft
  | grantedPooled hcarved _ => exact hd.carved hcarved hleft
  | unpaid hcarved _ hreleased _ =>
    rw [hreleased.nextAddress_eq] at hleft
    exact (hd.carved hcarved hleft).released hreleased
  | freed _ _ hreleased _ => exact hd.released hreleased
  | freedPooled _ _ hreleased _ => exact hd.released hreleased
  | untracked _ _ hreleased _ => exact hd.released hreleased
  | untrackedPooled _ _ hreleased _ => exact hd.released hreleased
  | takenIn _ => exact hd

variable [DecidableEq ι] {given : List (ι × Handout)} {holdings : ι → Holdings} {j : ι}

/-- No operation on memory of the device breaks the account of it, as long as addresses are left. -/
theorem accounted (hout : Outcome (holdings j) d call ok x h' d')
    (hcall : ∀ address size, call ≠ .registerExternal address size)
    (hacc : Session.Accounted given holdings d) (hleft : d'.nextAddress.toNat < wordMax) :
    Session.Accounted (given ++ x.toList.map (j, ·)) (Function.update holdings j h') d' := by
  have hnext := hout.nextAddress_le
  have hnone : given ++ (none : Option Handout).toList.map (j, ·) = given := List.append_nil given
  cases hout with
  | refused hplain hpooled _ hsame =>
    rw [hnone]
    refine hacc.keep hnext (fun p hp => ?_) (Holdings.addresses_update_perm fun o => ?_)
    · rwa [SimulatedDevice.addresses, hsame.live_eq] at hp
    · cases o with
      | plain => exact hplain.map _
      | pooled => exact hpooled.map _
  | granted hcarved _ =>
    refine hacc.grant rfl (hcarved.lt hleft) (fun p => hcarved.mem_addresses.1) ?_
      (Holdings.addresses_update_of_ne fun o ho => ?_)
    · rw [Function.update_self]
      exact List.map_append
    · cases o with
      | plain => exact absurd rfl ho
      | pooled => rfl
  | grantedPooled hcarved _ =>
    refine hacc.grant rfl (hcarved.lt hleft) (fun p => hcarved.mem_addresses.1) ?_
      (Holdings.addresses_update_of_ne fun o ho => ?_)
    · rw [Function.update_self]
      exact List.map_append
    · cases o with
      | plain => rfl
      | pooled => exact absurd rfl ho
  | unpaid hcarved _ hreleased _ =>
    -- The only address that came into use has gone out of use again.
    rw [hnone, Function.update_eq_self]
    refine hacc.keep hnext (fun p hp => ?_) fun _ _ => .refl _
    obtain ⟨hp, hne⟩ := hreleased.mem_addresses.1 hp
    exact (hcarved.mem_addresses.1 hp).resolve_left hne
  | freed _ hremove hreleased _ =>
    rw [hnone]
    refine hacc.drop (o := .plain) hreleased.nextAddress_eq (fun p => hreleased.mem_addresses.1) ?_
      (Holdings.addresses_update_of_ne fun o ho => ?_)
    · rw [Function.update_self, ← Tracked.address_remove? hremove]
      exact (Tracked.perm_remove? hremove).1.map _
    · cases o with
      | plain => exact absurd rfl ho
      | pooled => rfl
  | freedPooled _ hremove hreleased _ =>
    rw [hnone]
    refine hacc.drop (o := .pooled) hreleased.nextAddress_eq (fun p => hreleased.mem_addresses.1) ?_
      (Holdings.addresses_update_of_ne fun o ho => ?_)
    · rw [Function.update_self, ← Tracked.address_remove? hremove]
      exact (Tracked.perm_remove? hremove).1.map _
    · cases o with
      | plain => rfl
      | pooled => exact absurd rfl ho
  -- Where the entry stands in the other list it stays, and only less is in use.
  | untracked _ _ hreleased _ =>
    rw [hnone, Function.update_eq_self]
    exact hacc.keep hnext (fun p hp => (hreleased.mem_addresses.1 hp).1) fun _ _ => .refl _
  | untrackedPooled _ _ hreleased _ =>
    rw [hnone, Function.update_eq_self]
    exact hacc.keep hnext (fun p hp => (hreleased.mem_addresses.1 hp).1) fun _ _ => .refl _
  | takenIn heq => exact absurd heq (hcall _ _)

end AllocCall.Outcome

/-! ## Dealings -/

namespace Session

/-- The desk of an allocator, with a member that remembers whatever it may. -/
def desk {σ : Type} (s : Session σ ι) (j : ι) (remembered : Option Nat) (expired : Nat) : Desk σ :=
  ⟨⟨s.region, remembered, expired⟩, s.holdings j, s.driver⟩

/-- What an operation in the session comes to. -/
theorem outcome (s : Session SimulatedDevice ι) (j : ι) (m : Member) (remembered : Option Nat)
    (expired : Nat) (call : AllocCall) :
    call.Outcome (s.holdings j) s.driver (call.succeeds m (s.desk j remembered expired))
      (call.handout m (s.desk j remembered expired))
      (call.run m (s.desk j remembered expired)).holdings
      (call.run m (s.desk j remembered expired)).driver :=
  call.outcome m (s.desk j remembered expired)

/-- The books of a process move with what the allocator that it asks tracks. -/
theorem books_serve [DecidableEq ι] {σ : Type} [DeviceDriver σ] (s : Session σ ι) (j : ι)
    {m : Member} (remembered : Option Nat) (expired : Nat) (call : AllocCall) {i : Fin maxProcesses}
    {drift : DeviceIndex → UInt64} {owed : Amounts} (h : s.region.Books m.pid i drift owed) :
    (s.serve j m remembered expired call).region.Books m.pid i drift (owed -
      (s.holdings j).charged + (call.run m (s.desk j remembered expired)).holdings.charged) :=
  call.run_books m (s.desk j remembered expired) h

/-- Nothing is tracked yet, and nothing is in use on the device. -/
structure Unused (s : Session SimulatedDevice ι) : Prop where
  holdings_eq : ∀ j, s.holdings j = {}
  live_eq : s.driver.live = []
  used_eq : s.driver.used = 0
  poolUsed_eq : s.driver.poolUsed = 0

variable [DecidableEq ι]

/-- The operations of allocators on memory of a device, carried out from a start, with what was
handed out and to whom. Which operations are allowed may depend on that. -/
inductive Dealings (allowed : List (ι × Handout) → ι → AllocCall → Prop)
    (start : Session SimulatedDevice ι) : List (ι × Handout) → Session SimulatedDevice ι → Prop
  /-- Nothing has happened yet. -/
  | start : Dealings allowed start [] start
  /-- An allocator carries an operation out, whether or not it is refused. -/
  | call {given : List (ι × Handout)} {s : Session SimulatedDevice ι}
    (hrun : Dealings allowed start given s) (j : ι) (m : Member) (remembered : Option Nat)
    (expired : Nat) (call : AllocCall)
    (hcall : ∀ address size, call ≠ .registerExternal address size)
    (hallowed : allowed given j call) :
    Dealings allowed start
      (given ++ (call.handout m (s.desk j remembered expired)).toList.map (j, ·))
      (s.serve j m remembered expired call)
  /-- The region changes in any way, and the device in anything but its memory: another device may
  be current, or the next allocation may have to fail. -/
  | others {given : List (ι × Handout)} {s : Session SimulatedDevice ι}
    (hrun : Dealings allowed start given s) (r : Region) (d : SimulatedDevice)
    (hsame : s.driver.SameMemory d) :
    Dealings allowed start given { s with region := r, driver := d }

variable {allowed : List (ι × Handout) → ι → AllocCall → Prop} {given : List (ι × Handout)}
  {start s : Session SimulatedDevice ι}

/-- As long as addresses are left, what is handed out, tracked and in use fits together at every
point of the dealings. -/
theorem Dealings.accounted (hrun : Dealings allowed start given s) (hstart : start.Unused)
    (hleft : s.driver.nextAddress.toNat < wordMax) : Accounted given s.holdings s.driver := by
  -- Addresses only rise, so they were left at every point before.
  induction hrun with
  | start =>
    have hnone : ∀ j o, (start.holdings j).addresses o = [] := by
      intro j o
      rw [hstart.holdings_eq]
      cases o <;> rfl
    refine ⟨nofun, List.nodup_nil, fun p hp => ?_, fun j o p hp => ?_, fun j o => ?_, nofun⟩
    · rw [SimulatedDevice.addresses, hstart.live_eq] at hp
      cases hp
    · rw [hnone] at hp
      cases hp
    · rw [hnone]
      exact List.nodup_nil
  | @call _ s _ j m remembered expired call hcall _ ih =>
    have hout := s.outcome j m remembered expired call
    exact hout.accounted hcall (ih (hout.nextAddress_le.trans_lt hleft)) hleft
  | others _ r d hsame ih =>
    rw [hsame.nextAddress_eq] at hleft
    refine (ih hleft).keep (by rw [hsame.nextAddress_eq]) (fun p hp => ?_) fun _ _ => .refl _
    rwa [SimulatedDevice.addresses, hsame.live_eq] at hp

/-- A device that is unused at the start stays sound, as long as addresses are left. -/
theorem Dealings.sound (hrun : Dealings allowed start given s) (hstart : start.Unused)
    (hcapacity : start.driver.capacity.toNat < wordMax)
    (hleft : s.driver.nextAddress.toNat < wordMax) : s.driver.Sound := by
  -- Addresses only rise, so they were left at every point before.
  induction hrun with
  | start =>
    refine ⟨?_, ?_, ?_, ?_, hcapacity⟩
    · rw [SimulatedDevice.addresses, hstart.live_eq]
      exact List.nodup_nil
    · rw [SimulatedDevice.addresses, hstart.live_eq]
      exact fun p hp => absurd hp List.not_mem_nil
    · rw [hstart.used_eq, hstart.live_eq]
      rfl
    · rw [hstart.used_eq]
      exact Nat.zero_le _
  | @call _ s _ j m remembered expired call _ _ ih =>
    have hout := s.outcome j m remembered expired call
    exact hout.sound (ih (hout.nextAddress_le.trans_lt hleft)) hleft
  | others _ r d hsame ih =>
    rw [hsame.nextAddress_eq] at hleft
    exact (ih hleft).sameMemory hsame

end Session

end GpuQuota
