import GpuQuota.Proofs.Allocation.Handout

/-!
# Pointers that are given back

Giving a pointer back takes the entry out of the list that belongs to the call, and its charge with
it. The device frees the memory even if the entry stands in the other list, and then the entry and
its charge stay behind. This module says exactly when nothing stays behind.

The module introduces:

* `Holdings.chargedAt` — what the entries of an address stand for.
* `Desk.Cleared` — an address is no longer tracked, and what was charged for it is given back.
* `Desk.cleared_iff` — so it is if the entries of the address were one at most, in the right list.
* `Session.cleared_iff_origin_eq` — so it is, as long as addresses are left, if the pointer is given
  back in the way in which it was handed out.
* `Session.not_cleared` — memory of the pool that is freed as if it were plain stays charged.
-/

namespace GpuQuota

/-- The other way of handing memory out. -/
def Origin.other : Origin → Origin
  | .plain => .pooled
  | .pooled => .plain

theorem Origin.eq_or_eq_other (o o' : Origin) : o' = o ∨ o' = o.other := by
  cases o <;> cases o' <;> simp [other]

/-! ## The entries of an address -/

namespace Tracked

variable {t t' : Tracked} {address : Address}

/-- What the entries of an address stand for. -/
def chargedAt (t : Tracked) (address : Address) : Amounts :=
  ({ t with entries := t.entries.filter (·.address == address) } : Tracked).charged

/-- The entries of an address and the others make up all that is tracked. -/
theorem charged_add_chargedAt
    (hperm : t'.entries.Perm (t.entries.filter fun a => !(a.address == address))) :
    t'.charged + t.chargedAt address = t.charged := by
  have hall := (List.filter_append_perm (fun a : Allocation => a.address == address) t.entries)
  rw [chargedAt, charged_eq_sum, charged_eq_sum, charged_eq_sum, (hperm.map _).sum_eq,
    ← (hall.map _).sum_eq, List.map_append, List.sum_append, add_comm]

end Tracked

namespace Holdings

/-- What the entries of an address stand for, of either origin. -/
def chargedAt (h : Holdings) (address : Address) : Amounts :=
  h.plain.chargedAt address + h.pooled.chargedAt address

end Holdings

/-- The address is no longer tracked, and the process is charged no longer for it. -/
structure Desk.Cleared {σ : Type} (m : Member) (address : Address) (before after : Desk σ) :
    Prop where
  untracked : ∀ o, address ∉ after.holdings.addresses o
  /-- From wherever the counters of the process stood, the charge was taken. -/
  returned : ∀ i drift owed, before.seat.region.Books m.pid i drift owed →
    after.seat.region.Books m.pid i drift (owed - before.holdings.chargedAt address)

namespace AllocCall

/-- A pointer that is given back hands nothing out. -/
theorem handout_of_returns {σ : Type} [DeviceDriver σ] {call : AllocCall} {x : Address × Origin}
    (hcall : call.returns = some x) (m : Member) (desk : Desk σ) : call.handout m desk = none := by
  cases call with
  | free address => rfl
  | freeAsync address stream => rfl
  | allocate size => cases hcall
  | allocateAs size kind => cases hcall
  | allocateAsync size stream => cases hcall
  | registerExternal address size => cases hcall

variable {h h' : Holdings} {d d' : SimulatedDevice} {call : AllocCall} {address : Address}
  {o : Origin}

/-- What is tracked after a pointer was given back: the list of the call has lost an entry of the
address if it had one, and the other list is as it was. -/
theorem Outcome.of_returns (hout : Outcome h d call true none h' d')
    (hcall : call.returns = some (address, o)) :
    address ∈ d.addresses ∧ (h'.of o.other).entries = (h.of o.other).entries ∧
    ∃ lost : Option Allocation, (∀ a ∈ lost, a.address = address) ∧
      (h.of o).entries.Perm (lost.toList ++ (h'.of o).entries) ∧
      (lost = none → address ∉ h.addresses o) := by
  -- Only the outcomes that give something back remain, and each for its own origin.
  cases hout with
  | freed hplain hremove hreleased _ =>
    obtain ⟨rfl, rfl⟩ := Prod.mk.inj (Option.some.inj (hplain.symm.trans hcall))
    refine ⟨hreleased.mem, rfl, some _, fun a ha => ?_, (Tracked.perm_remove? hremove).1, nofun⟩
    rw [← Option.mem_some.1 ha, Tracked.address_remove? hremove]
  | freedPooled hpooled hremove hreleased _ =>
    obtain ⟨rfl, rfl⟩ := Prod.mk.inj (Option.some.inj (hpooled.symm.trans hcall))
    refine ⟨hreleased.mem, rfl, some _, fun a ha => ?_, (Tracked.perm_remove? hremove).1, nofun⟩
    rw [← Option.mem_some.1 ha, Tracked.address_remove? hremove]
  | untracked hplain hnone hreleased _ =>
    obtain ⟨rfl, rfl⟩ := Prod.mk.inj (Option.some.inj (hplain.symm.trans hcall))
    exact ⟨hreleased.mem, rfl, none, nofun, .refl _, fun _ => Tracked.remove?_eq_none_iff.1 hnone⟩
  | untrackedPooled hpooled hnone hreleased _ =>
    obtain ⟨rfl, rfl⟩ := Prod.mk.inj (Option.some.inj (hpooled.symm.trans hcall))
    exact ⟨hreleased.mem, rfl, none, nofun, .refl _, fun _ => Tracked.remove?_eq_none_iff.1 hnone⟩
  | takenIn htaken =>
    rw [htaken] at hcall
    cases hcall

end AllocCall

namespace Desk

/-- Where only entries of an address were lost, and none of them is left, the address is cleared. -/
theorem Cleared.of_lost {σ : Type} [DeviceDriver σ] {m : Member} {address : Address}
    {desk : Desk σ} {call : AllocCall}
    (hlost : ∀ o, ∃ lost : List Allocation, (∀ a ∈ lost, a.address = address) ∧
      (desk.holdings.of o).entries.Perm (lost ++ ((call.run m desk).holdings.of o).entries))
    (hleft : ∀ o, address ∉ (call.run m desk).holdings.addresses o) :
    desk.Cleared m address (call.run m desk) where
  untracked := hleft
  returned i drift owed hbooks := by
    have hentries : ∀ o, ((call.run m desk).holdings.of o).entries.Perm
        ((desk.holdings.of o).entries.filter fun a => !(a.address == address)) := by
      intro o
      obtain ⟨lost, haddress, hperm⟩ := hlost o
      refine .trans (.of_eq ?_) (hperm.filter _).symm
      rw [List.filter_append, List.filter_eq_nil_iff.2 fun a ha => by simp [haddress a ha],
        List.nil_append, List.filter_eq_self.2 fun a ha => ?_]
      have hne : a.address ≠ address := fun heq => hleft o (heq ▸ List.mem_map_of_mem ha)
      simpa using hne
    -- What is charged besides the tracked entries stays as it was.
    have hrun := call.run_books m _ hbooks
    have hplain : (call.run m desk).holdings.plain.charged + desk.holdings.plain.chargedAt address =
        desk.holdings.plain.charged := Tracked.charged_add_chargedAt (hentries .plain)
    have hpooled : (call.run m desk).holdings.pooled.charged +
        desk.holdings.pooled.chargedAt address = desk.holdings.pooled.charged :=
      Tracked.charged_add_chargedAt (hentries .pooled)
    have hcharged : owed - desk.holdings.charged + (call.run m desk).holdings.charged =
        owed - desk.holdings.chargedAt address := by
      rw [Holdings.charged, Holdings.charged, Holdings.chargedAt, ← hplain, ← hpooled]
      abel
    rwa [hcharged] at hrun

/-- A pointer that is given back successfully is cleared exactly if there was one entry of it at
most in the list that belongs to the call, and none in the other list. -/
theorem cleared_iff {m : Member} {desk : Desk SimulatedDevice} {call : AllocCall}
    {address : Address} {o : Origin} (hcall : call.returns = some (address, o))
    (hok : call.succeeds m desk = true) :
    desk.Cleared m address (call.run m desk) ↔
      (desk.holdings.addresses o).count address ≤ 1 ∧
        address ∉ desk.holdings.addresses o.other := by
  have hout := call.outcome m desk
  rw [hok, AllocCall.handout_of_returns hcall] at hout
  obtain ⟨-, hother, lost, haddress, hperm, hnone⟩ := hout.of_returns hcall
  -- A successful return takes out one entry at most, so that the entries left are counted.
  have hcount : (desk.holdings.addresses o).count address =
      lost.toList.length + ((call.run m desk).holdings.addresses o).count address := by
    have hlost : (lost.toList.map (·.address)).count address = lost.toList.length := by
      cases lost with
      | none => rfl
      | some a => simp [haddress a rfl]
    rw [Holdings.addresses, (hperm.map _).count_eq, List.map_append, List.count_append, hlost]
    rfl
  constructor
  · intro hcleared
    refine ⟨?_, fun hmem => hcleared.untracked o.other ?_⟩
    · rw [hcount, List.count_eq_zero.2 (hcleared.untracked o)]
      cases lost <;> simp
    · rwa [Holdings.addresses, hother]
  · -- The entry taken out is all that was lost; the other origin loses nothing.
    rintro ⟨hone, hfree⟩
    refine Cleared.of_lost (fun o' => ?_) fun o' => ?_
    · rcases o.eq_or_eq_other o' with rfl | rfl
      · exact ⟨lost.toList, fun a ha => haddress a (Option.mem_toList.1 ha), hperm⟩
      · exact ⟨[], nofun, .of_eq hother.symm⟩
    · rcases o.eq_or_eq_other o' with rfl | rfl
      · rw [← List.count_eq_zero]
        cases lost with
        | none =>
          have hzero := List.count_eq_zero.2 (hnone rfl)
          omega
        | some a =>
          rw [Option.toList_some, List.length_singleton] at hcount
          omega
      · rwa [Holdings.addresses, hother]

end Desk

namespace Session

variable {ι : Type} [DecidableEq ι] {allowed : List (ι × Handout) → ι → AllocCall → Prop}
  {given : List (ι × Handout)} {start s : Session SimulatedDevice ι}

/-- A pointer that was handed out is given back successfully to the allocator that it came from. It
is cleared exactly if it was tracked once at most in the list that belongs to the call, and not in
the other list; and, as long as the device has addresses left, exactly if it is given back in the
way in which it was handed out. -/
theorem cleared_iff_origin_eq (hstart : start.Unused) (hrun : Dealings allowed start given s)
    {j : ι} {x : Handout} (hx : (j, x) ∈ given) {m : Member} {remembered : Option Nat}
    {expired : Nat} {call : AllocCall} {o : Origin} (hcall : call.returns = some (x.address, o))
    (hok : call.succeeds m (s.desk j remembered expired) = true) :
    let desk := s.desk j remembered expired
    (desk.Cleared m x.address (call.run m desk) ↔
      ((s.holdings j).addresses o).count x.address ≤ 1 ∧
        x.address ∉ (s.holdings j).addresses o.other) ∧
    (s.driver.nextAddress.toNat < wordMax →
      (desk.Cleared m x.address (call.run m desk) ↔ x.origin = o)) := by
  have hiff := Desk.cleared_iff hcall hok
  refine ⟨hiff, fun hleft => hiff.trans ?_⟩
  have hout := s.outcome j m remembered expired call
  rw [hok, AllocCall.handout_of_returns hcall] at hout
  -- The device gives back only what is in use, and that is tracked where it was handed out.
  have hacc := hrun.accounted hstart hleft
  have htracked := hacc.tracked_of_live (j, x) hx (hout.of_returns hcall).1
  constructor
  · rintro ⟨-, hnone⟩
    refine (o.eq_or_eq_other x.origin).resolve_right fun hother => hnone ?_
    rwa [hother] at htracked
  · rintro rfl
    refine ⟨List.nodup_iff_count_le_one.1 (hacc.tracked_nodup j x.origin) _, fun hmem => ?_⟩
    -- There was one handout at the address, so it cannot be tracked in both lists.
    obtain ⟨y, hy, -, horigin, haddress⟩ := hacc.given_of_tracked j _ _ hmem
    rw [hacc.unique hy hx haddress] at horigin
    cases ho : x.origin <;> simp [ho, Origin.other] at horigin

/-- A process allocates memory and frees it. -/
theorem cleared_of_free :
    ∃ (start s : Session SimulatedDevice Unit) (x : Handout) (m : Member),
      start.Unused ∧ Dealings (fun _ _ _ => True) start [((), x)] s ∧ x.origin = .plain ∧
      (s.desk () none 0).Cleared m x.address
        ((AllocCall.free x.address).run m (s.desk () none 0)) := by
  let m : Member := ⟨7, .standard, fun _ => true⟩
  let seat : Seat := (m.registerSelf { region := Region.zero.setUp .standard 0 }).2
  let start : Session SimulatedDevice Unit := ⟨seat.region, fun _ => {}, {}⟩
  let s := start.serve () m none 0 (.allocate 4096)
  let x : Handout := ⟨simulatedBase, .plain, 4096⟩
  have hstart : start.Unused := ⟨fun _ => rfl, rfl, rfl, rfl⟩
  have hgiven : (AllocCall.allocate 4096).handout m (start.desk () none 0) = some x := by
    decide +kernel
  have h₀ : Dealings (fun _ _ _ => True) start [] start := .start
  have hrun := h₀.call () m none 0 (.allocate 4096) nofun trivial
  rw [hgiven] at hrun
  have hok : (AllocCall.free x.address).succeeds m (s.desk () none 0) = true := by decide +kernel
  -- Addresses are left, so that no address was handed out twice.
  have hleft : s.driver.nextAddress.toNat < wordMax := by decide +kernel
  have hiff := cleared_iff_origin_eq (x := x) hstart hrun (List.mem_singleton_self _) rfl hok
  exact ⟨start, s, x, m, hstart, hrun, rfl, (hiff.2 hleft).2 rfl⟩

/-- A process frees memory of the pool as if it were plain. The device frees it, and it stays
tracked and charged. -/
theorem not_cleared :
    ∃ (start s : Session SimulatedDevice Unit) (x : Handout) (m : Member),
      start.Unused ∧ Dealings (fun _ _ _ => True) start [((), x)] s ∧
      s.driver.nextAddress.toNat < wordMax ∧ x.address ∈ s.driver.addresses ∧
      (AllocCall.free x.address).succeeds m (s.desk () none 0) = true ∧
      ¬ (s.desk () none 0).Cleared m x.address
        ((AllocCall.free x.address).run m (s.desk () none 0)) := by
  let m : Member := ⟨7, .standard, fun _ => true⟩
  let seat : Seat := (m.registerSelf { region := Region.zero.setUp .standard 0 }).2
  let start : Session SimulatedDevice Unit := ⟨seat.region, fun _ => {}, {}⟩
  let s := start.serve () m none 0 (.allocateAsync 4096 0)
  let x : Handout := ⟨simulatedBase, .pooled, 4096⟩
  have hgiven : (AllocCall.allocateAsync 4096 0).handout m (start.desk () none 0) = some x := by
    decide +kernel
  have h₀ : Dealings (fun _ _ _ => True) start [] start := .start
  have hrun := h₀.call () m none 0 (.allocateAsync 4096 0) nofun trivial
  rw [hgiven] at hrun
  -- The entry of the pool is still there after the release, since that looks at the plain ones
  -- only.
  have htracked : x.address ∈
      ((AllocCall.free x.address).run m (s.desk () none 0)).holdings.addresses .pooled := by
    decide +kernel
  refine ⟨start, s, x, m, ⟨fun _ => rfl, rfl, rfl, rfl⟩, hrun, ?_, ?_, ?_, fun hcleared => ?_⟩
  · decide +kernel
  · decide +kernel
  · decide +kernel
  · exact hcleared.untracked .pooled htracked

end Session

end GpuQuota
