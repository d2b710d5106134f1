import GpuQuota.Proofs.Allocation.Conservation

/-!
# The counters of a slot do not drift

A slot is handed to processes and charged, charges are taken back, and writers die within the
section that the sequence number guards. Two counters move with every charge, and both wrap around;
the number is left odd by the dead and made even by whoever comes next. However often that happens
and in whatever order, the counters are those of a ledger that is kept in integers, and the number
tells whether somebody has died since a call last came to its end.

The module introduces:

* `SlotCall` — a call on a slot, or the death of a writer; `SlotCall.after` is what calls lead to.
* `SlotCall.sinceReset`, `SlotCall.balance` — the ledger of the process that has the slot.
* `SlotCall.sinceDone` — the calls after the last one that came to its end.
* `SlotCall.after_induction` — how to prove something of all slots that calls lead to.
* `Slot.no_drift` — the counters, the totals and the sequence number after any calls.
* `Member.slotAt_addUsage`, `Member.slotAt_removeUsage` — members make these calls.
-/

namespace GpuQuota

/-! ## Ledgers -/

/-- Amounts of bytes, by device and kind, as integers. -/
abbrev Ledger := DeviceIndex → UsageKind → Int

namespace Ledger

/-- One amount. A device beyond the room of the region has none. -/
def entry (dev : Nat) (kind : UsageKind) (n : Int) : Ledger :=
  fun d k => if dev = d.val ∧ kind = k then n else 0

theorem entry_eq_zero {dev : Nat} (h : maxDevices ≤ dev) (kind : UsageKind) (n : Int) :
    entry dev kind n = 0 := by
  funext d k
  refine if_neg ?_
  rintro ⟨rfl, -⟩
  exact absurd d.isLt (by omega)

end Ledger

namespace Usage

/-- The change moves the counter of one kind by an amount, modulo `2^64`, and the total alike. -/
structure Shifts (f : Usage → Usage) (kind : UsageKind) (n : Int) : Prop where
  get_eq : ∀ u k, (((f u).get k).toNat : Int) =
    ((u.get k).toNat + if kind = k then n else 0) % 2 ^ 64
  drift_eq : ∀ u, (f u).drift = u.drift

theorem Shifts.of_get {f : Usage → Usage} {kind : UsageKind} {n : Int} (shift : UInt64 → UInt64)
    (hget : ∀ u k, (f u).get k = if k = kind then shift (u.get k) else u.get k)
    (hshift : ∀ w : UInt64, ((shift w).toNat : Int) = (w.toNat + n) % 2 ^ 64)
    (hdrift : ∀ u, (f u).drift = u.drift) : Shifts f kind n where
  get_eq u k := by
    rw [hget]
    -- The other kinds are shifted by nothing, and a word is its own remainder.
    by_cases h : k = kind
    · rw [if_pos h, if_pos h.symm, hshift]
    · have hlt := (u.get k).toNat_lt
      rw [if_neg h, if_neg (Ne.symm h)]
      omega
  drift_eq := hdrift

theorem shifts_charge (kind : UsageKind) (bytes : UInt64) :
    Shifts (·.charge kind bytes) kind bytes.toNat := by
  refine .of_get (· + bytes) (fun u k => u.get_charge kind k bytes) (fun w => ?_)
    fun u => u.drift_charge kind bytes
  rw [UInt64.toNat_add]
  omega

theorem shifts_release (kind : UsageKind) (bytes : UInt64) :
    Shifts (·.release kind bytes) kind (-bytes.toNat) := by
  refine .of_get (· - bytes) (fun u k => u.get_release kind k bytes) (fun w => ?_)
    fun u => u.drift_release kind bytes
  have hlt := bytes.toNat_lt
  rw [UInt64.toNat_sub]
  omega

/-- Counters that stand for amounts with a sum in range add up. -/
theorem isBalanced_of_amounts {u : Usage} {n : UsageKind → Int}
    (hget : ∀ k, ((u.get k).toNat : Int) = n k % 2 ^ 64)
    (htotal : u.total = u.context + u.module + u.data) (hnonneg : ∀ k, 0 ≤ n k)
    (hsum : n .context + n .module + n .data < 2 ^ 64) : u.IsBalanced := by
  have hcontext : (u.context.toNat : Int) = n .context % 2 ^ 64 := hget .context
  have hmodule : (u.module.toNat : Int) = n .module % 2 ^ 64 := hget .module
  have hdata : (u.data.toNat : Int) = n .data % 2 ^ 64 := hget .data
  -- None of the amounts exceeds the sum, so the counters are the amounts themselves.
  have hcontext₀ := hnonneg .context
  have hmodule₀ := hnonneg .module
  have hdata₀ := hnonneg .data
  rw [IsBalanced, htotal, UInt64.toNat_add, UInt64.toNat_add]
  omega

end Usage

namespace Slot

/-- The counters of the slot are the amounts of the ledger, modulo `2^64`. -/
def Records (s : Slot) (ledger : Ledger) : Prop :=
  ∀ d k, (((s.device d).usage.get k).toNat : Int) = ledger d k % 2 ^ 64

variable {s : Slot} {ledger : Ledger}

theorem records_zero (h : s.devices = .replicate _ .zero) : s.Records 0 := by
  intro d k
  rw [device_replicate_zero h]
  cases k <;> rfl

/-- A write that shifts one counter is recorded as one amount. -/
theorem Records.writeUsage (h : s.Records ledger) (d : DeviceIndex) {f : Usage → Usage}
    {kind : UsageKind} {n : Int} (hf : Usage.Shifts f kind n) :
    (s.writeUsage d f).Records (ledger + .entry d kind n) := by
  intro e k
  rw [device_writeUsage, Pi.add_apply, Pi.add_apply, Ledger.entry]
  -- Only the device that is written to has its row moved.
  by_cases he : e = d
  · subst he
    rw [if_pos rfl]
    dsimp only
    rw [hf.get_eq, h e k, Int.emod_add_emod]
    simp only [true_and]
  · have hne : ¬ (d.val = e.val ∧ kind = k) := fun hde => he (Fin.ext hde.1.symm)
    rw [if_neg he, if_neg hne, add_zero]
    exact h e k

end Slot

/-! ## Calls -/

/-- A call on a slot, or the death of a writer of it. -/
inductive SlotCall
  /-- The slot is handed to a process. -/
  | reset (pid : Pid)
  /-- Bytes are charged. -/
  | add (dev : Nat) (kind : UsageKind) (bytes : UInt64)
  /-- A charge is taken back. -/
  | remove (dev : Nat) (kind : UsageKind) (bytes : UInt64)
  /-- A writer enters and dies. -/
  | die
  deriving DecidableEq

namespace SlotCall

/-- Writes on a device, if the slot has it. -/
def onDevice (dev : Nat) (write : DeviceIndex → Slot) (s : Slot) :
    Except InvalidDevice Unit × Slot :=
  match device? dev with
  | .ok d => (.ok (), write d)
  | .error e => (.error e, s)

/-- The answer to a call and the slot after it. -/
def run : SlotCall → Slot → Except InvalidDevice Unit × Slot
  | .reset pid, s => (.ok (), s.resetFor pid)
  | .add dev kind bytes, s => onDevice dev (s.addUsage · kind bytes) s
  | .remove dev kind bytes, s => onDevice dev (s.removeUsage · kind bytes) s
  | .die, s => (.ok (), s.stick)

/-- What calls lead to. -/
def after (s : Slot) (calls : List SlotCall) : Slot := calls.foldl (fun s call => (call.run s).2) s

/-- The call hands the slot to a process. -/
def isReset : SlotCall → Bool
  | .reset _ => true
  | _ => false

/-- The call is not refused, and whoever makes it lives to see its end. -/
def isDone : SlotCall → Bool
  | .reset _ => true
  | .add dev _ _ | .remove dev _ _ => dev < maxDevices
  | .die => false

/-- What a call adds to the ledger. -/
def amount : SlotCall → Ledger
  | .add dev kind bytes => .entry dev kind bytes.toNat
  | .remove dev kind bytes => .entry dev kind (-bytes.toNat)
  | .reset _ => 0
  | .die => 0

/-- The calls since the slot was last handed to a process. -/
def sinceReset (calls : List SlotCall) : List SlotCall := calls.rtakeWhile (!·.isReset)

/-- The calls since one last came to its end. -/
def sinceDone (calls : List SlotCall) : List SlotCall := calls.rtakeWhile (!·.isDone)

/-- The ledger: what was charged since the slot was last handed out, less what was taken back. -/
def balance (calls : List SlotCall) : Ledger := ((sinceReset calls).map amount).sum

/-- The ledger has a beginning: the slot was new, or it has been handed to a process since. -/
def Begun (s : Slot) (calls : List SlotCall) : Prop := s = .empty ∨ ∃ pid, .reset pid ∈ calls

variable {s : Slot} {calls : List SlotCall} {call : SlotCall}

theorem after_concat (s : Slot) (calls : List SlotCall) (call : SlotCall) :
    after s (calls ++ [call]) = (call.run (after s calls)).2 := by
  rw [after, List.foldl_concat, after]

theorem sinceReset_concat (calls : List SlotCall) (call : SlotCall) :
    sinceReset (calls ++ [call]) = if call.isReset then [] else sinceReset calls ++ [call] := by
  rw [sinceReset, List.rtakeWhile_concat, ← sinceReset]
  cases call.isReset <;> rfl

theorem sinceDone_concat (calls : List SlotCall) (call : SlotCall) :
    sinceDone (calls ++ [call]) = if call.isDone then [] else sinceDone calls ++ [call] := by
  rw [sinceDone, List.rtakeWhile_concat, ← sinceDone]
  cases call.isDone <;> rfl

/-- A call is entered in the ledger, unless it hands the slot out and with that opens a new one. -/
theorem balance_concat (calls : List SlotCall) (call : SlotCall) :
    balance (calls ++ [call]) =
      if call.isReset then 0 else balance calls + call.amount := by
  rw [balance, sinceReset_concat]
  split
  next => rfl
  next => rw [List.map_append, List.sum_append, List.map_singleton, List.sum_singleton, balance]

/-- The order of the entries does not matter. -/
theorem balance_eq_of_perm {calls' : List SlotCall}
    (h : (sinceReset calls').Perm (sinceReset calls)) : balance calls' = balance calls :=
  (h.map _).sum_eq

/-- A slot that calls lead to is new, or was just handed out, or comes from such a slot by a call of
another kind. -/
theorem after_induction {P : List SlotCall → Slot → Prop} (hempty : P [] .empty)
    (hreset : ∀ calls (s : Slot) pid, P (calls ++ [.reset pid]) (s.resetFor pid))
    (hcall : ∀ calls s call, call.isReset = false → P calls s →
      P (calls ++ [call]) (call.run s).2)
    (h : Begun s calls) : P calls (after s calls) := by
  induction calls using List.reverseRecOn with
  | nil =>
    obtain rfl | ⟨pid, hpid⟩ := h
    · exact hempty
    · cases hpid
  | append_singleton calls call ih =>
    rw [after_concat]
    cases hkind : call.isReset with
    | true =>
      -- No other call is of this kind.
      cases call
      case reset pid => exact hreset calls (after s calls) pid
      all_goals cases hkind
    | false =>
      refine hcall calls _ call hkind (ih (h.imp_right ?_))
      rintro ⟨pid, hpid⟩
      refine ⟨pid, (List.mem_append.1 hpid).resolve_right fun hlast => ?_⟩
      rw [← List.mem_singleton.1 hlast] at hkind
      cases hkind

/-- A write on a device that the slot has is carried out. -/
theorem onDevice_of_lt {dev : Nat} (h : dev < maxDevices) (write : DeviceIndex → Slot) (s : Slot) :
    onDevice dev write s = (.ok (), write ⟨dev, h⟩) := by
  rw [onDevice, device?, dif_pos h]

/-- Any other one is refused, and leaves the slot alone. -/
theorem onDevice_of_le {dev : Nat} (h : maxDevices ≤ dev) (write : DeviceIndex → Slot) (s : Slot) :
    onDevice dev write s = (.error ⟨dev⟩, s) := by
  rw [onDevice, device?, dif_neg (Nat.not_lt.2 h)]

/-- What a call does to a slot that it does not hand out. -/
inductive Effect (call : SlotCall) (s : Slot) : Prop
  /-- It shifts the counters of a device in a whole write. -/
  | write (d : DeviceIndex) (kind : UsageKind) (n : Int) (f : Usage → Usage)
    (hf : Usage.Shifts f kind n) (hamount : call.amount = .entry d kind n) (hdone : call.isDone)
    (hrun : call.run s = (.ok (), s.writeUsage d f))
  /-- It is refused, and leaves the slot alone. -/
  | refused (e : InvalidDevice) (hamount : call.amount = 0) (hdone : call.isDone = false)
    (hne : call ≠ .die) (hrun : call.run s = (.error e, s))
  /-- A writer dies. -/
  | die (hdie : call = .die)

theorem Effect.of_onDevice {dev : Nat} {kind : UsageKind} {n : Int} {f : Usage → Usage}
    (hf : Usage.Shifts f kind n) (hamount : call.amount = .entry dev kind n)
    (hdone : call.isDone = decide (dev < maxDevices)) (hne : call ≠ .die)
    (hrun : call.run s = onDevice dev (s.writeUsage · f) s) : call.Effect s := by
  -- A device in range is written to; one out of range changes nothing.
  rcases Nat.lt_or_ge dev maxDevices with h | h
  · refine .write ⟨dev, h⟩ kind n f hf hamount ?_ ?_
    · rw [hdone, decide_eq_true h]
    · rw [hrun, onDevice_of_lt h]
  · refine .refused ⟨dev⟩ ?_ ?_ hne ?_
    · rw [hamount, Ledger.entry_eq_zero h]
    · rw [hdone, decide_eq_false (Nat.not_lt.2 h)]
    · rw [hrun, onDevice_of_le h]

theorem effect (s : Slot) (hcall : call.isReset = false) : call.Effect s := by
  cases call with
  | reset pid => cases hcall
  | add dev kind bytes => exact .of_onDevice (Usage.shifts_charge kind bytes) rfl rfl nofun rfl
  | remove dev kind bytes => exact .of_onDevice (Usage.shifts_release kind bytes) rfl rfl nofun rfl
  | die => exact .die rfl

/-! ## What calls lead to -/

/-- The counters record the ledger. -/
theorem records_after (h : Begun s calls) : (after s calls).Records (balance calls) := by
  -- The induction takes the last call off: a reset starts the ledger over, every other call moves
  -- it by its amount.
  refine after_induction (P := fun calls s => s.Records (balance calls)) (Slot.records_zero rfl)
    (fun calls s pid => ?_) (fun calls s call hcall hs => ?_) h
  · rw [balance_concat, if_pos (show (reset pid).isReset from rfl)]
    exact Slot.records_zero rfl
  · rw [balance_concat, if_neg (by simp [hcall])]
    cases call.effect s hcall with
    | write d kind n f hf hamount _ hrun =>
      rw [hrun, hamount]
      exact hs.writeUsage d hf
    | refused _ hamount _ _ hrun => rwa [hrun, hamount, add_zero]
    | die hdie =>
      rw [hdie, amount, add_zero]
      exact hs

/-- The totals are the sums of their kinds. -/
theorem isSummed_after (h : Begun s calls) : (after s calls).IsSummed := by
  refine after_induction (P := fun _ s => s.IsSummed) (Slot.isSummed_of_zero rfl)
    (fun _ _ _ => Slot.isSummed_of_zero rfl) (fun calls s call hcall hs => ?_) h
  -- A total that is the sum of the kinds stays so by the same shift on both sides.
  cases call.effect s hcall with
  | write d kind n f hf _ _ hrun =>
    rw [hrun]
    exact hs.writeUsage d hf.drift_eq
  | refused _ _ _ _ hrun => rwa [hrun]
  | die hdie =>
    rw [hdie]
    exact hs

/-- The number is odd exactly if a writer has died since a call last came to its end. -/
theorem isWriting_after (h : Begun s calls) :
    (after s calls).seq.isWriting ↔ .die ∈ sinceDone calls := by
  -- The number is odd from a death inside a write until the next call that comes to its end.
  refine after_induction (P := fun calls s => s.seq.isWriting ↔ .die ∈ sinceDone calls)
    (by decide) (fun calls s pid => ?_) (fun calls s call hcall hs => ?_) h
  · rw [sinceDone_concat, if_pos (show (reset pid).isDone from rfl)]
    exact iff_of_false Bool.false_ne_true List.not_mem_nil
  · rw [sinceDone_concat]
    cases call.effect s hcall with
    | write d kind n f _ _ hdone hrun =>
      have heven : (s.writeUsage d f).seq.isWriting = false := s.seq.isWriting_write
      rw [hrun, heven, if_pos hdone]
      exact iff_of_false Bool.false_ne_true List.not_mem_nil
    | refused _ _ hdone hne hrun =>
      rw [hrun, hs, hdone, if_neg Bool.false_ne_true, List.mem_append, List.mem_singleton]
      exact (or_iff_left hne.symm).symm
    | die hdie =>
      subst hdie
      exact iff_of_true s.seq.isWriting_enter (List.mem_append_right _ List.mem_cons_self)

end SlotCall

namespace Slot

open SlotCall

/-- After any calls the counters of a slot are the amounts of the ledger, modulo `2^64`, whatever
the order of its entries, and the totals are the sums of their kinds. Amounts with a sum in range
give a balanced usage. A call on a device that the slot does not have is refused and changes
nothing. What is read is called consistent exactly if no writer has died since a call last came to
its end. -/
theorem no_drift (s₀ : Slot) (calls : List SlotCall) (h : Begun s₀ calls) :
    let s := after s₀ calls
    (∀ d k, (((s.breakdown d).value.get k).toNat : Int) = balance calls d k % 2 ^ 64) ∧
    (∀ s₁ calls', Begun s₁ calls' → (sinceReset calls').Perm (sinceReset calls) →
      ∀ d, ((after s₁ calls').breakdown d).value = (s.breakdown d).value) ∧
    (∀ d, (s.total d).value = (s.breakdown d).value.context + (s.breakdown d).value.module +
      (s.breakdown d).value.data) ∧
    (∀ d, (∀ k, 0 ≤ balance calls d k) →
      balance calls d .context + balance calls d .module + balance calls d .data < 2 ^ 64 →
      (s.breakdown d).value.IsBalanced) ∧
    (∀ dev, maxDevices ≤ dev → ∀ kind bytes,
      (SlotCall.add dev kind bytes).run s = (.error ⟨dev⟩, s) ∧
      (SlotCall.remove dev kind bytes).run s = (.error ⟨dev⟩, s)) ∧
    ∀ d, ((s.breakdown d).consistent ↔ .die ∉ sinceDone calls) ∧
      ((s.total d).consistent ↔ .die ∉ sinceDone calls) := by
  intro s
  have hrecords : s.Records (balance calls) := records_after h
  have hsummed : s.IsSummed := isSummed_after h
  have hconsistent : (!s.seq.isWriting) = true ↔ .die ∉ sinceDone calls := by
    rw [← isWriting_after h, Bool.not_eq_true', Bool.not_eq_true]
  refine ⟨hrecords, fun s₁ calls' h' hperm d => ?_, fun d => sub_eq_zero.1 (hsummed d),
    fun d hnonneg hsum => ?_, fun dev hdev kind bytes => ?_, fun d => ⟨hconsistent, hconsistent⟩⟩
  · -- With the same kinds and no drift the totals are the same too.
    refine Usage.ext_of_get (fun k => ?_) ((isSummed_after h' d).trans (hsummed d).symm)
    have hget := records_after h' d k
    rw [balance_eq_of_perm hperm, ← hrecords d k] at hget
    exact UInt64.toNat_inj.1 (Int.ofNat.inj hget)
  · exact Usage.isBalanced_of_amounts (hrecords d) (sub_eq_zero.1 (hsummed d)) hnonneg hsum
  · exact ⟨onDevice_of_le hdev .., onDevice_of_le hdev ..⟩

/-- More is taken back than was charged, two writers die, and another charge makes up for both. -/
theorem no_drift_after_deaths :
    ∃ calls : List SlotCall, Begun .empty calls ∧ .die ∈ calls ∧
      ((after .empty calls).breakdown governedDevice).consistent ∧
      ((after .empty calls).breakdown governedDevice).value.IsBalanced := by
  let calls : List SlotCall := [.remove 0 .data 5, .die, .die, .add 0 .data 7]
  obtain ⟨-, -, -, hbalanced, -, hread⟩ := no_drift .empty calls (.inl rfl)
  refine ⟨calls, .inl rfl, by decide, (hread governedDevice).1.2 (by decide), ?_⟩
  exact hbalanced governedDevice (fun k => by cases k <;> decide) (by decide)

end Slot

/-! ## Who calls -/

namespace Member

variable (m : Member) {pid : Pid} {s : Seat} {i : Fin maxProcesses}

/-- Charging a registered process is a call on its slot. -/
theorem slotAt_addUsage (h : s.region.Owns pid i) (dev : Nat) (kind : UsageKind)
    (bytes : UInt64) :
    let called := (SlotCall.add dev kind bytes).run (s.region.slotAt i)
    (m.addUsage pid dev bytes kind s).1 = called.1.mapError .device ∧
      (m.addUsage pid dev bytes kind s).2.region.slotAt i = called.2 := by
  rw [SlotCall.run]
  -- In range the call writes to the slot; out of range both refuse.
  rcases Nat.lt_or_ge dev maxDevices with hdev | hdev
  · obtain ⟨t, ht, hadd⟩ := m.addUsage_of_owns h ⟨dev, hdev⟩ bytes kind
    rw [SlotCall.onDevice_of_lt hdev, hadd, ht, Region.slotAt_modifySlot, if_pos rfl]
    exact ⟨rfl, rfl⟩
  · rw [SlotCall.onDevice_of_le hdev, m.addUsage_apply, device?, dif_neg (Nat.not_lt.2 hdev)]
    exact ⟨rfl, rfl⟩

/-- Taking back a charge of a registered process is a call on its slot. -/
theorem slotAt_removeUsage (h : s.region.Owns pid i) (dev : Nat) (kind : UsageKind)
    (bytes : UInt64) :
    let called := (SlotCall.remove dev kind bytes).run (s.region.slotAt i)
    (m.removeUsage pid dev bytes kind s).1 = called.1.mapError .device ∧
      (m.removeUsage pid dev bytes kind s).2.region.slotAt i = called.2 := by
  rw [SlotCall.run]
  rcases Nat.lt_or_ge dev maxDevices with hdev | hdev
  · obtain ⟨t, ht, hremove⟩ := m.removeUsage_of_owns h ⟨dev, hdev⟩ bytes kind
    rw [SlotCall.onDevice_of_lt hdev, hremove, ht, Region.slotAt_modifySlot, if_pos rfl]
    exact ⟨rfl, rfl⟩
  · rw [SlotCall.onDevice_of_le hdev, m.removeUsage_apply, device?, dif_neg (Nat.not_lt.2 hdev)]
    exact ⟨rfl, rfl⟩

end Member

end GpuQuota
