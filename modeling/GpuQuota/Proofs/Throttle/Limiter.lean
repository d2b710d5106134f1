import GpuQuota.Proofs.Throttle.Bucket
import GpuQuota.Proofs.Throttle.Feedback
import GpuQuota.Watcher

/-!
# What happens to a limiter

A limiter is moved by few operations: it is told the size of the device, its bucket is credited,
launches are let in, and looks steer the share. All that reaches its bucket are calls that a bucket
knows, and only looks move the share, which they keep within the capacity; a look that finds the
bucket starved doubles both.

The module introduces:

* `Limiter.pay_cases`, `Limiter.launch_cases` — all that a launch can do to a limiter.
* `Tokens.Reaches` — calls lead from one bucket to another.
* `Limiter.Starved` — the whole share is credited, and the balance is still negative.
* `Limiter.Within` — share and capacity lie between zero and a bound.
* `Limiter.share_steer_le` — beyond the limit the share does not rise, unless it was doubled.
* `Limiter.Within.steer` — the bound that a look leaves.
-/

namespace GpuQuota

namespace Limiter

variable {l paid : Limiter} {m : Member} {r : Region} {grid : UInt64} {relief : Relief}

/-! ## Launches -/

/-- A launch that is let in pays nothing, or its cost. -/
theorem pay_cases (h : l.pay m r grid = some paid) :
    paid = l ∨ ∃ tokens, l.tokens.debit? (cost grid) = some tokens ∧ paid = { l with tokens } := by
  rw [pay] at h
  split at h
  next =>
    obtain ⟨tokens, htokens, hpaid⟩ := Option.map_eq_some_iff.1 h
    exact .inr ⟨tokens, htokens, hpaid.symm⟩
  next => exact .inl (Option.some.inj h).symm

/-- A launch leaves the limiter alone, or pays at once, or pays after a credit. -/
theorem launch_cases (l : Limiter) (m : Member) (r : Region) (grid : UInt64) (relief : Relief) :
    (l.launch m r grid relief).2.1 = l ∨
    (∃ r', l.pay m r' grid = some (l.launch m r grid relief).2.1) ∨
    ∃ amount r', (l.credit amount).pay m r' grid = some (l.launch m r grid relief).2.1 := by
  rw [launch]
  -- The launch is free, paid at once, or paid after one relief.
  split
  next => exact .inl rfl
  next =>
    dsimp only
    cases hpaid : l.pay m { r with recentKernel := 2 } grid with
    | some paid => exact .inr (.inl ⟨_, hpaid⟩)
    | none =>
      dsimp only
      cases hrelief : relief.credit with
      | none => exact .inl rfl
      | some amount =>
        rw [Option.bind_some]
        cases hlate : (l.credit amount).pay m { r with recentKernel := 2 } grid with
        | none => exact .inl rfl
        | some paid => exact .inr (.inr ⟨amount, _, hlate⟩)

end Limiter

/-! ## Calls on the bucket -/

/-- Calls lead from one bucket to the other. -/
def Tokens.Reaches (t t' : Tokens) : Prop :=
  ∃ calls : List TokenCall, (∀ call ∈ calls, call.IsValid) ∧ t' = TokenCall.after t calls

namespace Tokens.Reaches

variable {t t' t'' : Tokens}

/-- No call is needed to stay. -/
theorem refl (t : Tokens) : t.Reaches t := ⟨[], by decide, rfl⟩

/-- Calls may follow calls. -/
theorem trans (h : t.Reaches t') (h' : t'.Reaches t'') : t.Reaches t'' := by
  obtain ⟨calls, hvalid, rfl⟩ := h
  obtain ⟨calls', hvalid', rfl⟩ := h'
  refine ⟨calls ++ calls', fun call hcall => ?_, (TokenCall.after_append t calls calls').symm⟩
  exact (List.mem_append.1 hcall).elim (hvalid call) (hvalid' call)

/-- One call. -/
theorem run (call : TokenCall) (hvalid : call.IsValid) (t : Tokens) : t.Reaches (call.run t) :=
  ⟨[call], by simpa using hvalid, rfl⟩

/-- Setting the capacity is a call. -/
theorem setTotal (t : Tokens) (total : Int) : t.Reaches (t.setTotal total) :=
  run (.setTotal total) trivial t

/-- Doubling the capacity is a call. -/
theorem doubleTotal (t : Tokens) : t.Reaches t.doubleTotal := run .doubleTotal trivial t

/-- Changing the balance is a call. -/
theorem change (t : Tokens) (amount : Int) : t.Reaches (t.change amount) :=
  run (.change amount) trivial t

/-- Taking tokens out is a call, if there are any to take. -/
theorem debit {amount : Int} (hvalid : 0 ≤ amount ∧ amount ≤ signedMax)
    (h : t.debit? amount = some t') : t.Reaches t' := by
  have hrun : (TokenCall.debit amount).run t = t' := by
    rw [TokenCall.run, h, Option.getD_some]
  exact hrun ▸ run (.debit amount) hvalid t

end Tokens.Reaches

namespace Limiter

variable {l paid : Limiter} {m : Member} {r : Region} {grid : UInt64}

/-- Launches cost amounts that a call may name. -/
theorem cost_valid (grid : UInt64) : 0 ≤ cost grid ∧ cost grid ≤ signedMax :=
  ⟨saturate_nonneg (Int.natCast_nonneg _), saturate_le_signedMax _⟩

/-- Paying for a launch is a call, or nothing. -/
theorem reaches_pay (h : l.pay m r grid = some paid) : l.tokens.Reaches paid.tokens := by
  obtain rfl | ⟨tokens, htokens, rfl⟩ := pay_cases h
  · exact .refl _
  · exact .debit (cost_valid grid) htokens

/-- Launches reach the bucket only by calls. -/
theorem reaches_launch (l : Limiter) (m : Member) (r : Region) (grid : UInt64) (relief : Relief) :
    l.tokens.Reaches (l.launch m r grid relief).2.1.tokens := by
  obtain h | ⟨r', h⟩ | ⟨amount, r', h⟩ := l.launch_cases m r grid relief
  · rw [h]
    exact .refl _
  · exact reaches_pay h
  · exact (Tokens.Reaches.change l.tokens amount).trans (reaches_pay h)

/-! ## Looks -/

/-- The whole share is credited with every look, and the balance is still negative. -/
def Starved (l : Limiter) : Prop := l.share = l.tokens.total ∧ l.tokens.current < 0

instance (l : Limiter) : Decidable l.Starved := inferInstanceAs (Decidable (_ ∧ _))

/-- The limiter before the feedback: a starved bucket has been doubled, and the share with it. -/
def relieved (l : Limiter) : Limiter :=
  if l.Starved then
    { l with tokens := l.tokens.doubleTotal, share := l.tokens.doubleTotal.total }
  else l

/-- A look relieves the limiter first, and then feeds back a utilization that makes sense. -/
theorem steer_eq (l : Limiter) (limit user : Int) :
    Watch.steer l limit user =
      if 0 ≤ user ∧ user ≤ 100 then
        let share := l.relieved.nextShare limit user l.relieved.share
        { l.relieved.credit share with share }
      else l.relieved := rfl

/-- A starved bucket is doubled. -/
theorem relieved_of_starved (h : l.Starved) :
    l.relieved = { l with tokens := l.tokens.doubleTotal, share := l.tokens.doubleTotal.total } :=
  if_pos h

/-- Any other one is left alone. -/
theorem relieved_of_not_starved (h : ¬ l.Starved) : l.relieved = l := if_neg h

/-- The share that the feedback begins with. -/
theorem share_relieved (l : Limiter) :
    l.relieved.share = if l.Starved then saturate (l.share * 2) else l.share := by
  by_cases h : l.Starved
  · rw [relieved_of_starved h, if_pos h, h.1]
    rfl
  · rw [relieved_of_not_starved h, if_neg h]

/-- Relief reaches the bucket by a call, or not at all. -/
theorem reaches_relieved (l : Limiter) : l.tokens.Reaches l.relieved.tokens := by
  by_cases h : l.Starved
  · rw [relieved_of_starved h]
    exact .doubleTotal _
  · rw [relieved_of_not_starved h]
    exact .refl _

/-- Looks reach the bucket only by calls. -/
theorem reaches_steer (l : Limiter) (limit user : Int) :
    l.tokens.Reaches (Watch.steer l limit user).tokens := by
  rw [steer_eq]
  split
  next => exact l.reaches_relieved.trans (.change _ _)
  next => exact l.reaches_relieved

/-! ## The bound -/

/-- The device has a size, and share and capacity lie between zero and a bound. -/
structure Within (l : Limiter) (bound : Int) : Prop where
  isSize : l.spec.IsSize
  share_nonneg : 0 ≤ l.share
  share_le : l.share ≤ bound
  total_nonneg : 0 ≤ l.tokens.total
  total_le : l.tokens.total ≤ bound

variable {bound limit user : Int} {l' : Limiter}

/-- A new limiter keeps within any bound. -/
theorem within_startingAt (now : UInt64) (h : 0 ≤ bound) : (startingAt now).Within bound :=
  ⟨⟨Int.le_refl 0, Int.le_refl 0⟩, Int.le_refl 0, h, Int.le_refl 0, h⟩

/-- A limiter that is told its device keeps within a bound that has room for it. -/
theorem Within.setSpec (h : l.Within bound) {spec : DeviceSpec} (hsize : spec.IsSize)
    (hle : spec.totalCores ≤ bound) : (l.setSpec spec).Within bound := by
  have hbound : 0 ≤ bound := Int.le_trans h.share_nonneg h.share_le
  exact ⟨hsize, h.share_nonneg, h.share_le, Int.le_max_right _ 0, Int.max_le.2 ⟨hle, hbound⟩⟩

/-- The balance does not matter to the bound. -/
theorem Within.congr (h : l.Within bound) (hspec : l'.spec = l.spec) (hshare : l'.share = l.share)
    (htotal : l'.tokens.total = l.tokens.total) : l'.Within bound := by
  obtain ⟨hsize, hnonneg, hle, htotal₀, htotal₁⟩ := h
  rw [← hspec] at hsize
  rw [← hshare] at hnonneg hle
  rw [← htotal] at htotal₀ htotal₁
  exact ⟨hsize, hnonneg, hle, htotal₀, htotal₁⟩

/-- A credit concerns the balance only. -/
theorem Within.credit (h : l.Within bound) (amount : Int) : (l.credit amount).Within bound :=
  h.congr rfl rfl rfl

/-- So does a payment. -/
theorem Within.pay (h : l.Within bound) (hpay : l.pay m r grid = some paid) :
    paid.Within bound := by
  obtain rfl | ⟨tokens, htokens, rfl⟩ := pay_cases hpay
  · exact h
  · rw [Tokens.debit?] at htokens
    split at htokens
    next => cases htokens
    next =>
      cases htokens
      exact h.congr rfl rfl rfl

/-- Launches move neither the share nor the capacity. -/
theorem Within.launch (h : l.Within bound) (m : Member) (r : Region) (grid : UInt64)
    (relief : Relief) : (l.launch m r grid relief).2.1.Within bound := by
  obtain hlaunch | ⟨r', hpay⟩ | ⟨amount, r', hpay⟩ := l.launch_cases m r grid relief
  · rwa [hlaunch]
  · exact h.pay hpay
  · exact (h.credit amount).pay hpay

/-- Relief doubles the bound where it doubles the bucket. -/
theorem Within.relieved (h : l.Within bound) :
    l.relieved.Within (if l.Starved then saturate (bound * 2) else bound) := by
  -- Only a starved bucket is doubled, and with it the bound.
  by_cases hstarved : l.Starved
  · have htotal : 0 ≤ saturate (l.tokens.total * 2) := by
      have hnonneg := h.total_nonneg
      exact saturate_nonneg (by omega)
    have hle : saturate (l.tokens.total * 2) ≤ saturate (bound * 2) := by
      have hbound := h.total_le
      exact saturate_mono (by omega)
    rw [relieved_of_starved hstarved, if_pos hstarved]
    exact ⟨h.isSize, htotal, hle, htotal, hle⟩
  · rwa [relieved_of_not_starved hstarved, if_neg hstarved]

/-- A look that finds the bucket starved doubles the bound; any other one keeps it. -/
theorem Within.steer (h : l.Within bound) (limit user : Int) :
    (Watch.steer l limit user).Within (if l.Starved then saturate (bound * 2) else bound) := by
  have hrelieved := h.relieved
  rw [steer_eq]
  -- The feedback stays below the total, which is within the bound already.
  split
  next =>
    have hle := l.relieved.spec.nextShare_le limit user l.relieved.share hrelieved.total_nonneg
    exact ⟨hrelieved.isSize, l.relieved.spec.nextShare_nonneg _ _ _ _,
      Int.le_trans hle hrelieved.total_le, hrelieved.total_nonneg, hrelieved.total_le⟩
  next => exact hrelieved

/-- Beyond the limit the share does not rise, from what it was or, if the bucket was starved, from
twice that. -/
theorem share_steer_le (h : l.Within bound) (hover : limit < user) :
    (Watch.steer l limit user).share ≤
      if l.Starved then saturate (l.share * 2) else l.share := by
  have hrelieved := h.relieved
  rw [← share_relieved, steer_eq]
  split
  next => exact DeviceSpec.nextShare_le_share hrelieved.isSize _ hrelieved.share_nonneg hover
  next => exact Int.le_refl _

end Limiter

end GpuQuota
