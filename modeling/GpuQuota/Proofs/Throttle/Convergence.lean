import GpuQuota.Proofs.Throttle.Feedback
import Mathlib

/-!
# The feedback converges

On a device that is not too small every step is at least one, whatever the distance from the limit.
While all looks see the job on one side of the limit, the share therefore moves to the end of its
range on that side, in no more looks than it is away from there, and stays.

The module introduces:

* `DeviceSpec.shareAt` — the share after some looks.
* `DeviceSpec.one_le_step` — on a device that is not too small, the share moves with every look.
* `DeviceSpec.min_le_shareAt`, `DeviceSpec.shareAt_le_max` — how far it has moved after some looks.
* `DeviceSpec.shareAt_converges` — it moves in one direction, arrives and stays.
-/

namespace GpuQuota

namespace DeviceSpec

/-- The share after looks that see one utilization after the other. -/
def shareAt (s : DeviceSpec) (total limit : Int) (users : ℕ → Int) (share : Int) : ℕ → Int
  | 0 => share
  | n + 1 => s.nextShare total limit (users n) (s.shareAt total limit users share n)

variable {s : DeviceSpec} {total limit user share : Int} {users : ℕ → Int}

/-! ## The least step -/

/-- The sizes still make up the least product where they saturate. -/
theorem le_weight (hs : s.IsSize)
    (hleast : 512 ≤ s.multiprocessors * s.multiprocessors * s.threads) : 512 ≤ s.weight := by
  have hsquare := Int.mul_nonneg hs.multiprocessors_nonneg hs.multiprocessors_nonneg
  have hthreads := hs.threads_nonneg
  rw [weight]
  generalize s.multiprocessors * s.multiprocessors = square at hleast hsquare
  have hproduct : 512 ≤ saturate square * s.threads := by
    rcases le_or_gt square signedMax with hle | hlt
    · rwa [saturate_eq_self (Int.le_trans (by decide) hsquare) hle]
    · -- A square that saturates is large enough by itself, as there is a thread.
      have hone : 1 ≤ s.threads := by
        by_contra hnone
        have hzero : s.threads = 0 := by omega
        rw [hzero, Int.mul_zero] at hleast
        omega
      calc (512 : Int) ≤ saturate signedMax := by decide
        _ ≤ saturate square := saturate_mono (Int.le_of_lt hlt)
        _ = saturate square * 1 := (Int.mul_one _).symm
        _ ≤ saturate square * s.threads :=
          Int.mul_le_mul_of_nonneg_left hone (saturate_nonneg hsquare)
  calc (512 : Int) ≤ saturate 512 := by decide
    _ ≤ saturate (saturate square * s.threads) := saturate_mono hproduct

/-- The least distance makes a step of at least one: the least product times that distance is the
divisor. -/
theorem one_le_baseStep (hs : s.IsSize)
    (hleast : 512 ≤ s.multiprocessors * s.multiprocessors * s.threads) :
    1 ≤ s.baseStep minDistance := by
  have hweight := le_weight hs hleast
  rw [baseStep_eq]
  refine Int.le_tdiv_of_mul_le (by decide) ?_
  -- The divisor is reached by the smallest device that is allowed, at the smallest distance.
  have hproduct : stepDivisor ≤ s.weight * minDistance := by
    simp only [stepDivisor, minDistance]
    omega
  calc 1 * stepDivisor ≤ saturate stepDivisor := by decide
    _ ≤ saturate (s.weight * minDistance) := saturate_mono hproduct

/-- The share moves with every look. -/
theorem one_le_step (hs : s.IsSize)
    (hleast : 512 ≤ s.multiprocessors * s.multiprocessors * s.threads) (hlimit : 0 ≤ limit)
    (hpercent : limit ≤ 100) (user : Int) : 1 ≤ s.step limit user := by
  have hmin := minDistance_le_distance limit user
  have hbase : s.baseStep minDistance ≤ s.stepFor limit minDistance := by
    rw [stepFor]
    split
    next hfar => exact baseStep_le_enlarge hs hlimit hpercent (by decide) hfar
    next => exact Int.le_refl _
  calc 1 ≤ s.baseStep minDistance := one_le_baseStep hs hleast
    _ ≤ s.stepFor limit minDistance := hbase
    _ ≤ s.stepFor limit (distance limit user) := stepFor_mono hs hlimit hpercent (by decide) hmin

/-! ## One look -/

/-- Within the limit the share grows by one at least, up to the total. -/
theorem min_le_nextShare (share : Int) (hstep : 1 ≤ s.step limit user) (htotal : 0 ≤ total)
    (hmax : total ≤ signedMax) (h : user ≤ limit) :
    min total (share + 1) ≤ s.nextShare total limit user share := by
  rw [s.nextShare_of_le total share h]
  simp only [saturate, signedMin, signedMax] at hmax ⊢
  omega

/-- Beyond the limit the share falls by one at least, down to zero. -/
theorem nextShare_le_max (total share : Int) (hstep : 1 ≤ s.step limit user)
    (h : limit < user) : s.nextShare total limit user share ≤ max 0 (share - 1) := by
  rw [s.nextShare_of_lt total share h]
  simp only [saturate, signedMin, signedMax]
  omega

/-! ## Any number of looks -/

/-- The share is in range at all times. -/
theorem shareAt_mem (s : DeviceSpec) (limit : Int) (users : ℕ → Int) (htotal : 0 ≤ total)
    (hnonneg : 0 ≤ share) (hshare : share ≤ total) (n : ℕ) :
    0 ≤ s.shareAt total limit users share n ∧ s.shareAt total limit users share n ≤ total := by
  cases n with
  | zero => exact ⟨hnonneg, hshare⟩
  | succ n => exact ⟨s.nextShare_nonneg _ _ _ _, s.nextShare_le _ _ _ htotal⟩

/-- While all looks see the job within the limit, the share does not fall. -/
theorem monotone_shareAt (hs : s.IsSize) (htotal : 0 ≤ total) (hmax : total ≤ signedMax)
    (hnonneg : 0 ≤ share) (hshare : share ≤ total) (hwithin : ∀ n, users n ≤ limit) :
    Monotone (s.shareAt total limit users share) := by
  apply monotone_nat_of_le_succ
  intro n
  have hrange := s.shareAt_mem limit users htotal hnonneg hshare n
  exact le_nextShare hs hmax hrange.2 (hwithin n)

/-- While all looks see it beyond the limit, the share does not rise. -/
theorem antitone_shareAt (hs : s.IsSize) (htotal : 0 ≤ total) (hnonneg : 0 ≤ share)
    (hshare : share ≤ total) (hover : ∀ n, limit < users n) :
    Antitone (s.shareAt total limit users share) := by
  apply antitone_nat_of_succ_le
  intro n
  have hrange := s.shareAt_mem limit users htotal hnonneg hshare n
  exact nextShare_le_share hs total hrange.1 (hover n)

/-- Within the limit the share has grown by the number of looks at least, up to the total. -/
theorem min_le_shareAt (share : Int) (hstep : ∀ user, 1 ≤ s.step limit user) (htotal : 0 ≤ total)
    (hmax : total ≤ signedMax) (hwithin : ∀ n, users n ≤ limit) (n : ℕ) :
    min total (share + n) ≤ s.shareAt total limit users share n := by
  -- The induction is on the looks; each one adds one at least, up to the total.
  induction n with
  | zero => simp [shareAt]
  | succ n ih =>
    have hnext := min_le_nextShare (s.shareAt total limit users share n) (hstep (users n)) htotal
      hmax (hwithin n)
    rw [shareAt]
    omega

/-- Beyond the limit the share has fallen by the number of looks at least, down to zero. -/
theorem shareAt_le_max (hstep : ∀ user, 1 ≤ s.step limit user) (total : Int) (hnonneg : 0 ≤ share)
    (hover : ∀ n, limit < users n) (n : ℕ) :
    s.shareAt total limit users share n ≤ max 0 (share - n) := by
  -- The induction is on the looks; each one takes away one at least, down to zero.
  induction n with
  | zero => simp [shareAt, hnonneg]
  | succ n ih =>
    have hnext := nextShare_le_max total (s.shareAt total limit users share n) (hstep (users n))
      (hover n)
    rw [shareAt]
    omega

/-- While all looks see the job within the limit, the share never falls, and is the total as soon as
there have been as many looks as it was short of it. While all see it beyond the limit, the share
never rises, and is zero as soon as there have been as many looks as it was above. -/
theorem shareAt_converges (hs : s.IsSize)
    (hleast : 512 ≤ s.multiprocessors * s.multiprocessors * s.threads) (htotal : 0 ≤ total)
    (hmax : total ≤ signedMax) (hlimit : 0 ≤ limit) (hpercent : limit ≤ 100) (hnonneg : 0 ≤ share)
    (hshare : share ≤ total) :
    ((∀ n, users n ≤ limit) → Monotone (s.shareAt total limit users share) ∧
      ∀ n : ℕ, total - share ≤ n → s.shareAt total limit users share n = total) ∧
    ((∀ n, limit < users n) → Antitone (s.shareAt total limit users share) ∧
      ∀ n : ℕ, share ≤ n → s.shareAt total limit users share n = 0) := by
  -- Every step is one at least, so the distance is an upper bound of their number.
  have hstep := one_le_step hs hleast hlimit hpercent
  have hrange := s.shareAt_mem limit users htotal hnonneg hshare
  constructor
  · intro hwithin
    refine ⟨monotone_shareAt hs htotal hmax hnonneg hshare hwithin, fun n hn => ?_⟩
    have hgrown := min_le_shareAt share hstep htotal hmax hwithin n
    have hle := (hrange n).2
    omega
  · intro hover
    refine ⟨antitone_shareAt hs htotal hnonneg hshare hover, fun n hn => ?_⟩
    have hfallen := shareAt_le_max hstep total hnonneg hover n
    have hle := (hrange n).1
    omega

/-- The smallest device of one multiprocessor, with a utilization that alternates. -/
theorem shareAt_converges_of_smallest :
    let s : DeviceSpec := ⟨1, 512⟩
    let users : ℕ → Int := fun n => if n % 2 = 0 then 100 else 51
    512 ≤ s.multiprocessors * s.multiprocessors * s.threads ∧ (∀ n, 50 < users n) ∧
      s.shareAt s.totalCores 50 users s.totalCores 2 = 16364 ∧
      s.shareAt s.totalCores 50 users s.totalCores 16384 = 0 := by
  -- The utilization jumps between two values above the limit.
  have hover (n : ℕ) : (50 : Int) < if n % 2 = 0 then 100 else 51 := by split <;> decide
  refine ⟨by decide, hover, by decide, ?_⟩
  exact ((shareAt_converges ⟨by decide, by decide⟩ (by decide) (by decide) (by decide) (by decide)
    (by decide) (by decide) (by decide)).2 hover).2 16384 (by decide)

end DeviceSpec

end GpuQuota
