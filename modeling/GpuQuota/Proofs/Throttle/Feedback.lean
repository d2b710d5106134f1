import GpuQuota.Throttle.Share
import Mathlib.Algebra.Order.Ring.Int

/-!
# The order of the feedback

A look moves the share by a step. The step grows with the distance from the limit, and beyond half
the limit it is enlarged; products saturate and quotients are truncated on the way. None of that
disturbs the order: the share moves towards the side that the utilization asks for, more so the
further it is off, and a greater share stays the greater one.

The module introduces:

* `DeviceSpec.IsSize` — no size of the device is negative.
* `DeviceSpec.stepFor`, `DeviceSpec.enlarge` — the step as a function of the distance.
* `DeviceSpec.baseStep_le_enlarge` — enlarging a step never makes it smaller.
* `DeviceSpec.stepFor_mono`, `DeviceSpec.stepFor_nonneg` — a greater distance makes a greater step.
* `DeviceSpec.nextShare_ordered` — the share after a look is in range and in order.
-/

namespace GpuQuota

namespace DeviceSpec

/-- No size of the device is negative. -/
structure IsSize (s : DeviceSpec) : Prop where
  multiprocessors_nonneg : 0 ≤ s.multiprocessors
  threads_nonneg : 0 ≤ s.threads

variable {s : DeviceSpec} {limit user user' total share share' far far' : Int}

/-! ## The distance -/

/-- A utilization near the limit counts as a little way off. -/
theorem minDistance_le_distance (limit user : Int) : minDistance ≤ distance limit user := by
  simp only [distance]; omega

/-- So no distance is zero. -/
theorem distance_pos (limit user : Int) : 0 < distance limit user :=
  Int.lt_of_lt_of_le (by decide) (minDistance_le_distance limit user)

/-- Within the limit, more utilization is less distance. -/
theorem distance_anti (h : user ≤ user') (hlimit : user' ≤ limit) :
    distance limit user' ≤ distance limit user := by
  simp only [distance]; omega

/-- Beyond the limit, more utilization is more distance. -/
theorem distance_mono (hlimit : limit < user) (h : user ≤ user') :
    distance limit user ≤ distance limit user' := by
  simp only [distance]; omega

/-! ## The step before it is enlarged -/

/-- What the size of the device contributes to a step. -/
def weight (s : DeviceSpec) : Int :=
  saturate (saturate (s.multiprocessors * s.multiprocessors) * s.threads)

/-- A step grows with the size of the device and with the distance. -/
theorem baseStep_eq (s : DeviceSpec) (far : Int) :
    s.baseStep far = (saturate (s.weight * far)).tdiv stepDivisor := rfl

/-- Devices contribute no negative weight. -/
theorem weight_nonneg (hs : s.IsSize) : 0 ≤ s.weight := by
  have hsquare : 0 ≤ saturate (s.multiprocessors * s.multiprocessors) :=
    saturate_nonneg (Int.mul_nonneg hs.multiprocessors_nonneg hs.multiprocessors_nonneg)
  exact saturate_nonneg (Int.mul_nonneg hsquare hs.threads_nonneg)

/-- No step is negative before it is enlarged. -/
theorem baseStep_nonneg (hs : s.IsSize) (hfar : 0 ≤ far) : 0 ≤ s.baseStep far :=
  Int.tdiv_nonneg (saturate_nonneg (Int.mul_nonneg (weight_nonneg hs) hfar)) (by decide)

/-- A greater distance makes a step that is not smaller, before it is enlarged. -/
theorem baseStep_mono (hs : s.IsSize) (h : far ≤ far') : s.baseStep far ≤ s.baseStep far' :=
  Int.tdiv_le_tdiv (by decide) (saturate_mono (Int.mul_le_mul_of_nonneg_left h (weight_nonneg hs)))

/-- A step leaves room for what it is multiplied with later. -/
theorem baseStep_le (s : DeviceSpec) (far : Int) : s.baseStep far ≤ signedMax.tdiv stepDivisor :=
  Int.tdiv_le_tdiv (by decide) (saturate_le_signedMax _)

/-! ## The enlarged step -/

/-- A step enlarged by the distance, in proportion to the limit. -/
def enlarge (limit far base : Int) : Int :=
  (saturate (saturate (base * far) * 2)).tdiv (max (limit + 1) 1)

/-- The step for a distance. -/
def stepFor (s : DeviceSpec) (limit far : Int) : Int :=
  if far > limit.tdiv 2 then enlarge limit far (s.baseStep far) else s.baseStep far

/-- The utilization enters a step by its distance alone. -/
theorem step_eq (s : DeviceSpec) (limit user : Int) :
    s.step limit user = s.stepFor limit (distance limit user) := rfl

/-- Enlarging keeps the order of steps if that is the order of their distances. -/
theorem enlarge_mono {base base' : Int} (hbase : 0 ≤ base) (h : base ≤ base') (hfar : 0 ≤ far)
    (hle : far ≤ far') : enlarge limit far base ≤ enlarge limit far' base' := by
  have hproduct : base * far ≤ base' * far' :=
    Int.mul_le_mul h hle hfar (Int.le_trans hbase h)
  have hdouble : saturate (base * far) * 2 ≤ saturate (base' * far') * 2 :=
    Int.mul_le_mul_of_nonneg_right (saturate_mono hproduct) (by decide)
  exact Int.tdiv_le_tdiv (by omega) (saturate_mono hdouble)

/-- Twice a distance beyond half the limit exceeds the limit. -/
theorem limit_lt_two_mul (hlimit : 0 ≤ limit) (hfar : limit.tdiv 2 < far) : limit < far * 2 := by
  rw [Int.tdiv_eq_ediv_of_nonneg hlimit] at hfar
  omega

/-- Enlarging a step does not make it smaller, even where the products saturate: a step is so far
from the end of the range that the limit still divides the end into greater parts. -/
theorem baseStep_le_enlarge (hs : s.IsSize) (hlimit : 0 ≤ limit) (hpercent : limit ≤ 100)
    (hfar₀ : 0 ≤ far) (hfar : limit.tdiv 2 < far) :
    s.baseStep far ≤ enlarge limit far (s.baseStep far) := by
  have hbase : 0 ≤ s.baseStep far := baseStep_nonneg hs hfar₀
  have hmax : s.baseStep far * 101 ≤ signedMax := by
    have hle := s.baseStep_le far
    have hroom : signedMax.tdiv stepDivisor * 101 ≤ signedMax := by decide
    omega
  -- Without saturation, the enlarged step is the step times a ratio of at least one.
  have hlt := limit_lt_two_mul hlimit hfar
  have hproduct : s.baseStep far * (limit + 1) ≤ s.baseStep far * far * 2 := by
    rw [Int.mul_assoc]
    exact Int.mul_le_mul_of_nonneg_left (by omega) hbase
  have hrange : s.baseStep far * (limit + 1) ≤ signedMax :=
    Int.le_trans (Int.mul_le_mul_of_nonneg_left (by omega) hbase) hmax
  rw [enlarge, Int.max_eq_left (by omega)]
  refine Int.le_tdiv_of_mul_le (by omega) ?_
  have hnonneg : 0 ≤ s.baseStep far * far := Int.mul_nonneg hbase hfar₀
  generalize s.baseStep far * (limit + 1) = low at hproduct hrange
  simp only [saturate, signedMin, signedMax] at hrange ⊢
  omega

/-- Nor is it after it is enlarged. -/
theorem stepFor_nonneg (hs : s.IsSize) (hfar : 0 ≤ far) : 0 ≤ s.stepFor limit far := by
  have hbase := baseStep_nonneg hs hfar
  rw [stepFor]
  split
  next =>
    have hproduct : 0 ≤ saturate (s.baseStep far * far) :=
      saturate_nonneg (Int.mul_nonneg hbase hfar)
    exact Int.tdiv_nonneg (saturate_nonneg (Int.mul_nonneg hproduct (by decide))) (by omega)
  next => exact hbase

/-- A greater distance makes a step that is not smaller, also where only the greater distance
enlarges it. -/
theorem stepFor_mono (hs : s.IsSize) (hlimit : 0 ≤ limit) (hpercent : limit ≤ 100)
    (hfar : 0 ≤ far) (h : far ≤ far') : s.stepFor limit far ≤ s.stepFor limit far' := by
  have hbase := baseStep_mono hs h
  have hnonneg := baseStep_nonneg hs hfar
  rw [stepFor, stepFor]
  split
  next hnear =>
    -- What is enlarged at the smaller distance is enlarged at the greater one.
    rw [if_pos (by omega)]
    exact enlarge_mono hnonneg hbase hfar h
  next =>
    split
    -- Between the two the enlargement sets in, which is where it could have lost something.
    next hfar' =>
      exact Int.le_trans hbase (baseStep_le_enlarge hs hlimit hpercent (by omega) hfar')
    next => exact hbase

/-- No step is negative. -/
theorem step_nonneg (hs : s.IsSize) (limit user : Int) : 0 ≤ s.step limit user := by
  rw [step_eq]
  exact stepFor_nonneg hs (Int.le_of_lt (distance_pos limit user))

/-! ## The share after a look -/

/-- Within the limit a step is added, up to the tokens of the device. -/
theorem nextShare_of_le (s : DeviceSpec) (total share : Int) (h : user ≤ limit) :
    s.nextShare total limit user share =
      max 0 (min (min (saturate (share + s.step limit user)) total) (max total 0)) := by
  rw [nextShare, if_pos h]

/-- Beyond the limit a step is taken off, down to zero. -/
theorem nextShare_of_lt (s : DeviceSpec) (total share : Int) (h : limit < user) :
    s.nextShare total limit user share =
      max 0 (min (max (saturate (share - s.step limit user)) 0) (max total 0)) := by
  rw [nextShare, if_neg (Int.not_le.2 h)]

/-- Within the limit the share does not fall, as long as it is in range. -/
theorem le_nextShare (hs : s.IsSize) (hmax : total ≤ signedMax) (hshare : share ≤ total)
    (h : user ≤ limit) : share ≤ s.nextShare total limit user share := by
  have hstep := step_nonneg hs limit user
  rw [s.nextShare_of_le total share h]
  simp only [saturate, signedMin, signedMax] at hmax ⊢
  omega

/-- Beyond the limit the share does not rise, unless it is negative. -/
theorem nextShare_le_share (hs : s.IsSize) (total : Int) (hshare : 0 ≤ share) (h : limit < user) :
    s.nextShare total limit user share ≤ share := by
  have hstep := step_nonneg hs limit user
  rw [s.nextShare_of_lt total share h]
  simp only [saturate, signedMin, signedMax]
  omega

/-- More utilization never makes a greater share. -/
theorem nextShare_anti (hs : s.IsSize) (hlimit : 0 ≤ limit) (hpercent : limit ≤ 100)
    (hmax : total ≤ signedMax) (hnonneg : 0 ≤ share) (hshare : share ≤ total) (h : user ≤ user') :
    s.nextShare total limit user' share ≤ s.nextShare total limit user share := by
  have hfar (u : Int) : 0 ≤ distance limit u := Int.le_of_lt (distance_pos limit u)
  rcases lt_or_ge limit user with hover | hwithin
  · have hstep : s.step limit user ≤ s.step limit user' :=
      stepFor_mono hs hlimit hpercent (hfar user) (distance_mono hover h)
    rw [s.nextShare_of_lt total share hover, s.nextShare_of_lt total share (by omega)]
    have hsat := saturate_mono (Int.sub_le_sub_left hstep share)
    omega
  · rcases lt_or_ge limit user' with hover' | hwithin'
    -- The direction changes between the two, and the share lies between the results.
    · exact Int.le_trans (nextShare_le_share hs total hnonneg hover')
        (le_nextShare hs hmax hshare hwithin)
    · have hstep : s.step limit user' ≤ s.step limit user :=
        stepFor_mono hs hlimit hpercent (hfar user') (distance_anti h hwithin')
      rw [s.nextShare_of_le total share hwithin, s.nextShare_of_le total share hwithin']
      have hsat := saturate_mono (Int.add_le_add_left hstep share)
      omega

/-- A greater share leads to one that is not smaller. -/
theorem nextShare_mono (s : DeviceSpec) (total limit user : Int) (h : share ≤ share') :
    s.nextShare total limit user share ≤ s.nextShare total limit user share' := by
  rcases lt_or_ge limit user with hover | hwithin
  · rw [s.nextShare_of_lt total share hover, s.nextShare_of_lt total share' hover]
    have hsat := saturate_mono (Int.sub_le_sub_right h (s.step limit user))
    omega
  · rw [s.nextShare_of_le total share hwithin, s.nextShare_of_le total share' hwithin]
    have hsat := saturate_mono (Int.add_le_add_right h (s.step limit user))
    omega

/-- The share after a look lies between zero and the total. It is not below the share before within
the limit, and not above it beyond the limit; more utilization never makes it greater, and a greater
share before never makes it smaller. -/
theorem nextShare_ordered (hs : s.IsSize) (htotal : 0 ≤ total) (hmax : total ≤ signedMax)
    (hlimit : 0 ≤ limit) (hpercent : limit ≤ 100) (hnonneg : 0 ≤ share) (hshare : share ≤ total) :
    (0 ≤ s.nextShare total limit user share ∧ s.nextShare total limit user share ≤ total) ∧
    (user ≤ limit → share ≤ s.nextShare total limit user share) ∧
    (limit < user → s.nextShare total limit user share ≤ share) ∧
    (∀ user', user ≤ user' →
      s.nextShare total limit user' share ≤ s.nextShare total limit user share) ∧
    (∀ share', share ≤ share' →
      s.nextShare total limit user share ≤ s.nextShare total limit user share') :=
  ⟨⟨s.nextShare_nonneg total limit user share, s.nextShare_le limit user share htotal⟩,
    le_nextShare hs hmax hshare,
    nextShare_le_share hs total hnonneg,
    fun _ => nextShare_anti hs hlimit hpercent hmax hnonneg hshare,
    fun _ => s.nextShare_mono total limit user⟩

/-- The greatest device there is: products saturate on both sides of the limit. -/
theorem nextShare_ordered_of_greatest :
    let s : DeviceSpec := ⟨0x7FFFFFFF, 0x7FFFFFFF⟩
    s.IsSize ∧ s.totalCores = signedMax ∧
    (∀ user, 50 < user → s.nextShare s.totalCores 50 user signedMax ≤ signedMax) ∧
    s.nextShare s.totalCores 50 90 signedMax ≤ s.nextShare s.totalCores 50 60 signedMax ∧
    s.nextShare s.totalCores 50 90 signedMax < signedMax := by
  have hs : IsSize ⟨0x7FFFFFFF, 0x7FFFFFFF⟩ := ⟨by decide, by decide⟩
  have h (user : Int) := @nextShare_ordered _ 50 user signedMax signedMax hs (by decide) (by decide)
    (by decide) (by decide) (by decide) (by decide)
  exact ⟨hs, by decide, fun user => (h user).2.2.1, (h 60).2.2.2.1 90 (by decide), by decide⟩

end DeviceSpec

end GpuQuota
