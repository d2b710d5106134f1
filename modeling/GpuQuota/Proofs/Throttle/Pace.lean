import GpuQuota.Proofs.Registry.Attribution
import GpuQuota.Proofs.Throttle.Limiter

/-!
# The share over a run

The share of a process is moved by its looks alone, while the driver tells the size of the device,
credits come and launches pay. It never leaves the range between zero and the tokens of the device,
except that a look that finds the bucket starved on the full share doubles the capacity, and the
share with it, before the feedback moves it. Such a look may raise the share of a process that
exceeds its limit; no other one does.

The module introduces:

* `DeviceDriver.Knows` — a driver tells one size of the governed device.
* `Watch.look_cases` — all that a look can do to the limiter.
* `Watch.Starves` — a look finds the bucket starved.
* `Watch.Paced` — the states of a process that paces its launches, with the number of such looks.
* `Watch.Paced.covered` — what happens to its bucket are calls on it, so its balance stays covered.
* `Watch.overdrawn` — a process whose next look finds the bucket starved.
* `Watch.share_paced` — where the share is after a look, and that it does not rise beyond the limit.
* `Watch.not_share_paced` — it does rise there if the bucket is starved.
-/

namespace GpuQuota

variable {σ μ : Type} [DeviceDriver σ]

/-- The drivers that may occur tell one size of the governed device, whenever they tell any. -/
structure DeviceDriver.Knows (known : σ → Prop) (spec : DeviceSpec) : Prop where
  eq_of_ok : ∀ d s, known d → (DeviceDriver.spec governedDevice d).1 = .ok s → s = spec
  keep : ∀ d, known d → known (DeviceDriver.spec governedDevice d).2

/-- The limiter may have been told the size of the device. -/
def Limiter.Told (spec : DeviceSpec) (l l' : Limiter) : Prop := l' = l ∨ l' = l.setSpec spec

namespace Watch

variable {m : Member} {known : σ → Prop} {spec : DeviceSpec} {l : Limiter} {w : Watch σ μ}
  {resolve : Pid → Option Pid}

/-! ## What comes before the feedback -/

/-- Asking for the size of the device tells the limiter that size at most. -/
theorem keeps_told_querySpec (hknown : DeviceDriver.Knows known spec) (l : Limiter) :
    Keeps (fun w : Watch σ μ => known w.driver ∧ l.Told spec w.limiter) querySpec := by
  intro w ⟨hdriver, htold⟩
  have hkeep := hknown.keep w.driver hdriver
  have heq := fun s => hknown.eq_of_ok w.driver s hdriver
  show known (Limiter.querySpec (w.limiter, w.driver)).2.2 ∧
    l.Told spec (Limiter.querySpec (w.limiter, w.driver)).2.1
  rw [Limiter.querySpec]
  generalize DeviceDriver.spec governedDevice w.driver = answer at hkeep heq ⊢
  obtain ⟨e | s, driver⟩ := answer
  · exact ⟨hkeep, htold⟩
  · obtain rfl := heq s rfl
    refine ⟨hkeep, .inr ?_⟩
    -- What was told before is replaced.
    rcases htold with h | h
    · rw [h]
    · rw [h]
      rfl

/-- So does finding out who it is, at the end of which the size is asked for. -/
theorem keeps_told_identify (hknown : DeviceDriver.Knows known spec) (l : Limiter) (m : Member)
    (resolve : Pid → Option Pid) :
    Keeps (fun w : Watch σ μ => known w.driver ∧ l.Told spec w.limiter) (identify m resolve) :=
  keeps_identify (fun _ hw => hw) (fun _ hw => hw) (fun _ _ hw => hw) (fun _ _ _ hw => hw)
    (keeps_told_querySpec hknown l) resolve

/-- The state in which a look begins to observe, if it gets that far: it is known who it is, and the
driver has been asked for the size of the device if that was not known. -/
def prepared (m : Member) (resolve : Pid → Option Pid) (w : Watch σ μ) : Watch σ μ :=
  let w' := (identify m resolve w).2
  if w'.limiter.hasSpec then w' else (querySpec w').2

/-- When a look begins to observe, the limiter has been told the size at most. -/
theorem told_prepared (hknown : DeviceDriver.Knows known spec) (hdriver : known w.driver)
    (m : Member) (resolve : Pid → Option Pid) :
    known (prepared m resolve w).driver ∧
      w.limiter.Told spec (prepared m resolve w).limiter := by
  have hidentify := keeps_told_identify hknown w.limiter m resolve w ⟨hdriver, .inl rfl⟩
  rw [prepared]
  split
  next => exact hidentify
  next => exact keeps_told_querySpec hknown w.limiter _ hidentify

/-! ## One look -/

section

variable [Management μ]

omit [DeviceDriver σ] in
/-- Observing leaves the limiter and the driver alone. -/
theorem keeps_limiter_observe (m : Member) (l : Limiter) (driver : σ) :
    Keeps (fun w : Watch σ μ => w.limiter = l ∧ w.driver = driver) (observe m) := by
  refine Keeps.bind (fun _ hw => hw) fun answer => ?_
  cases answer with
  | error e => exact keeps_pure _
  | ok count =>
    refine Keeps.bind keeps_get fun w => ?_
    refine Keeps.bind (fun _ hw => hw) fun _ => ?_
    exact Keeps.bind (keeps_modify fun _ hw => hw) fun _ => keeps_pure _

omit [DeviceDriver σ] in
/-- A round at the devices steers the limiter by what it observed, unless it observed nothing. -/
theorem adjust_cases (m : Member) (w : Watch σ μ) :
    (adjust m w).2.driver = w.driver ∧
    ((adjust m w).1 = Report.none ∧ (adjust m w).2.limiter = w.limiter ∨
      (adjust m w).1.skipped = false ∧
      (adjust m w).1.share = (adjust m w).2.limiter.share ∧
      (adjust m w).2.limiter =
        steer w.limiter (limitOf w.seat.region) (adjust m w).1.utilization) := by
  -- Neither the reset nor the observations touch the limits, the limiter or the driver.
  have hbearable := bearable_unmoved m w.seat.region
  have hreset := hbearable.resetObserved w.seat (.refl _)
  have hlimits := (hbearable.observe (onSeat m.resetObserved w).2 hreset).computeLimits_eq
  have hlimiter := keeps_limiter_observe m w.limiter w.driver (onSeat m.resetObserved w).2
    ⟨rfl, rfl⟩
  unfold adjust
  rw [Run.state_bind_apply, Run.state_bind_apply]
  generalize observe m (onSeat m.resetObserved w).2 = observed at hlimits hlimiter ⊢
  obtain ⟨e | used, w'⟩ := observed
  · exact ⟨hlimiter.2, .inl ⟨rfl, hlimiter.1⟩⟩
  · refine ⟨hlimiter.2, .inr ⟨rfl, rfl, ?_⟩⟩
    show steer w'.limiter (limitOf w'.seat.region) _ = _
    rw [hlimiter.1, limitOf, Limiter.limit, hlimits]
    rfl

/-- A look ends when it does not find out who it is, or goes on to the devices. -/
theorem look_eq_or (m : Member) (resolve : Pid → Option Pid) (w : Watch σ μ) :
    look m resolve w = (Report.none, (identify m resolve w).2) ∨
      look m resolve w = adjust m (prepared m resolve w) := by
  rw [look_apply, prepared]
  rcases identify m resolve w with ⟨_ | _, w'⟩
  · exact .inl rfl
  · exact .inr rfl

omit [Management μ] in
/-- What comes before observing leaves the limit as it is. -/
theorem limitOf_prepared (m : Member) (resolve : Pid → Option Pid) (w : Watch σ μ) :
    limitOf (prepared m resolve w).seat.region = limitOf w.seat.region := by
  have hunmoved := (bearable_unmoved m w.seat.region).identify resolve w (.refl _)
  have hseat : (prepared m resolve w).seat = (identify m resolve w).2.seat := by
    rw [prepared]
    split <;> rfl
  rw [hseat, limitOf, limitOf, Limiter.limit, Limiter.limit, hunmoved.computeLimits_eq]

/-- A look that observes steers the limiter, which may have been told the size of the device before.
Any other one tells it that size at most. -/
theorem look_cases (hknown : DeviceDriver.Knows known spec) (hdriver : known w.driver) (m : Member)
    (resolve : Pid → Option Pid) :
    known (look m resolve w).2.driver ∧
    ((look m resolve w).1 = Report.none ∧ w.limiter.Told spec (look m resolve w).2.limiter ∨
      (look m resolve w).1.skipped = false ∧
      (look m resolve w).1.share = (look m resolve w).2.limiter.share ∧
      w.limiter.Told spec (prepared m resolve w).limiter ∧
      (look m resolve w).2.limiter = steer (prepared m resolve w).limiter
        (limitOf w.seat.region) (look m resolve w).1.utilization) := by
  obtain ⟨hprepared, htold⟩ := told_prepared hknown hdriver m resolve
  -- A look ends with the search for the identity, or goes on to adjust the share.
  rcases look_eq_or m resolve w with hlook | hlook
  · have hidentify := keeps_told_identify hknown w.limiter m resolve w ⟨hdriver, .inl rfl⟩
    rw [hlook]
    exact ⟨hidentify.1, .inl ⟨rfl, hidentify.2⟩⟩
  · obtain ⟨hsame, hadjust⟩ := adjust_cases m (prepared m resolve w)
    rw [hlook, hsame]
    rw [limitOf_prepared] at hadjust
    refine ⟨hprepared, hadjust.imp (fun h => ⟨h.1, ?_⟩) fun h => ⟨h.1, h.2.1, htold, h.2.2⟩⟩
    rwa [h.2]

/-- A look that observes finds the bucket starved. -/
def Starves (m : Member) (resolve : Pid → Option Pid) (w : Watch σ μ) : Prop :=
  (look m resolve w).1.skipped = false ∧ (prepared m resolve w).limiter.Starved

instance (m : Member) (resolve : Pid → Option Pid) (w : Watch σ μ) :
    Decidable (w.Starves m resolve) :=
  inferInstanceAs (Decidable (_ ∧ _))

/-- A look that observes finds the bucket as the preparations left it. -/
theorem starves_iff (h : (look m resolve w).1.skipped = false) :
    w.Starves m resolve ↔ (prepared m resolve w).limiter.Starved := and_iff_right h

/-- A look that does not observe finds nothing. -/
theorem not_starves (h : (look m resolve w).1 = Report.none) : ¬ w.Starves m resolve := by
  rw [Starves, h]
  exact fun hstarves => Bool.noConfusion hstarves.1

end

end Watch

/-! ## The bound -/

namespace DeviceSpec

variable {s : DeviceSpec}

/-- The tokens of a device, doubled a number of times. -/
def ceiling (s : DeviceSpec) (k : ℕ) : Int := saturate (s.totalCores * 2 ^ k)

/-- A device has no negative number of tokens. -/
theorem totalCores_nonneg (hs : s.IsSize) : 0 ≤ s.totalCores := by
  have hthreads := saturate_nonneg (Int.mul_nonneg hs.threads_nonneg hs.multiprocessors_nonneg)
  exact saturate_nonneg (Int.mul_nonneg hthreads (by decide))

/-- Before it is doubled the ceiling is the tokens of the device. -/
theorem ceiling_zero (s : DeviceSpec) : s.ceiling 0 = s.totalCores := by
  rw [ceiling, pow_zero, mul_one]
  exact saturate_eq_self (signedMin_le_saturate _) (saturate_le_signedMax _)

/-- Doubling and cutting off each time is the same as cutting off at last. -/
theorem ceiling_succ (hs : s.IsSize) (k : ℕ) : s.ceiling (k + 1) = saturate (s.ceiling k * 2) := by
  have hpow : (0 : Int) ≤ 2 ^ k := pow_nonneg (by decide) k
  have hnonneg : 0 ≤ s.totalCores * 2 ^ k := Int.mul_nonneg (totalCores_nonneg hs) hpow
  rw [ceiling, ceiling, pow_succ, ← mul_assoc]
  -- What is cut off once stays cut off when it is doubled, since it is not negative.
  simp only [saturate, signedMin, signedMax]
  omega

/-- No ceiling is below the tokens of the device. -/
theorem totalCores_le_ceiling (hs : s.IsSize) (k : ℕ) : s.totalCores ≤ s.ceiling k := by
  induction k with
  | zero => rw [ceiling_zero]
  | succ k ih =>
    have hnonneg := totalCores_nonneg hs
    have hmax : s.totalCores ≤ signedMax := saturate_le_signedMax _
    rw [ceiling_succ hs]
    simp only [saturate, signedMin, signedMax] at hmax ⊢
    omega

end DeviceSpec

namespace Limiter

variable {spec : DeviceSpec} {k : ℕ} {l l' : Limiter}

/-- A limiter keeps within a ceiling when it is told the size of the device. -/
theorem Within.told (hsize : spec.IsSize) (h : l.Within (spec.ceiling k)) (htold : l.Told spec l') :
    l'.Within (spec.ceiling k) := by
  obtain rfl | rfl := htold
  · exact h
  · exact h.setSpec hsize (DeviceSpec.totalCores_le_ceiling hsize k)

/-- Being told the size does not change the share. -/
theorem Told.share_eq (h : l.Told spec l') : l'.share = l.share := by
  obtain rfl | rfl := h
  · rfl
  · rfl

/-- Being told the size is a call on the bucket, if anything. -/
theorem Told.reaches (h : l.Told spec l') : l.tokens.Reaches l'.tokens := by
  obtain rfl | rfl := h
  · exact .refl _
  · exact .setTotal _ _

end Limiter

namespace Watch

variable [Management μ] {m : Member} {known : σ → Prop} {spec : DeviceSpec} {w : Watch σ μ} {k : ℕ}

/-! ## Runs -/

/-- The process lets a launch in. -/
def launch (m : Member) (grid : UInt64) (relief : Relief) (w : Watch σ μ) : Watch σ μ :=
  let (_, limiter, region) := w.limiter.launch m w.seat.region grid relief
  { w with limiter, seat := { w.seat with region } }

/-- The states of a process that paces its launches, with the number of looks so far that found its
bucket starved. Whatever else there is may change at any time. -/
inductive Paced (m : Member) (known : σ → Prop) : ℕ → Watch σ μ → Prop
  /-- The limiter is new. -/
  | start {w : Watch σ μ} (now : UInt64) (hlimiter : w.limiter = .startingAt now)
    (hdriver : known w.driver) : Paced m known 0 w
  /-- Something else happens. -/
  | elsewhere {k : ℕ} {w w' : Watch σ μ} (h : Paced m known k w) (now : UInt64)
    (hlimiter : w'.limiter = { w.limiter with lastNote := now }) (hdriver : known w'.driver) :
    Paced m known k w'
  /-- The driver is asked for the size of the device. -/
  | querySpec {k : ℕ} {w : Watch σ μ} (h : Paced m known k w) : Paced m known k (querySpec w).2
  /-- The bucket is credited. -/
  | credit {k : ℕ} {w : Watch σ μ} (h : Paced m known k w) (amount : Int) :
    Paced m known k { w with limiter := w.limiter.credit amount }
  /-- A launch asks to be let in. -/
  | launch {k : ℕ} {w : Watch σ μ} (h : Paced m known k w) (grid : UInt64) (relief : Relief) :
    Paced m known k (w.launch m grid relief)
  /-- The watcher looks. -/
  | look {k : ℕ} {w : Watch σ μ} (h : Paced m known k w) (resolve : Pid → Option Pid) :
    Paced m known (k + if w.Starves m resolve then 1 else 0) (look m resolve w).2

/-- A look that finds the bucket starved doubles the bound; any other one keeps it. -/
theorem within_look (hknown : DeviceDriver.Knows known spec) (hsize : spec.IsSize)
    (hdriver : known w.driver) (h : w.limiter.Within (spec.ceiling k))
    (resolve : Pid → Option Pid) :
    (look m resolve w).2.limiter.Within
      (spec.ceiling (k + if w.Starves m resolve then 1 else 0)) := by
  obtain ⟨-, ⟨hnone, htold⟩ | ⟨hobserved, -, htold, hsteer⟩⟩ :=
    look_cases hknown hdriver m resolve
  · rw [if_neg (not_starves hnone)]
    exact h.told hsize htold
  · have hiff := starves_iff hobserved
    have hwithin := (h.told hsize htold).steer (limitOf w.seat.region)
      (look m resolve w).1.utilization
    rw [← hsteer] at hwithin
    -- The index counts the look exactly if the bound was doubled.
    by_cases hstarved : (prepared m resolve w).limiter.Starved
    · rw [if_pos hstarved] at hwithin
      rwa [if_pos (hiff.2 hstarved), DeviceSpec.ceiling_succ hsize]
    · rw [if_neg hstarved] at hwithin
      rwa [if_neg (mt hiff.1 hstarved)]

/-- Share and capacity are bounded at all times. -/
theorem Paced.within (hknown : DeviceDriver.Knows known spec) (hsize : spec.IsSize)
    (h : Paced m known k w) : known w.driver ∧ w.limiter.Within (spec.ceiling k) := by
  -- The induction is on the run; whatever is not a starved look keeps the ceiling.
  induction h with
  | start now hlimiter hdriver =>
    rw [hlimiter, DeviceSpec.ceiling_zero]
    exact ⟨hdriver, Limiter.within_startingAt now (DeviceSpec.totalCores_nonneg hsize)⟩
  | elsewhere _ now hlimiter hdriver ih =>
    rw [hlimiter]
    exact ⟨hdriver, ih.2.congr rfl rfl rfl⟩
  | @querySpec _ w _ ih =>
    obtain ⟨hdriver, htold⟩ := keeps_told_querySpec hknown w.limiter w ⟨ih.1, .inl rfl⟩
    exact ⟨hdriver, ih.2.told hsize htold⟩
  | credit _ amount ih => exact ⟨ih.1, ih.2.credit amount⟩
  | @launch _ w _ grid relief ih => exact ⟨ih.1, ih.2.launch m w.seat.region grid relief⟩
  | look _ resolve ih =>
    exact ⟨(look_cases hknown ih.1 m resolve).1, within_look hknown hsize ih.1 ih.2 resolve⟩

/-- All that happens to the bucket of a process are calls on it. -/
theorem Paced.reaches (hknown : DeviceDriver.Knows known spec) (hsize : spec.IsSize)
    (h : Paced m known k w) : Tokens.Reaches {} w.limiter.tokens := by
  -- The induction is on the run: the tokens are only changed, taken, or set up anew.
  induction h with
  | start now hlimiter hdriver =>
    rw [hlimiter]
    exact .refl _
  | elsewhere _ now hlimiter hdriver ih =>
    rw [hlimiter]
    exact ih
  | @querySpec _ w h ih =>
    have htold := keeps_told_querySpec hknown w.limiter w ⟨(h.within hknown hsize).1, .inl rfl⟩
    exact ih.trans htold.2.reaches
  | credit _ amount ih => exact ih.trans (.change _ amount)
  | @launch _ w _ grid relief ih =>
    exact ih.trans (w.limiter.reaches_launch m w.seat.region grid relief)
  | look h resolve ih =>
    obtain ⟨-, ⟨-, htold⟩ | ⟨-, -, htold, hsteer⟩⟩ :=
      look_cases hknown (h.within hknown hsize).1 m resolve
    · exact ih.trans htold.reaches
    · rw [hsteer]
      exact (ih.trans htold.reaches).trans (Limiter.reaches_steer _ _ _)

/-- So its balance stays covered by what it was credited. -/
theorem Paced.covered (hknown : DeviceDriver.Knows known spec) (hsize : spec.IsSize)
    (h : Paced m known k w) :
    ∃ calls, w.limiter.tokens = TokenCall.after {} calls ∧
      w.limiter.tokens.Covered (TokenCall.admitted {} calls) (TokenCall.credited calls) := by
  obtain ⟨calls, hvalid, hcalls⟩ := h.reaches hknown hsize
  exact ⟨calls, hcalls, hcalls ▸ TokenCall.covered_after hvalid⟩

/-! ## A run that starves the bucket -/

/-- A process with half of the compute time of the governed device. -/
def halved : Member := ⟨7, Settings.standard.withComputeLimit governedDevice 50, fun _ => true⟩

/-- The process knows its host identity, and has not been looked at yet. -/
def unseen : Watch SimulatedDevice SimulatedHost where
  watcher := { map := ⟨[0], by decide⟩, attempts := 1, ready := true }
  seat :=
    let seat : Seat := { region := Region.zero.setUp halved.settings 0 }
    (halved.setHostPid 70 (halved.registerSelf seat).2).2
  limiter := .startingAt 0
  driver := { spec := ⟨1000, 1024⟩ }
  host := ⟨1, []⟩

/-- A look has seen the process idle, and one launch has then taken far more than that left in the
bucket. Now the process uses nine tenths of the device; all else is as it was. -/
def overdrawn : Watch SimulatedDevice SimulatedHost where
  __ := unseen
  limiter := ((look halved some unseen).2.launch halved 100000000000 {}).limiter
  host := ⟨1, [(0, ⟨[], [(70, 90)]⟩)]⟩

/-- A simulated device tells the one size that it has, if it tells any. -/
theorem knows_simulated (spec : DeviceSpec) :
    DeviceDriver.Knows (fun d : SimulatedDevice => d.spec = spec) spec where
  eq_of_ok d s hspec hok := by
    rcases d with ⟨_, _, _, _ | _⟩
    · cases hok
    · exact (Except.ok.inj hok).symm.trans hspec
  keep _ hspec := hspec

/-- Such a process has come there by a look and a launch. -/
theorem paced_overdrawn : Paced halved (·.spec = ⟨1000, 1024⟩) 0 overdrawn := by
  have hstart : Paced halved (·.spec = ⟨1000, 1024⟩) 0 unseen := .start 0 rfl rfl
  have hcalm : ¬ unseen.Starves halved some := by decide +kernel
  have hlook := hstart.look some
  rw [if_neg hcalm] at hlook
  exact (hlook.launch 100000000000 {}).elsewhere _ rfl rfl

/-! ## The share -/

/-- A look that sees the process beyond its limit leaves a share that is not greater than the share
before, or than twice that if it found the bucket starved. After any look the share lies between
zero and the tokens of the device, doubled once for each look so far that found the bucket
starved. -/
theorem share_paced (hknown : DeviceDriver.Knows known spec) (hsize : spec.IsSize)
    (h : Paced m known k w) (resolve : Pid → Option Pid) :
    ((Limiter.limit w.seat.region).toNat < (look m resolve w).1.utilization →
      (look m resolve w).1.share ≤
        if w.Starves m resolve then saturate (w.limiter.share * 2) else w.limiter.share) ∧
    0 ≤ (look m resolve w).1.share ∧
    (look m resolve w).1.share ≤ (look m resolve w).2.limiter.share ∧
    (look m resolve w).2.limiter.share ≤
      saturate (spec.totalCores * 2 ^ (k + if w.Starves m resolve then 1 else 0)) := by
  obtain ⟨hdriver, hwithin⟩ := h.within hknown hsize
  have hafter := within_look (m := m) hknown hsize hdriver hwithin resolve
  obtain ⟨-, ⟨hnone, htold⟩ | ⟨hobserved, hshare, htold, hsteer⟩⟩ :=
    look_cases hknown hdriver m resolve
  · rw [hnone]
    refine ⟨fun hover => ?_, Int.le_refl 0, hafter.share_nonneg, hafter.share_le⟩
    -- Nothing was observed, and that is not beyond any limit.
    exact absurd hover (Int.not_lt.2 (Int.natCast_nonneg _))
  · rw [hshare]
    refine ⟨fun hover => ?_, hafter.share_nonneg, Int.le_refl _, hafter.share_le⟩
    have hlimit : limitOf w.seat.region < (look m resolve w).1.utilization :=
      Int.lt_of_le_of_lt (Int.min_le_left _ _) hover
    have hfall := Limiter.share_steer_le (hwithin.told hsize htold) hlimit
    rw [← hsteer, htold.share_eq] at hfall
    simpa only [starves_iff hobserved] using hfall

/-- The starved bucket has been doubled, and the share with it. -/
theorem share_paced_of_overdrawn :
    overdrawn.limiter.share = 32768000 ∧ overdrawn.Starves halved some ∧
    (look halved some overdrawn).1.utilization = 90 ∧
    (look halved some overdrawn).1.share = 40437961 ∧
    (look halved some overdrawn).1.share ≤ saturate (overdrawn.limiter.share * 2) ∧
    (look halved some overdrawn).2.limiter.share ≤
      saturate ((⟨1000, 1024⟩ : DeviceSpec).totalCores * 2 ^ 1) := by
  have hstarves : overdrawn.Starves halved some := by decide +kernel
  have hsize : (⟨1000, 1024⟩ : DeviceSpec).IsSize := ⟨by decide, by decide⟩
  obtain ⟨hfall, -, -, hbound⟩ :=
    share_paced (knows_simulated ⟨1000, 1024⟩) hsize paced_overdrawn some
  -- The look is a starved one, for which the bound is doubled.
  have hshare := hfall (by decide +kernel)
  rw [if_pos hstarves] at hshare hbound
  exact ⟨by decide +kernel, hstarves, by decide +kernel, by decide +kernel, hshare, hbound⟩

/-- The share of a process that exceeds its limit does rise, and beyond the tokens of the device, if
its bucket is starved. -/
theorem not_share_paced :
    ¬ ∀ (m : Member) (w : Watch SimulatedDevice SimulatedHost) (spec : DeviceSpec) (k : ℕ)
      (resolve : Pid → Option Pid), spec.IsSize → Paced m (·.spec = spec) k w →
      1 ≤ Limiter.limit w.seat.region → Limiter.limit w.seat.region ≤ 99 →
      ((Limiter.limit w.seat.region).toNat < (look m resolve w).1.utilization →
        (look m resolve w).1.share ≤ w.limiter.share) ∧
      0 ≤ (look m resolve w).2.limiter.share ∧
      (look m resolve w).2.limiter.share ≤ spec.totalCores := by
  intro h
  -- The starved look doubles the share, although the utilization is above the limit.
  have hsize : (⟨1000, 1024⟩ : DeviceSpec).IsSize := ⟨by decide, by decide⟩
  obtain ⟨hfall, -, -⟩ := h halved overdrawn ⟨1000, 1024⟩ 0 some hsize paced_overdrawn
    (by decide +kernel) (by decide +kernel)
  exact absurd (hfall (by decide +kernel)) (by decide +kernel)

end Watch

end GpuQuota
