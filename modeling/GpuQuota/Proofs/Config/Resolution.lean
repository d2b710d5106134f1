import GpuQuota.Config.Settings
import GpuQuota.Proofs.Run
import Mathlib.Tactic.SplitIfs

/-!
# How limits are resolved

A limit variable counts if its text is not blank, in the job file or, unless the job file has the
variable, in the environment. If one of the texts that count is no limit value, the settings are
refused, however good the others are. Reading the variables one after the other is therefore the
same as looking for the first refusal among all of them and, without one, putting together what they
are set to.

The module introduces:

* `Settings.effective?`, `Settings.set?`, `Settings.rejection?` — the text of a variable that
  counts, the value that it is set to, and the refusal that it is the reason for.
* `Settings.limitKeys` — the limit variables in the order in which they are read.
* `Settings.memoryLimit`, `Settings.computeLimit` — the limits of a device.
* `Settings.checked` — a result, unless one of some variables is refused.
* `Settings.ofEnvironment_cases` — the settings that an environment and a job file make.
* `Settings.ofEnvironment_exact` — the limits, and which variable is to blame for a refusal.
-/

namespace GpuQuota.Settings

/-! ## One variable -/

/-- The text that counts for a variable. What the job file says hides the environment even if it is
blank, and a blank text does not count. -/
def effective? (env : Environment) (job : Option JobFile) (key : String) : Option String :=
  let text? := match job.bind (·.get? key) with
    | some text => some text
    | none => env.text? key
  text?.filter (Text.trim ·.toList ≠ [])

/-- The value that a variable is set to. -/
def set? (env : Environment) (job : Option JobFile) (key : String) : Option UInt64 :=
  (effective? env job key).bind fun text => (Limit.parse text).toOption

/-- The refusal of settings that a variable is the reason for: its text counts, but is no limit
value. -/
def rejection? (env : Environment) (job : Option JobFile) (key : String) : Option ConfigError :=
  (effective? env job key).bind fun text =>
    match Limit.parse text with
    | .ok _ => none
    | .error cause => some (.badLimit key text cause)

/-- The limit variables in the order in which they are read. -/
def limitKeys : List String :=
  [memoryKey, computeKey] ++
    (List.finRange maxDevices).flatMap fun d => [deviceKey memoryKey d, deviceKey computeKey d]

/-- The memory limit of a device: its own if that is positive, else the common one. -/
def memoryLimit (env : Environment) (job : Option JobFile) (d : DeviceIndex) : UInt64 :=
  ((set? env job (deviceKey memoryKey d)).filter (0 < ·)).getD
    ((set? env job memoryKey).getD 0)

/-- The compute limit of a device: its own if that is positive, else the common one if that is
positive. -/
def computeLimit (env : Environment) (job : Option JobFile) (d : DeviceIndex) : UInt64 :=
  ((set? env job (deviceKey computeKey d)).filter (0 < ·)).getD
    (((set? env job computeKey).filter (0 < ·)).getD 100)

example : limitKeys.take 6 =
    ["CUDA_DEVICE_MEMORY_LIMIT", "CUDA_DEVICE_SM_LIMIT", "CUDA_DEVICE_MEMORY_LIMIT_0",
      "CUDA_DEVICE_SM_LIMIT_0", "CUDA_DEVICE_MEMORY_LIMIT_1", "CUDA_DEVICE_SM_LIMIT_1"] := by
  decide +kernel

variable {env : Environment} {job : Option JobFile} {α β : Type}

/-! ## Reading the variables -/

/-- The result, unless one of the variables is refused; then the first refusal. -/
def checked (env : Environment) (job : Option JobFile) (keys : List String) (a : α) :
    Except ConfigError α :=
  match keys.findSome? (rejection? env job) with
  | some e => .error e
  | none => .ok a

/-- What is read after other variables is refused after them. -/
theorem checked_bind {keys keys' : List String} {a : α} {b : β} {f : α → Except ConfigError β}
    (hf : f a = checked env job keys' b) :
    (checked env job keys a >>= f) = checked env job (keys ++ keys') b := by
  unfold checked at hf ⊢
  rw [List.findSome?_append]
  cases keys.findSome? (rejection? env job) with
  | some e => rfl
  | none => exact hf

/-- What is made of the result afterwards is refused for the same reason. -/
theorem checked_bind_pure (keys : List String) (a : α) (f : α → β) :
    (checked env job keys a >>= fun a => pure (f a)) = checked env job keys (f a) := by
  unfold checked
  cases keys.findSome? (rejection? env job) <;> rfl

theorem checked_bind_map (keys : List String) (a : α) (f : α → β) {γ : Type}
    (g : β → Except ConfigError γ) :
    (checked env job keys a >>= fun a => g (f a)) = (checked env job keys (f a) >>= g) := by
  unfold checked
  cases keys.findSome? (rejection? env job) <;> rfl

/-- Reading a list of things, each from variables of its own, all their variables are read. -/
theorem mapM_eq_checked {f : α → Except ConfigError β} {keys : α → List String} {g : α → β}
    (hf : ∀ a, f a = checked env job (keys a) (g a)) (l : List α) :
    l.mapM f = checked env job (l.flatMap keys) (l.map g) := by
  induction l with
  | nil => rfl
  | cons a l ih =>
    rw [List.mapM_cons, hf, ih]
    exact checked_bind (checked_bind_pure _ _ _)

/-- Reading one variable. -/
theorem limit?_eq_checked (env : Environment) (job : Option JobFile) (key : String) :
    limit? env job key = checked env job [key] (set? env job key) := by
  have htext : limitText? env job key = match job.bind (·.get? key) with
      | some text => some text
      | none => env.text? key := by
    rw [limitText?]
    cases job.bind (·.get? key) <;> rfl
  simp only [limit?, checked, rejection?, set?, effective?, htext, List.findSome?_singleton]
  split
  next h => simp [h]
  next text h =>
    -- A blank text is dropped before it is parsed, whether it would parse or not.
    simp only [h, Option.filter_some]
    by_cases hblank : Text.trim text.toList = []
    · simp [hblank]
    · cases hparse : Limit.parse text <;> simp [hblank, hparse, Except.toOption]

/-- Reading the limit of a device against a common one. -/
theorem deviceLimit_eq_checked (env : Environment) (job : Option JobFile) (key : String)
    (common : UInt64) (d : DeviceIndex) :
    deviceLimit env job key common d = checked env job [deviceKey key d]
      (((set? env job (deviceKey key d)).filter (0 < ·)).getD common) := by
  rw [deviceLimit, limit?_eq_checked]
  exact checked_bind_pure _ _ _

/-- Reading the limits of all devices. -/
theorem deviceLimits_eq_checked (env : Environment) (job : Option JobFile) :
    deviceLimits env job = checked env job limitKeys
      ((List.finRange maxDevices).map fun d =>
        (memoryLimit env job d, computeLimit env job d)) := by
  -- The two variables of a device, and those of all devices after the common ones.
  have hdevice : ∀ d, (do
      let m ← deviceLimit env job memoryKey ((set? env job memoryKey).getD 0) d
      let c ← deviceLimit env job computeKey
        (((set? env job computeKey).filter (0 < ·)).getD unlimitedCompute) d
      return (m, c)) = checked env job [deviceKey memoryKey d, deviceKey computeKey d]
        (memoryLimit env job d, computeLimit env job d) := by
    intro d
    rw [deviceLimit_eq_checked, deviceLimit_eq_checked]
    exact checked_bind (checked_bind_pure _ _ _)
  rw [deviceLimits, limit?_eq_checked, limit?_eq_checked]
  exact checked_bind (checked_bind (mapM_eq_checked hdevice _))

/-! ## All settings -/

/-- The settings hold the limits that are resolved, and what they are checked for comes from the
environment. -/
structure Resolved (env : Environment) (job : Option JobFile) (s : Settings) : Prop where
  memory : ∀ d, s.memoryLimits.get d = memoryLimit env job d
  compute : ∀ d, s.computeLimits.get d = computeLimit env job d
  deviceCount_pos : 0 < s.deviceCount
  deviceCount_le : s.deviceCount ≤ maxDevices
  path : s.path = (env.text? "CUDA_DEVICE_MEMORY_SHARED_CACHE").getD defaultRegionPath
  lock : s.lock = .ofEnvironment env

/-- The compute limits that are resolved, and the settings other than limits, are in range. -/
structure InRange (env : Environment) (job : Option JobFile) : Prop where
  compute : ∀ d, computeLimit env job d ≤ 100
  path : env.text? "CUDA_DEVICE_MEMORY_SHARED_CACHE" ≠ some ""
  wait : env.natural? wordMax "SOFTMIG_LOCK_TIMEOUT_MS" ≠ some 0
  postinitWait : env.natural? wordMax "SOFTMIG_POSTINIT_TIMEOUT_MS" ≠ some 0

/-- The settings are put together from the limits that are read, and checked after that. -/
theorem exists_ofEnvironment_eq (env : Environment) (job : Option JobFile) :
    ∃ s, Resolved env job s ∧ ofEnvironment env job =
      (checked env job limitKeys s >>= fun s => s.validate >>= fun _ => pure s) := by
  have hget (f : DeviceIndex → UInt64) (d : DeviceIndex) : (Vector.ofFn f).get d = f d :=
    Vector.getElem_ofFn d.isLt
  rw [ofEnvironment, deviceLimits_eq_checked]
  refine ⟨_, ⟨fun d => ?_, fun d => ?_, ?_, ?_, rfl, rfl⟩,
    checked_bind_map _ _ _ fun s : Settings => s.validate >>= fun _ => pure s⟩
  · rw [hget]
    simp
  · rw [hget]
    simp
  · exact Nat.lt_of_lt_of_le Nat.one_pos (Nat.le_max_left _ _)
  · exact Nat.max_le.2 ⟨by decide, Nat.min_le_right _ _⟩

/-- Settings that are out of range are refused for that reason. -/
theorem exists_of_validate {s : Settings} {e : ConfigError} (h : s.validate = .error e) :
    ∃ setting, e = .badSetting setting := by
  unfold validate LockSettings.validate at h
  split_ifs at h <;> cases h <;> exact ⟨_, rfl⟩

theorem any_eq_true_iff {limits : Vector UInt64 maxDevices} :
    limits.any (· > unlimitedCompute) = true ↔ ∃ d : DeviceIndex, 100 < limits.get d := by
  rw [Vector.any_eq_true]
  constructor
  · rintro ⟨i, hi, h⟩
    exact ⟨⟨i, hi⟩, of_decide_eq_true h⟩
  · rintro ⟨d, h⟩
    exact ⟨d, d.isLt, decide_eq_true h⟩

/-- What the settings are checked for is that they are in range. -/
theorem Resolved.validate_eq_ok_iff {s : Settings} (h : Resolved env job s) :
    s.validate = .ok () ↔ InRange env job := by
  -- Each check is turned into what it says of the environment and the job file.
  have hcount : ¬ (s.deviceCount = 0 ∨ s.deviceCount > maxDevices) := by
    have := h.deviceCount_pos
    have := h.deviceCount_le
    omega
  have hcompute : s.computeLimits.any (· > unlimitedCompute) = true ↔
      ∃ d, 100 < computeLimit env job d := by
    rw [any_eq_true_iff]
    simp [h.compute]
  have hpath : s.path = "" ↔ env.text? "CUDA_DEVICE_MEMORY_SHARED_CACHE" = some "" := by
    rw [h.path, Option.getD_eq_iff]
    simp [defaultRegionPath]
  have hwait : s.lock.wait = 0 ↔ env.natural? wordMax "SOFTMIG_LOCK_TIMEOUT_MS" = some 0 := by
    rw [h.lock, LockSettings.ofEnvironment, Option.getD_eq_iff]
    simp
  have hpostinit : s.lock.postinitWait = 0 ↔
      env.natural? wordMax "SOFTMIG_POSTINIT_TIMEOUT_MS" = some 0 := by
    rw [h.lock, LockSettings.ofEnvironment, Option.getD_eq_iff]
    simp
  rw [validate, if_neg hcount, LockSettings.validate]
  constructor
  · intro hvalid
    split_ifs at hvalid with h₁ h₂ h₃ h₄
    refine ⟨fun d => ?_, mt hpath.2 h₂, mt hwait.2 h₃, mt hpostinit.2 h₄⟩
    exact UInt64.not_lt.1 fun hd => h₁ (hcompute.2 ⟨d, hd⟩)
  · intro hrange
    have hlimits : ¬ ∃ d, 100 < computeLimit env job d :=
      fun ⟨d, hd⟩ => UInt64.not_lt.2 (hrange.compute d) hd
    rw [if_neg (mt hcompute.1 hlimits), if_neg (mt hpath.1 hrange.path),
      if_neg (mt hwait.1 hrange.wait), if_neg (mt hpostinit.1 hrange.postinitWait)]

/-- The settings that an environment and a job file make: the first refusal among the limit
variables, and without one the limits that are resolved, if all is in range. -/
theorem ofEnvironment_cases (env : Environment) (job : Option JobFile) :
    (∃ e, limitKeys.findSome? (rejection? env job) = some e ∧ ofEnvironment env job = .error e) ∨
    limitKeys.findSome? (rejection? env job) = none ∧
      ((¬ InRange env job ∧ ∃ setting, ofEnvironment env job = .error (.badSetting setting)) ∨
        InRange env job ∧ ∃ s, Resolved env job s ∧ ofEnvironment env job = .ok s) := by
  obtain ⟨s, hresolved, heq⟩ := exists_ofEnvironment_eq env job
  rw [heq, checked]
  -- A key that is refused comes before any check of the settings that would be made.
  cases limitKeys.findSome? (rejection? env job) with
  | some e => exact .inl ⟨e, rfl, rfl⟩
  | none =>
    refine .inr ⟨rfl, ?_⟩
    cases hvalid : s.validate with
    | error e =>
      obtain ⟨setting, rfl⟩ := exists_of_validate hvalid
      refine .inl ⟨fun hrange => ?_, setting, ?_⟩
      · rw [hresolved.validate_eq_ok_iff.2 hrange] at hvalid
        cases hvalid
      · show (s.validate >>= fun _ => pure s) = _
        rw [hvalid]
        rfl
    | ok =>
      refine .inr ⟨hresolved.validate_eq_ok_iff.1 hvalid, s, hresolved, ?_⟩
      show (s.validate >>= fun _ => pure s) = _
      rw [hvalid]
      rfl

/-! ## The limits -/

/-- A compute limit of zero is none, so that none is resolved to zero. -/
theorem computeLimit_pos (env : Environment) (job : Option JobFile) (d : DeviceIndex) :
    1 ≤ computeLimit env job d := by
  -- A limit that is filtered is positive, and the limit in its place has passed the same filter.
  have hpos {x : Option UInt64} {n : UInt64} (hn : 1 ≤ n) : 1 ≤ (x.filter (0 < ·)).getD n := by
    cases hx : x.filter (0 < ·) with
    | none => exact hn
    | some m =>
      have hm := (Option.filter_eq_some_iff.1 hx).2
      simp only [decide_eq_true_eq, UInt64.lt_iff_toNat_lt] at hm
      exact UInt64.le_iff_toNat_le.2 hm
  exact hpos (hpos (by decide))

/-- Settings that are made hold for every device its own limits if they are positive, and else the
common ones. If a variable that counts is no limit value, the settings are refused, and the first
such variable is to blame. They are made exactly if there is none, and all else is in range. -/
theorem ofEnvironment_exact (env : Environment) (job : Option JobFile) :
    (∀ s, ofEnvironment env job = .ok s → ∀ d,
      s.memoryLimits.get d = memoryLimit env job d ∧
      s.computeLimits.get d = computeLimit env job d ∧
      1 ≤ s.computeLimits.get d ∧ s.computeLimits.get d ≤ 100) ∧
    (∀ key text cause, ofEnvironment env job = .error (.badLimit key text cause) ↔
      limitKeys.findSome? (rejection? env job) = some (.badLimit key text cause)) ∧
    ((∃ s, ofEnvironment env job = .ok s) ↔
      limitKeys.findSome? (rejection? env job) = none ∧ InRange env job) := by
  -- A refused key, values out of range, or settings.
  rcases ofEnvironment_cases env job with
    ⟨e, hfirst, heq⟩ | ⟨hfirst, ⟨hrange, setting, heq⟩ | ⟨hrange, s, hresolved, heq⟩⟩
  · rw [heq, hfirst]
    simp
  · rw [heq, hfirst]
    simp [hrange]
  · rw [heq, hfirst]
    refine ⟨fun s' hs' d => ?_, by simp, by simp [hrange]⟩
    obtain rfl := Except.ok.inj hs'
    rw [hresolved.memory, hresolved.compute]
    exact ⟨rfl, rfl, computeLimit_pos env job d, hrange.compute d⟩

/-- A user who sets limits for some devices. -/
def sampleEnv : Environment :=
  ⟨[("CUDA_DEVICE_MEMORY_LIMIT", .text "2g"), ("CUDA_DEVICE_MEMORY_LIMIT_1", .text "0"),
    ("CUDA_DEVICE_MEMORY_LIMIT_2", .text "1g"), ("CUDA_DEVICE_MEMORY_LIMIT_3", .text "1g"),
    ("CUDA_DEVICE_SM_LIMIT_4", .text "70")]⟩

/-- A job file with a common compute limit, and a blank limit for one device. -/
def sampleJob : JobFile where
  path := "/7.conf"
  assignments := [("CUDA_DEVICE_SM_LIMIT", "50"), ("CUDA_DEVICE_MEMORY_LIMIT_2", "")]

/-- The limits of the first five devices: own ones win, unless they are zero or hidden by a blank.
Of two variables that are no limit values the first is to blame. -/
theorem ofEnvironment_exact_of_sample :
    (∃ s, ofEnvironment sampleEnv sampleJob = .ok s ∧
      ((List.finRange maxDevices).take 5).map (fun d =>
        (s.memoryLimits.get d, s.computeLimits.get d)) =
          [(0x80000000, 50), (0x80000000, 50), (0x80000000, 50), (0x40000000, 50),
            (0x80000000, 70)]) ∧
    ofEnvironment (sampleEnv.extend [("CUDA_DEVICE_MEMORY_LIMIT_7", .text "lots"),
        ("CUDA_DEVICE_SM_LIMIT_6", .text "1e2")]) sampleJob =
      .error (.badLimit "CUDA_DEVICE_SM_LIMIT_6" "1e2" (.invalid "1e2")) := by
  have hrange : InRange sampleEnv sampleJob :=
    ⟨by decide +kernel, by decide +kernel, by decide +kernel, by decide +kernel⟩
  obtain ⟨hlimits, -, hmade⟩ := ofEnvironment_exact sampleEnv sampleJob
  obtain ⟨s, hs⟩ := hmade.2 ⟨by decide +kernel, hrange⟩
  -- The limits of the settings are evaluated by the rule and not by reading the environment again.
  have hresolved : ∀ d, (s.memoryLimits.get d, s.computeLimits.get d) =
      (memoryLimit sampleEnv sampleJob d, computeLimit sampleEnv sampleJob d) := by
    intro d
    rw [(hlimits s hs d).1, (hlimits s hs d).2.1]
  refine ⟨⟨s, hs, ?_⟩, ((ofEnvironment_exact _ _).2.1 _ _ _).2 (by decide +kernel)⟩
  rw [List.map_congr_left fun d _ => hresolved d]
  decide +kernel

end GpuQuota.Settings
