import GpuQuota.Proofs.Run
import GpuQuota.Workload

/-!
# What the environment adds to a job file

Limits are read variable by variable: what the job file says of a variable wins, and what it does
not say is left to the environment. A device has a variable of its own, which wins over the common
one. A job file that sets only the common variable therefore leaves the variable of each device to
the environment.

The module introduces:

* `JobFile.Sets` — a job file sets a limit variable to a value.
* `Settings.limit?_of_isSome`, `Settings.limit?_of_eq_none` — who decides about a variable.
* `Settings.override?` — the limit that an environment sets for one device.
* `Settings.limits_eq_iff_overrides_eq` — when two environments make the same limits of a job file.
* `Settings.not_memoryLimits_eq` — they do not always.
-/

namespace GpuQuota

/-- The job file sets a limit variable to a value. -/
def JobFile.Sets (job : JobFile) (key : String) (n : UInt64) : Prop :=
  ∃ text, job.get? key = some text ∧ Limit.parse text = .ok n

namespace Settings

variable {env env₁ env₂ : Environment} {job : JobFile} {key : String} {d : DeviceIndex}

/-! ## One variable -/

/-- A variable that the job file sets is the same in every environment. -/
theorem limit?_of_isSome (h : (job.get? key).isSome) (env₁ env₂ : Environment) :
    limit? env₁ (some job) key = limit? env₂ (some job) key := by
  obtain ⟨text, htext⟩ := Option.isSome_iff_exists.1 h
  have hfile : ∀ env, limitText? env (some job) key = some text := by
    intro env
    rw [limitText?, Option.bind_some, htext, Option.some_or]
  rw [limit?, limit?, hfile, hfile]

/-- A variable that the job file does not set is left to the environment. -/
theorem limit?_of_eq_none (h : job.get? key = none) (env : Environment) :
    limit? env (some job) key = limit? env none key := by
  have hfile : limitText? env (some job) key = limitText? env none key := by
    rw [limitText?, limitText?, Option.bind_some, Option.bind_none, h]
  rw [limit?, limit?, hfile]

/-- A blank text is no limit value. -/
theorem trim_ne_nil_of_parse {text : String} {n : UInt64} (h : Limit.parse text = .ok n) :
    Text.trim text.toList ≠ [] := by
  intro hblank
  rw [Limit.parse, hblank] at h
  cases h

/-- The value that the job file sets is what is read. -/
theorem limit?_of_sets {n : UInt64} (h : job.Sets key n) (env : Environment) :
    limit? env (some job) key = .ok (some n) := by
  obtain ⟨text, htext, hparse⟩ := h
  rw [limit?, limitText?, Option.bind_some, htext, Option.some_or]
  dsimp only
  rw [if_neg (trim_ne_nil_of_parse hparse), hparse]

/-! ## One device -/

/-- The limit that an environment by itself sets for one device. Zero is none, and so is a text
that is blank or no limit value. -/
def override? (env : Environment) (key : String) (d : DeviceIndex) : Option UInt64 :=
  (limit? env none (deviceKey key d)).toOption.join.filter (0 < ·)

/-- If the job file sets the variable of a device, the limit of the device is the same in every
environment. -/
theorem deviceLimit_of_isSome (h : (job.get? (deviceKey key d)).isSome) (common : UInt64)
    (env₁ env₂ : Environment) :
    deviceLimit env₁ (some job) key common d = deviceLimit env₂ (some job) key common d := by
  rw [deviceLimit, deviceLimit, limit?_of_isSome h env₁ env₂]

/-- If the job file does not set the variable of a device, the environment may override the common
limit there. -/
theorem eq_override_of_deviceLimit {common n : UInt64} (h : job.get? (deviceKey key d) = none)
    (hlimit : deviceLimit env (some job) key common d = .ok n) :
    n = (override? env key d).getD common := by
  rw [deviceLimit, limit?_of_eq_none h] at hlimit
  rw [override?]
  cases hread : limit? env none (deviceKey key d) with
  | error e =>
    rw [hread] at hlimit
    cases hlimit
  | ok own =>
    rw [hread] at hlimit
    cases hlimit
    rfl

/-! ## All devices -/

/-- Reading a list of texts, each of them is read. -/
private theorem exists_of_mapM {ε α β : Type} {f : α → Except ε β} {l : List α} {bs : List β}
    (h : l.mapM f = .ok bs) {i : Nat} {a : α} (ha : l[i]? = some a) :
    ∃ b, bs[i]? = some b ∧ f a = .ok b := by
  induction l generalizing bs i with
  | nil => cases ha
  | cons x l ih =>
    rw [List.mapM_cons] at h
    obtain ⟨b, hx, h⟩ := Run.bind_eq_ok.1 h
    obtain ⟨bs', hl, h⟩ := Run.bind_eq_ok.1 h
    cases h
    -- The result of the head stands at the head; the others are those of the tail.
    cases i with
    | zero =>
      cases ha
      exact ⟨b, rfl, hx⟩
    | succ i => exact ih hl ha

/-- The settings hold what is read for each device against the common limits. -/
theorem deviceLimit_of_ofEnvironment {job : Option JobFile} {s : Settings}
    (h : ofEnvironment env job = .ok s) :
    ∃ memory compute, limit? env job memoryKey = .ok memory ∧
      limit? env job computeKey = .ok compute ∧
      ∀ d : DeviceIndex,
        deviceLimit env job memoryKey (memory.getD 0) d = .ok (s.memoryLimits.get d) ∧
        deviceLimit env job computeKey ((compute.filter (0 < ·)).getD unlimitedCompute) d =
          .ok (s.computeLimits.get d) := by
  obtain ⟨limits, hlimits, h⟩ := Run.bind_eq_ok.1 h
  obtain ⟨memory, hmemory, hlimits⟩ := Run.bind_eq_ok.1 hlimits
  obtain ⟨compute, hcompute, hlimits⟩ := Run.bind_eq_ok.1 hlimits
  refine ⟨memory, compute, hmemory, hcompute, fun d => ?_⟩
  obtain ⟨⟨m, c⟩, hget, hread⟩ := exists_of_mapM (a := d) hlimits (i := d.val) (by simp)
  obtain ⟨m', hm, hread⟩ := Run.bind_eq_ok.1 hread
  obtain ⟨c', hc, hread⟩ := Run.bind_eq_ok.1 hread
  cases hread
  -- The settings are made of the limits, and are then only checked.
  obtain ⟨-, -, h⟩ := Run.bind_eq_ok.1 h
  cases h
  have hget_ofFn (f : DeviceIndex → UInt64) : (Vector.ofFn f).get d = f d :=
    Vector.getElem_ofFn d.isLt
  rw [hget_ofFn, hget_ofFn, List.getElem?_map, List.getElem?_map, hget]
  exact ⟨hm, hc⟩

/-- Two readings of the limits of all devices, in two environments with one job file and one common
limit, agree exactly if both environments override alike wherever the job file says nothing of a
device. -/
private theorem limits_eq_iff {common : UInt64} {l₁ l₂ : Vector UInt64 maxDevices}
    (h₁ : ∀ d, deviceLimit env₁ (some job) key common d = .ok (l₁.get d))
    (h₂ : ∀ d, deviceLimit env₂ (some job) key common d = .ok (l₂.get d)) :
    l₁ = l₂ ↔ ∀ d, job.get? (deviceKey key d) = none →
      (override? env₁ key d).getD common = (override? env₂ key d).getD common := by
  constructor
  · rintro rfl d hd
    rw [← eq_override_of_deviceLimit hd (h₁ d), ← eq_override_of_deviceLimit hd (h₂ d)]
  · -- Where the job file sets the device itself, the environment has no say.
    intro hoverride
    refine Vector.ext fun i hi => ?_
    have hget : l₁.get ⟨i, hi⟩ = l₂.get ⟨i, hi⟩ := by
      cases hfile : job.get? (deviceKey key ⟨i, hi⟩) with
      | none =>
        rw [eq_override_of_deviceLimit hfile (h₁ _), eq_override_of_deviceLimit hfile (h₂ _)]
        exact hoverride _ hfile
      | some text =>
        have hsome : (job.get? (deviceKey key ⟨i, hi⟩)).isSome := by rw [hfile, Option.isSome_some]
        have hsame := deviceLimit_of_isSome hsome common env₁ env₂
        rw [h₁, h₂] at hsame
        exact Except.ok.inj hsame
    exact hget

/-! ## A job with one gibibyte -/

/-- A host with a job file that grants one gibibyte on every device. -/
def oneJob : Files :=
  let text := "CUDA_DEVICE_MEMORY_LIMIT=1g\n".toUTF8
  { nodes := #[{ length := text.size, bytes := text }]
    entries := [([""], .directory), (["", "7.conf"], .file 0)] }

/-- What the job file says. -/
def oneJobFile : JobFile where
  path := "/7.conf"
  assignments := [("CUDA_DEVICE_MEMORY_LIMIT", "1g")]

/-- The environment of the job as the scheduler leaves it, with what the user adds. -/
def jobEnv (added : List (String × EnvValue)) : Environment :=
  ⟨added ++ [("SLURM_JOB_ID", .text "7"), ("SOFTMIG_CONFIG_DIR", .text "/")]⟩

/-- The user sets another common limit. -/
def commonEnv : Environment := jobEnv [("CUDA_DEVICE_MEMORY_LIMIT", .text "16g")]

/-- The user sets a limit for the first device alone. -/
def raisedEnv : Environment := jobEnv [("CUDA_DEVICE_MEMORY_LIMIT_0", .text "16g")]

private theorem sets_oneJobFile : oneJobFile.Sets memoryKey 0x40000000 :=
  ⟨"1g", by decide +kernel, rfl⟩

private theorem jobFile?_oneJob (h : JobFile.path? env = some "/7.conf") :
    Workload.jobFile? oneJob env = some oneJobFile := by
  have htext : (oneJob.readText? "/7.conf").toOption = some "CUDA_DEVICE_MEMORY_LIMIT=1g\n" := by
    decide +kernel
  rw [Workload.jobFile?, h, Option.bind_eq_bind, Option.bind_some, htext]
  decide +kernel

private theorem exists_settings {n : UInt64} (hpath : JobFile.path? env = some "/7.conf")
    (h : (ofEnvironment env oneJobFile).toOption.map (·.memoryLimits.get governedDevice) = some n) :
    ∃ s, Workload.settings oneJob env = .ok s ∧ s.memoryLimits.get governedDevice = n := by
  rw [Workload.settings, jobFile?_oneJob hpath]
  cases hread : ofEnvironment env oneJobFile with
  | error e =>
    rw [hread] at h
    cases h
  | ok s =>
    rw [hread] at h
    exact ⟨s, rfl, Option.some.inj h⟩

/-- Two environments that lead to one job file with a positive common limit make the same limits of
it exactly if they override alike for every device of which the file says nothing. What they say of
the common limit, and of devices that the file names, does not count. -/
theorem limits_eq_iff_overrides_eq {files : Files} {s₁ s₂ : Settings}
    (hjob₁ : Workload.jobFile? files env₁ = some job)
    (hjob₂ : Workload.jobFile? files env₂ = some job)
    (hs₁ : Workload.settings files env₁ = .ok s₁) (hs₂ : Workload.settings files env₂ = .ok s₂)
    {n : UInt64} (hn : 0 < n) :
    (job.Sets memoryKey n → (s₁.memoryLimits = s₂.memoryLimits ↔
      ∀ d, job.get? (deviceKey memoryKey d) = none →
        (override? env₁ memoryKey d).getD n = (override? env₂ memoryKey d).getD n)) ∧
    (job.Sets computeKey n → (s₁.computeLimits = s₂.computeLimits ↔
      ∀ d, job.get? (deviceKey computeKey d) = none →
        (override? env₁ computeKey d).getD n = (override? env₂ computeKey d).getD n)) := by
  rw [Workload.settings, hjob₁] at hs₁
  rw [Workload.settings, hjob₂] at hs₂
  -- Both runs read every device by the same rule, from a common limit of their own.
  obtain ⟨memory₁, compute₁, hmemory₁, hcompute₁, hread₁⟩ := deviceLimit_of_ofEnvironment hs₁
  obtain ⟨memory₂, compute₂, hmemory₂, hcompute₂, hread₂⟩ := deviceLimit_of_ofEnvironment hs₂
  constructor
  · intro hsets
    rw [limit?_of_sets hsets] at hmemory₁ hmemory₂
    cases hmemory₁
    cases hmemory₂
    exact limits_eq_iff (fun d => (hread₁ d).1) fun d => (hread₂ d).1
  · intro hsets
    rw [limit?_of_sets hsets] at hcompute₁ hcompute₂
    cases hcompute₁
    cases hcompute₂
    -- A common compute limit that is set is not zero, so that it is not passed over.
    rw [Option.filter_some, if_pos (by simpa using hn)] at hread₁ hread₂
    exact limits_eq_iff (fun d => (hread₁ d).2) fun d => (hread₂ d).2

/-- Another common limit in the environment changes nothing. -/
theorem limits_eq_of_commonEnv :
    ∃ s₁ s₂, Workload.settings oneJob (jobEnv []) = .ok s₁ ∧
      Workload.settings oneJob commonEnv = .ok s₂ ∧ s₁.memoryLimits = s₂.memoryLimits := by
  have hpath₁ : JobFile.path? (jobEnv []) = some "/7.conf" := by decide +kernel
  have hpath₂ : JobFile.path? commonEnv = some "/7.conf" := by decide +kernel
  obtain ⟨s₁, hs₁, -⟩ := exists_settings (n := 0x40000000) hpath₁ (by decide +kernel)
  obtain ⟨s₂, hs₂, -⟩ := exists_settings (n := 0x40000000) hpath₂ (by decide +kernel)
  refine ⟨s₁, s₂, hs₁, hs₂, ?_⟩
  -- Both environments have no limit of their own for any device.
  refine ((limits_eq_iff_overrides_eq (jobFile?_oneJob hpath₁) (jobFile?_oneJob hpath₂) hs₁ hs₂
    (by decide)).1 sets_oneJobFile).2 ?_
  decide +kernel

/-- A job file that sets the common memory limit does not fix the limits of the devices: a user may
raise the limit of one device by its own variable. -/
theorem not_memoryLimits_eq : ¬ ∀ (files : Files) (env₁ env₂ : Environment) (job : JobFile)
    (n : UInt64) (s₁ s₂ : Settings), Workload.jobFile? files env₁ = some job →
    Workload.jobFile? files env₂ = some job → job.Sets memoryKey n → 0 < n →
    Workload.settings files env₁ = .ok s₁ → Workload.settings files env₂ = .ok s₂ →
    s₁.memoryLimits = s₂.memoryLimits := by
  intro h
  have hpath₁ : JobFile.path? (jobEnv []) = some "/7.conf" := by decide +kernel
  have hpath₂ : JobFile.path? raisedEnv = some "/7.conf" := by decide +kernel
  -- One user leaves the environment alone, the other one asks for sixteen times as much.
  obtain ⟨s₁, hs₁, hlimit₁⟩ := exists_settings (n := 0x40000000) hpath₁ (by decide +kernel)
  obtain ⟨s₂, hs₂, hlimit₂⟩ := exists_settings (n := 0x400000000) hpath₂ (by decide +kernel)
  have heq := h _ _ _ _ _ _ _ (jobFile?_oneJob hpath₁) (jobFile?_oneJob hpath₂) sets_oneJobFile
    (by decide) hs₁ hs₂
  rw [heq, hlimit₂] at hlimit₁
  exact absurd hlimit₁ (by decide)

end Settings

end GpuQuota
