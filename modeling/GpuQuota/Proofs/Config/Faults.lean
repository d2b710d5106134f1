import GpuQuota.Proofs.Config.Resolution
import GpuQuota.Workload

/-!
# Faults that are ignored

A limit that cannot be read should stop a process, since it would run without the limit otherwise.
The texts of limit variables are checked, but two faults come before that and turn into absence: a
job file that is there and cannot be loaded is as good as none, and a variable of the environment
that is no text is as good as unset. Settings are then made of what is left.

The module introduces:

* `Workload.Unloadable`, `Workload.Faulty` — the job file, or a limit variable, is at fault.
* `Workload.FailsClosed` — where something is at fault, the settings are refused.
* `Workload.settings_congr` — settings depend on the texts of an environment alone.
* `Workload.failsClosed_iff` — what it takes for the settings to be refused.
* `Workload.not_failsClosed` — neither kind of fault is enough.
-/

namespace GpuQuota

/-- The value is neither blank nor a limit value. What is no text is neither. -/
def EnvValue.IsFault : EnvValue → Prop
  | .text value => Text.trim value.toList ≠ [] ∧ ∀ n, Limit.parse value ≠ .ok n
  | .bytes _ => True

namespace Workload

open Settings

/-- The path of the job file leads to something, but not to a file that can be read as text. -/
def Unloadable (files : Files) (env : Environment) : Prop :=
  ∃ path place, JobFile.path? env = some path ∧ (files.locate path).toOption = some place ∧
    (files.find? place).isSome ∧ (files.readText? path).toOption = none

/-- The environment sets a variable, of which the job file says nothing, to something that is
neither blank nor a limit value. -/
def Faulty (files : Files) (env : Environment) (key : String) : Prop :=
  (∀ job, jobFile? files env = some job → job.get? key = none) ∧
    ∃ value, env.find? key = some value ∧ value.IsFault

/-- If the job file or a limit variable is at fault, the settings are refused. -/
def FailsClosed (files : Files) (env : Environment) : Prop :=
  Unloadable files env ∨ (∃ key ∈ limitKeys, Faulty files env key) →
    ∃ e, settings files env = .error e

variable {files : Files} {env env' : Environment}

/-! ## What is left -/

/-- A job file that cannot be loaded is as good as none. -/
theorem Unloadable.jobFile?_eq_none (h : Unloadable files env) : jobFile? files env = none := by
  obtain ⟨path, place, hpath, -, -, htext⟩ := h
  simp [jobFile?, hpath, htext]

/-- A limit variable of which neither the job file nor the environment gives a text is unset. -/
theorem limit?_congr {job : Option JobFile} (h : ∀ name, env.text? name = env'.text? name)
    (key : String) : limit? env job key = limit? env' job key := by
  simp only [limit?, limitText?, h]

theorem ofEnvironment_congr (h : ∀ name, env.text? name = env'.text? name) (job : Option JobFile) :
    ofEnvironment env job = ofEnvironment env' job := by
  have hlimits : deviceLimits env job = deviceLimits env' job := by
    simp only [deviceLimits, deviceLimit, limit?_congr h]
  simp only [ofEnvironment, LockSettings.ofEnvironment, Environment.natural?, Environment.integer?,
    hlimits, h]

theorem jobFile?_congr (h : ∀ name, env.text? name = env'.text? name) (files : Files) :
    jobFile? files env = jobFile? files env' := by
  simp only [jobFile?, JobFile.path?, Environment.nonempty?, h]

/-- Settings depend on the texts of an environment alone. -/
theorem settings_congr (h : ∀ name, env.text? name = env'.text? name) (files : Files) :
    settings files env = settings files env' := by
  rw [settings, settings, jobFile?_congr h, ofEnvironment_congr h]

/-! ## What is refused -/

/-- A limit variable counts with a text that is no limit value. -/
def Rejects (files : Files) (env : Environment) : Prop :=
  ∃ key ∈ limitKeys, ∃ text, effective? env (jobFile? files env) key = some text ∧
    ∀ n, Limit.parse text ≠ .ok n

theorem rejection?_eq_none_iff {job : Option JobFile} {key : String} :
    rejection? env job key = none ↔
      ∀ text, effective? env job key = some text → ∃ n, Limit.parse text = .ok n := by
  rw [rejection?, Option.bind_eq_none_iff]
  refine forall₂_congr fun text _ => ?_
  cases Limit.parse text <;> simp

/-- Settings are refused if a text that counts is no limit value, or something is out of range, and
for no other reason. -/
theorem refused_iff : (∃ e, settings files env = .error e) ↔
    Rejects files env ∨ ¬ InRange env (jobFile? files env) := by
  have hfirst : limitKeys.findSome? (rejection? env (jobFile? files env)) = none ↔
      ¬ Rejects files env := by
    simp only [List.findSome?_eq_none_iff, rejection?_eq_none_iff, Rejects, not_exists, not_and,
      not_forall, not_not]
  -- The first key in order that is refused is refused first; so there is a refusal exactly if some
  -- key is.
  rw [settings]
  rcases ofEnvironment_cases env (jobFile? files env) with
    ⟨e, he, heq⟩ | ⟨hnone, ⟨hrange, setting, heq⟩ | ⟨hrange, s, -, heq⟩⟩
  · have hrejects : Rejects files env := by
      refine Classical.byContradiction fun h => ?_
      rw [hfirst.2 h] at he
      cases he
    simp [heq, hrejects]
  · simp [heq, hrange]
  · simp [heq, hrange, hfirst.1 hnone]

/-- A text of the environment that is at fault is refused. -/
theorem Faulty.rejects {key text : String} (hkey : key ∈ limitKeys) (h : Faulty files env key)
    (htext : env.find? key = some (.text text)) : Rejects files env := by
  obtain ⟨hfile, value, hvalue, hfault⟩ := h
  obtain rfl : EnvValue.text text = value := Option.some.inj (htext.symm.trans hvalue)
  obtain ⟨hblank, hlimit⟩ := hfault
  have hjob : (jobFile? files env).bind (·.get? key) = none := Option.bind_eq_none_iff.2 hfile
  refine ⟨key, hkey, text, ?_, hlimit⟩
  simp [effective?, hjob, Environment.text?, htext, hblank]

/-- A fault stops a process exactly if, besides job files that cannot be loaded and variables that
are no text, something is wrong: a text that counts is no limit value, or something is out of range.
So it is with every text of the environment that is at fault, but a job file that cannot be loaded
is as good as none, and what is no text is as good as unset. -/
theorem failsClosed_iff (files : Files) (env : Environment) :
    (FailsClosed files env ↔
      ¬ (Unloadable files env ∨ ∃ key ∈ limitKeys, Faulty files env key) ∨
        Rejects files env ∨ ¬ InRange env (jobFile? files env)) ∧
    (∀ key ∈ limitKeys, ∀ text, env.find? key = some (.text text) → Faulty files env key →
      Rejects files env) ∧
    (Unloadable files env → settings files env = ofEnvironment env none) ∧
    ∀ env', (∀ name, env.text? name = env'.text? name) →
      settings files env = settings files env' := by
  -- To fail closed is to refuse wherever there is a fault.
  refine ⟨?_, fun key hkey text htext h => h.rejects hkey htext, fun h => ?_,
    fun env' h => settings_congr h files⟩
  · rw [FailsClosed, refused_iff, imp_iff_not_or]
  · rw [settings, h.jobFile?_eq_none]

/-- A limit for one device that is no number stops the process. -/
theorem failsClosed_iff_of_text :
    let env : Environment := ⟨[("CUDA_DEVICE_SM_LIMIT_3", .text "half")]⟩
    Faulty {} env "CUDA_DEVICE_SM_LIMIT_3" ∧ ∃ e, settings {} env = .error e := by
  intro env
  have hkey : "CUDA_DEVICE_SM_LIMIT_3" ∈ limitKeys := by decide +kernel
  have hfaulty : Faulty {} env "CUDA_DEVICE_SM_LIMIT_3" := by
    refine ⟨fun job hjob => ?_, .text "half", rfl, by decide +kernel, fun n hn => ?_⟩
    · cases hjob
    · cases hn
  -- The value is text and denotes no limit, so that it is refused and not passed over.
  obtain ⟨hclosed, hrejects, -⟩ := failsClosed_iff {} env
  exact ⟨hfaulty, hclosed.2 (.inr (.inl (hrejects _ hkey _ rfl hfaulty))) (.inr ⟨_, hkey, hfaulty⟩)⟩

/-! ## Processes that run without a limit -/

/-- A host with a job file that grants one gibibyte, with a remark in another encoding. -/
def remarkedJob : Files :=
  let bytes := "CUDA_DEVICE_MEMORY_LIMIT=1g\n# caf".toUTF8 ++ ⟨#[0xE9, 0x0A]⟩
  { nodes := #[{ length := bytes.size, bytes }]
    entries := [([""], .directory), (["", "7.conf"], .file 0)] }

/-- The environment of the job. -/
def remarkedEnv : Environment :=
  ⟨[("SLURM_JOB_ID", .text "7"), ("SOFTMIG_CONFIG_DIR", .text "/")]⟩

/-- An environment that limits the memory to something that is no text. -/
def bytesEnv : Environment := ⟨[("CUDA_DEVICE_MEMORY_LIMIT", .bytes ⟨#[0xFF]⟩)]⟩

/-- A job file that cannot be loaded does not stop the process, and neither does a limit variable
that is no text. -/
theorem not_failsClosed :
    (¬ ∀ files env, Unloadable files env → ∃ e, settings files env = .error e) ∧
      ¬ ∀ files env, (∃ key ∈ limitKeys, Faulty files env key) →
        ∃ e, settings files env = .error e := by
  -- Where settings are made nothing is refused.
  have hmade {files : Files} {env : Environment} (h : (settings files env).toOption.isSome = true) :
      ¬ ∃ e, settings files env = .error e := by
    rintro ⟨e, he⟩
    rw [he] at h
    cases h
  constructor
  · intro h
    have hunloadable : Unloadable remarkedJob remarkedEnv :=
      ⟨"/7.conf", ["", "7.conf"], by decide +kernel, by decide +kernel, by decide +kernel,
        by decide +kernel⟩
    exact hmade (by decide +kernel) (h _ _ hunloadable)
  · intro h
    have hfaulty : Faulty {} bytesEnv memoryKey := by
      refine ⟨fun job hjob => ?_, _, rfl, trivial⟩
      cases hjob
    exact hmade (by decide +kernel) (h _ _ ⟨_, by decide +kernel, hfaulty⟩)

end Workload

end GpuQuota
