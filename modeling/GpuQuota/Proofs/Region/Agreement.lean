import GpuQuota.Driver.Simulated
import GpuQuota.Proofs.Region.Attach
import GpuQuota.Proofs.Work
import Mathlib.Logic.Relation

/-!
# Members agree with their region

The version and the limits of a region are written once, by the process that sets it up. From then
on every process that is let in has compared its own settings with them, and nothing that any
process asks for writes them again. So all that were ever let in agree with the region, and with
one another.

The module introduces:

* `Region.terms` — the version and the limits of a region.
* `Machine.Upholds` — what members have agreed on in the files of one host stands in those of
  another.
* `Deployment` — a host with all attachments that were ever made on it; `Deployment.Step` is one
  operation of one process.
* `Deployment.attached_agree` — attaching, and what holds of all that were let in;
  `Deployment.attached_agree_of_members` shows it for three processes at one file.
-/

namespace GpuQuota

/-! ## Agreement in a region -/

namespace Region

/-- The version of a region, its memory limits, and its compute limits. -/
def terms (r : Region) : Nat × Nat × Vector UInt64 maxDevices × Vector UInt64 maxDevices :=
  (r.major, r.minor, r.memoryLimits, r.computeLimits)

variable {r r' : Region} {s : Settings}

/-- The terms of a region that agrees with settings are those of the settings. -/
theorem Agrees.terms_eq (h : r.Agrees s) :
    r.terms = (layoutMajor, layoutMinor, s.memoryLimits, s.computeLimits) := by
  rw [terms, h.current.1, h.current.2, h.memoryLimits_eq, h.computeLimits_eq]

/-- The table has no part in an agreement. -/
theorem agrees_frame : r.frame.Agrees s ↔ r.Agrees s :=
  ⟨fun h => ⟨h.complete, h.current, h.limits⟩, fun h => ⟨h.complete, h.current, h.limits⟩⟩

/-- Agreement is a matter of the frame. -/
theorem Agrees.congr (h : r.Agrees s) (hframe : r'.frame = r.frame) : r'.Agrees s :=
  agrees_frame.1 (hframe ▸ agrees_frame.2 h)

/-- The locks have no part in it. -/
theorem Agrees.setLocks (h : r.Agrees s) (lock : LockWord) (postinit : Nat) :
    { r with lock, postinit }.Agrees s :=
  ⟨h.complete, h.current, h.limits⟩

end Region

/-- No operation of a member ends an agreement. -/
theorem Seat.enduring_agrees (m : Member) (s : Settings) :
    Enduring m fun st => st.region.Agrees s where
  congr h hframe _ := h.congr hframe
  locked {_ body} hbody st h := by
    -- Locks are no part of the agreement, so that only the body has to be looked at.
    let attempt := st.region.lock.acquire m.pid m.alive m.settings.lock.retries
    have hbefore : { st.region with lock := attempt.word }.Agrees s := h.setLocks attempt.word _
    exact (hbefore.congr (hbody _)).setLocks _ _
  tryLocked hbody st h := by
    unfold Member.tryLocked
    split
    next => exact h
    next word _ =>
      have hbefore : { st.region with lock := word }.Agrees s := h.setLocks word _
      exact (hbefore.congr (hbody _)).setLocks _ _
  passPostinit := by
    intro st h
    obtain ⟨postinit, expired, hpass⟩ := m.passPostinit_apply st
    rw [hpass]
    exact h.setLocks _ postinit

/-! ## Agreement on a host -/

namespace Files

/-- Names lead to files that there are. -/
def Sound (fs : Files) : Prop := ∀ path id, fs.find? path = some (.file id) → id < fs.nodes.size

variable {fs fs' : Files} {id : NodeId}

/-- Where there are no files, names lead to none. -/
theorem sound_empty : Sound {} := by
  intro path id h
  unfold find? at h
  split at h <;> cases h

/-- Names still lead to files after a change of one file. -/
theorem Sound.modifyNode (h : fs.Sound) (id : NodeId) (f : FileNode → FileNode) :
    (fs.modifyNode id f).Sound := by
  intro path j hj
  rw [size_modifyNode]
  exact h path j hj

/-- So they do after a file was created, and the new name leads to that file. -/
theorem Sound.create (h : fs.Sound) {text : String} (hcreate : fs.create text = .ok (id, fs')) :
    fs'.Sound ∧ id < fs'.nodes.size := by
  rcases create_cases hcreate with ⟨⟨path, hfind⟩, rfl⟩ | ⟨path, rfl, rfl⟩
  · exact ⟨h, h path id hfind⟩
  · have hsize : (fs.nodes.push {}).size = fs.nodes.size + 1 := Array.size_push _
    refine ⟨fun path' j hj => ?_, hsize ▸ Nat.lt_succ_self _⟩
    show j < (fs.nodes.push {}).size
    rw [hsize]
    unfold find? at hj
    split at hj
    next => cases hj
    next hne =>
      rw [List.lookup_cons] at hj
      -- The name that was looked up is the new one, or it was there before.
      split at hj
      next =>
        cases hj
        exact Nat.lt_succ_self _
      next => exact (h path' j ((if_neg hne).trans hj)).trans (Nat.lt_succ_self _)

/-- Creating a file that there is finds it and adds nothing. -/
theorem create_eq_of_lt {text : String} (h : (fs.create text).map (·.1) = .ok id)
    (hid : id < fs.nodes.size) : fs.create text = .ok (id, fs) := by
  obtain ⟨⟨found, fs'⟩, hcreate, rfl⟩ := Run.map_eq_ok.1 h
  -- A file that was added would come after all that there are.
  rcases create_cases hcreate with ⟨-, rfl⟩ | ⟨path, rfl, -⟩
  · exact hcreate
  · exact absurd hid (lt_irrefl _)

end Files

namespace Machine

/-- What members have agreed on in the files of one host stands in those of another. -/
structure Upholds (host host' : Machine) : Prop where
  names : host.files.Sound → host'.files.Sound
  size : host.files.nodes.size ≤ host'.files.nodes.size
  agrees : ∀ node s, (host.region node).Agrees s → (host'.region node).Agrees s

namespace Upholds

variable {host host' host'' : Machine}

/-- Where no file changes, what members have agreed on stands. -/
theorem of_files (h : host'.files = host.files) : host.Upholds host' where
  names := h ▸ id
  size := h ▸ le_rfl
  agrees node s hagrees := by
    show (host'.files.node node).region.Agrees s
    rw [h]
    exact hagrees

/-- What stands after one change and after the next one stands after both. -/
theorem trans (h : host.Upholds host') (h' : host'.Upholds host'') : host.Upholds host'' where
  names := h'.names ∘ h.names
  size := h.size.trans h'.size
  agrees node s := h'.agrees node s ∘ h.agrees node s

/-- Storing a region ends no agreement if it stands in that region. -/
theorem store {node : NodeId} {r : Region}
    (h : ∀ s, (host.region node).Agrees s → r.Agrees s) : host.Upholds (host.store node r) where
  names hsound := hsound.modifyNode node _
  size := (Files.size_modifyNode host.files node _).ge
  agrees j s hagrees := by
    rw [region_store]
    split
    next hj => exact h s (hj.1 ▸ hagrees)
    next => exact hagrees

/-- Attaching sets up no region that was set up before. -/
theorem attach (settings : Settings) (pid : Pid) (liveness : Liveness) :
    host.Upholds (Machine.attach settings pid liveness host).2 := by
  rcases attach_eq_error_or pid liveness settings host with ⟨e, h⟩ | ⟨hvalid, node, files, hcreate⟩
  · rw [h]
    exact of_files rfl
  · have hfiles := files_attach pid liveness hvalid hcreate
    refine ⟨fun hsound => ?_, ?_, fun j s hagrees => ?_⟩
    · rw [hfiles]
      exact ((hsound.create hcreate).1.modifyNode node _).modifyNode node _
    · rw [hfiles, Files.size_modifyNode, Files.size_modifyNode]
      exact Files.size_le_create hcreate
    · -- A region that agrees with anybody is complete, and attaching to it leaves it alone.
      rw [region_attach pid liveness hvalid hcreate]
      split
      next hj =>
        rw [← hj.1] at hagrees
        rw [Region.attach_of_complete hagrees.complete]
        exact hagrees
      next => exact hagrees

/-- Looking at a region ends no agreement, as it changes no file. -/
theorem inspect (path : String) (pid : Pid) :
    host.Upholds (Machine.inspect path pid host).2 := by
  exact of_files (keeps_files_inspect path pid host.files host rfl)

/-- Whatever a process asks for ends no agreement. -/
theorem work {σ μ : Type} [DeviceDriver σ] [Management μ] {node : NodeId} (m : Member)
    (work : Work) (w : Worker σ μ) (hregion : w.seat.region = host.region node) :
    host.Upholds (host.store node (work.run m w).seat.region) :=
  store fun s hagrees => work.run_keeps (Seat.enduring_agrees m s) (hregion ▸ hagrees)

/-- Nor does a signal: a status is not part of the frame. -/
theorem deliver (pid : Pid) (status : ProcStatus) : host.Upholds (host.deliver pid status).2 := by
  unfold Machine.deliver
  dsimp only
  split
  next t _ => exact store fun s hagrees => hagrees.congr (Region.frame_modifySlot _ _ _)
  next => exact of_files rfl

/-- Nor do signals to all processes of a region. -/
theorem signalAll (a : Attachment) (status : ProcStatus) :
    host.Upholds (host.signalAll a status).2 := by
  refine List.foldlRecOn (motive := fun sent : Nat × Machine => host.Upholds sent.2) _ _
    (of_files rfl) fun sent h pid _ => h.trans ?_
  exact deliver pid status

end Upholds

/-- Whoever is let in finds a region that agrees with its settings. -/
theorem agrees_of_attach {host : Machine} {settings : Settings} {pid : Pid} {liveness : Liveness}
    {a : Attachment} (hsound : host.files.Sound)
    (h : (Machine.attach settings pid liveness host).1 = .ok a) :
    ((Machine.attach settings pid liveness host).2.region a.node).Agrees a.settings := by
  rcases attach_eq_error_or pid liveness settings host with ⟨e, he⟩ | ⟨hvalid, node, files, hcreate⟩
  · rw [he] at h
    cases h
  · obtain ⟨houtcome, rfl⟩ := eq_of_attach pid liveness hvalid hcreate h
    rw [region_attach pid liveness hvalid hcreate, if_pos ⟨rfl, (hsound.create hcreate).2⟩]
    exact Region.agrees_of_attach houtcome

end Machine

/-! ## Runs -/

/-- A host, and every attachment that was ever made on it. -/
structure Deployment where
  /-- The host. -/
  host : Machine
  /-- All that were let in, the last one first. -/
  attached : List Attachment := []

namespace Deployment

/-- Nobody was let in yet. There may be any files; the one that a region will lie in need not be
there. -/
structure Start (d : Deployment) : Prop where
  sound : d.host.files.Sound
  attached_eq : d.attached = []

/-- One operation of one process. -/
inductive Step : Deployment → Deployment → Prop
  /-- A process attaches with any settings, and is let in or not. -/
  | attach (host : Machine) (attached : List Attachment) (settings : Settings) (pid : Pid)
    (liveness : Liveness) :
    Step ⟨host, attached⟩
      ⟨(Machine.attach settings pid liveness host).2,
        (Machine.attach settings pid liveness host).1.toOption.toList ++ attached⟩
  /-- A process maps a region to look at it. -/
  | inspect (host : Machine) (attached : List Attachment) (path : String) (pid : Pid) :
    Step ⟨host, attached⟩ ⟨(Machine.inspect path pid host).2, attached⟩
  /-- A process works on a region, whoever it is and whatever it asks for. -/
  | work {σ μ : Type} [DeviceDriver σ] [Management μ] (host : Machine)
    (attached : List Attachment) (node : NodeId) (m : Member) (work : Work) (w : Worker σ μ)
    (hregion : w.seat.region = host.region node) :
    Step ⟨host, attached⟩ ⟨host.store node (work.run m w).seat.region, attached⟩
  /-- A process takes a lock of a region, gives it back, or takes it over. -/
  | locks (host : Machine) (attached : List Attachment) (node : NodeId) (lock : LockWord)
    (postinit : Nat) :
    Step ⟨host, attached⟩ ⟨host.store node { host.region node with lock, postinit }, attached⟩
  /-- A process is signalled. -/
  | deliver (host : Machine) (attached : List Attachment) (pid : Pid) (status : ProcStatus) :
    Step ⟨host, attached⟩ ⟨(host.deliver pid status).2, attached⟩
  /-- All processes of a region are signalled. -/
  | signalAll (host : Machine) (attached : List Attachment) (a : Attachment)
    (status : ProcStatus) :
    Step ⟨host, attached⟩ ⟨(host.signalAll a status).2, attached⟩
  /-- Processes start, end, crash, or drop an attachment; time passes. -/
  | processes (host after : Machine) (attached : List Attachment)
    (h : after.files = host.files) : Step ⟨host, attached⟩ ⟨after, attached⟩

/-- Names lead to files, and all that were ever let in agree with the region that they attached. -/
structure Settled (d : Deployment) : Prop where
  sound : d.host.files.Sound
  agrees : ∀ a ∈ d.attached, (d.host.region a.node).Agrees a.settings

variable {d₀ d d' : Deployment}

/-- At the start nobody was let in who could disagree. -/
theorem Start.settled (h : d.Start) : d.Settled where
  sound := h.sound
  agrees a ha := by
    rw [h.attached_eq] at ha
    cases ha

/-- No step ends an agreement. -/
theorem Step.upholds (h : Step d d') : d.host.Upholds d'.host := by
  cases h with
  | attach host attached settings pid liveness => exact .attach settings pid liveness
  | inspect host attached path pid => exact .inspect path pid
  | work host attached node m work w hregion => exact .work m work w hregion
  | locks host attached node lock postinit => exact .store fun s h => h.setLocks lock postinit
  | deliver host attached pid status => exact .deliver pid status
  | signalAll host attached a status => exact .signalAll a status
  | processes host after attached h => exact .of_files h

/-- Nobody is let in but by attaching. -/
theorem Step.mem_attached (h : Step d d') {a : Attachment} (ha : a ∈ d'.attached) :
    a ∈ d.attached ∨ ∃ settings pid liveness,
      (Machine.attach settings pid liveness d.host).1 = .ok a ∧
        d'.host = (Machine.attach settings pid liveness d.host).2 := by
  -- Only attaching adds to those that were let in.
  cases h with
  | attach host attached settings pid liveness =>
    rcases List.mem_append.1 ha with hnew | hold
    · refine .inr ⟨settings, pid, liveness, ?_, rfl⟩
      cases hresult : (Machine.attach settings pid liveness host).1 with
      | error e =>
        rw [hresult] at hnew
        cases hnew
      | ok b =>
        rw [hresult] at hnew
        rw [List.mem_singleton.1 hnew]
    · exact .inl hold
  | inspect | work | locks | deliver | signalAll | processes => exact .inl ha

/-- After each step all that were ever let in agree with their regions. -/
theorem Step.settled (h : Step d d') (hd : d.Settled) : d'.Settled where
  sound := h.upholds.names hd.sound
  agrees a ha := by
    rcases h.mem_attached ha with hold | ⟨settings, pid, liveness, hin, hhost⟩
    · exact h.upholds.agrees a.node a.settings (hd.agrees a hold)
    · rw [hhost]
      exact Machine.agrees_of_attach hd.sound hin

/-- No run ends an agreement. -/
theorem upholds_of_run (h : Relation.ReflTransGen Step d d') : d.host.Upholds d'.host := by
  induction h with
  | refl => exact .of_files rfl
  | tail _ hstep ih => exact ih.trans hstep.upholds

/-- After each run all that were ever let in agree with their regions. -/
theorem Settled.of_run (hd : d.Settled) (h : Relation.ReflTransGen Step d d') : d'.Settled := by
  induction h with
  | refl => exact hd
  | tail _ hstep ih => exact hstep.settled ih

/-- Attaching to a file of full size compares, sets up, or gives up, just as the setup flag says.
In every run from files where nobody was let in yet, a region that somebody has attached keeps its
version and its limits from then on, and all that were ever let in agree with it, and so with one
another. -/
theorem attached_agree :
    (∀ (host : Machine) (settings : Settings) (pid : Pid) (liveness : Liveness) (node : NodeId),
      settings.validate = .ok () → host.files.create settings.path = .ok (node, host.files) →
        Layout.size ≤ (host.files.node node).length →
          host.Attaching settings pid node (Machine.attach settings pid liveness host)) ∧
    ∀ d₀ d d' : Deployment, d₀.Start → Relation.ReflTransGen Step d₀ d →
      Relation.ReflTransGen Step d d' → ∀ a ∈ d.attached,
        (d'.host.region a.node).terms = (d.host.region a.node).terms ∧
          (d'.host.region a.node).Agrees a.settings ∧
            ∀ b ∈ d'.attached, b.node = a.node →
              b.settings.memoryLimits = a.settings.memoryLimits ∧
                b.settings.computeLimits = a.settings.computeLimits := by
  refine ⟨fun host settings pid liveness node => Machine.attaching pid liveness, ?_⟩
  intro d₀ d d' hstart hrun hlater a ha
  have hsettled := hstart.settled.of_run hrun
  have hbefore := hsettled.agrees a ha
  have hafter := (upholds_of_run hlater).agrees a.node a.settings hbefore
  refine ⟨?_, hafter, fun b hb hnode => ?_⟩
  · -- The settings that the region agrees with leave one choice of version and limits.
    rw [hafter.terms_eq, hbefore.terms_eq]
  · have hother := (hsettled.of_run hlater).agrees b hb
    rw [hnode] at hother
    exact ⟨hother.memoryLimits_eq.symm.trans hafter.memoryLimits_eq,
      hother.computeLimits_eq.symm.trans hafter.computeLimits_eq⟩

/-! ## Three processes -/

/-- A host with one file, which is as long as a region and filled with zeros. -/
def zeroFile (name : String) : Machine where
  files := { nodes := #[{ length := Layout.size }], entries := [([name], .file 0)] }
  clock := 0

/-- The settings of a region that several processes share. -/
def common : Settings := { path := "r" }

/-- A host without files. -/
def bare : Machine := { clock := 0 }

/-- A process attaches to a file that is not there yet. -/
def founded : Except RegionError Attachment × Machine := Machine.attach common 7 .everyone bare

/-- That process at work on the region. -/
def founder : Worker SimulatedDevice SimulatedHost where
  seat := { region := founded.2.region 0 }
  holdings := {}
  limiter := .startingAt 0
  watcher := { map := .identity 1, attempts := 1 }
  driver := {}
  host := { deviceCount := 1 }

/-- It has registered. -/
def registered : Machine :=
  founded.2.store 0 (Work.registerSelf.run ⟨7, common, fun _ => true⟩ founder).seat.region

/-- Another process attaches with the same settings. -/
def joined : Except RegionError Attachment × Machine := Machine.attach common 8 .everyone registered

/-- A third process attaches with another limit. -/
def refused : Except RegionError Attachment × Machine :=
  Machine.attach (common.withMemoryLimit 0 4096) 9 .everyone joined.2

/-- A process is let in at a file of zeros. Where there is no file yet, a process attaches and
registers; then a second one with the same settings is let in, and a third one with another limit
is refused and changes no byte. The terms of the region stay those of the first one. -/
theorem attached_agree_of_members :
    (Machine.attach common 7 .everyone (zeroFile "r")).1.isOk ∧
      ((registered.region 0).slotAt ⟨0, by decide⟩).pid = 7 ∧
      ∃ a b : Attachment, founded.1 = .ok a ∧ joined.1 = .ok b ∧ ¬ refused.1.isOk ∧
        (refused.2.files.node 0).allBytes = (joined.2.files.node 0).allBytes ∧
        (refused.2.region 0).terms = (founded.2.region 0).terms ∧
        b.settings.memoryLimits = a.settings.memoryLimits ∧
        b.settings.computeLimits = a.settings.computeLimits := by
  have hvalid : common.validate = .ok () := by decide +kernel
  have hzeros : (zeroFile "r").files.create "r" = .ok (0, (zeroFile "r").files) := by rfl
  have hzero := attached_agree.1 (zeroFile "r") common 7 .everyone 0 hvalid hzeros le_rfl
  refine ⟨(hzero.zero (by decide +kernel)).1, by decide +kernel, ?_⟩
  -- Whoever is let in works on the only file that there is.
  have hfile : founded.1.map (·.node) = .ok 0 := by decide +kernel
  have hlimit : founded.1.map (·.settings.memoryLimits.get governedDevice) = .ok 0 := by
    decide +kernel
  have hfile' : joined.1.map (·.node) = .ok 0 := by decide +kernel
  have hsize : Layout.size ≤ (joined.2.files.node 0).length := by decide +kernel
  have hcreate : joined.2.files.create "r" = .ok (0, joined.2.files) :=
    Files.create_eq_of_lt (by decide +kernel)
      (Files.lt_size_of_length (Nat.lt_of_lt_of_le (by decide) hsize))
  obtain ⟨a, ha, hnode⟩ := Run.map_eq_ok.1 hfile
  obtain ⟨b, hb, hnode'⟩ := Run.map_eq_ok.1 hfile'
  rw [ha] at hlimit
  have hunlimited : a.settings.memoryLimits.get governedDevice = 0 := Except.ok.inj hlimit
  -- The run that the four operations make.
  let attached := founded.1.toOption.toList ++ []
  let attached' := joined.1.toOption.toList ++ attached
  have hstart : Start ⟨bare, []⟩ := ⟨Files.sound_empty, rfl⟩
  have hfounded : Step ⟨bare, []⟩ ⟨founded.2, attached⟩ := .attach bare [] common 7 .everyone
  have hregistered : Step ⟨founded.2, attached⟩ ⟨registered, attached⟩ :=
    .work founded.2 attached 0 ⟨7, common, fun _ => true⟩ .registerSelf founder rfl
  have hjoined : Step ⟨registered, attached⟩ ⟨joined.2, attached'⟩ :=
    .attach registered attached common 8 .everyone
  have hrefused : Step ⟨joined.2, attached'⟩ ⟨refused.2, refused.1.toOption.toList ++ attached'⟩ :=
    .attach joined.2 attached' (common.withMemoryLimit 0 4096) 9 .everyone
  have hsofar : Relation.ReflTransGen Step ⟨founded.2, attached⟩ ⟨joined.2, attached'⟩ :=
    (Relation.ReflTransGen.single hregistered).tail hjoined
  have hfirst : a ∈ attached := by simp [attached, ha, Except.toOption]
  have hsecond : b ∈ attached' := by simp [attached', hb, Except.toOption]
  have hin := attached_agree.2 _ _ _ hstart (.single hfounded) hsofar a hfirst
  have hall := attached_agree.2 _ _ _ hstart (.single hfounded) (hsofar.tail hrefused) a hfirst
  rw [hnode] at hin hall
  obtain ⟨-, hagrees, -⟩ := hin
  obtain ⟨hterms, -, hothers⟩ := hall
  obtain ⟨hmemory, hcompute⟩ := hothers b (List.mem_append_right _ hsecond) hnode'
  -- The third one compares its limits with those that the first one has set.
  have hthird := attached_agree.1 joined.2 (common.withMemoryLimit 0 4096) 9 .everyone 0
    (by decide +kernel) hcreate hsize
  obtain ⟨hbytes, -, hlet⟩ := hthird.complete hagrees.complete
  refine ⟨a, b, ha, hb, fun hjoin => ?_, hbytes, hterms, hmemory, hcompute⟩
  have hdiffers := ((hlet.1 hjoin).2 governedDevice).1
  rw [(hagrees.limits governedDevice).1, hunlimited] at hdiffers
  exact absurd hdiffers (by decide +kernel)

end Deployment

end GpuQuota
