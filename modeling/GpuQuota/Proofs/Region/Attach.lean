import GpuQuota.Host.Machine
import GpuQuota.Proofs.Region.Layout
import GpuQuota.Proofs.Run
import Mathlib.Data.List.FinRange

/-!
# Attaching to a region

Attaching reads the setup flag. A region that was set up is compared with the settings and left as
it is; a region of zeros is set up; a region that somebody else seems to set up is given up. This
module says what comes of it, first for a region, then for the file that it lies in.

The module introduces:

* `Region.Current`, `Region.AgreesOn`, `Region.Agrees` — a region that a member with some settings
  may join; `Region.Fresh` — one that was just set up for them.
* `Region.Verdict` — what the comparison with settings says; `Region.verdict_check`.
* `Files.node_create`, `Files.node_modifyNode` — the contents of files after a change of one.
* `Machine.attach_eq_error_or`, `Machine.attach_apply` — attaching where the file cannot be opened,
  and where it can.
* `Machine.Attaching` — what attaching to a file of full size comes to; `Machine.attaching`.
-/

namespace GpuQuota

namespace Region

/-! ## Comparing -/

/-- The region has the version of this library. -/
def Current (r : Region) : Prop := r.major = layoutMajor ∧ r.minor = layoutMinor

/-- The limits of a device are those of the settings. -/
def AgreesOn (r : Region) (s : Settings) (d : DeviceIndex) : Prop :=
  r.memoryLimits.get d = s.memoryLimits.get d ∧ r.computeLimits.get d = s.computeLimits.get d

/-- What comparing a region with settings says: the version first, then the limits in device order,
memory before compute. -/
inductive Verdict (r : Region) (s : Settings) : Except RegionError Unit → Prop
  | agrees (hversion : r.Current) (hlimits : ∀ d, r.AgreesOn s d) : Verdict r s (.ok ())
  | version (hversion : ¬ r.Current) : Verdict r s (.error (.versionMismatch r.major r.minor))
  | memory (d : DeviceIndex) (hversion : r.Current) (hbefore : ∀ e < d, r.AgreesOn s e)
    (hmemory : r.memoryLimits.get d ≠ s.memoryLimits.get d) :
    Verdict r s (.error (.limitMismatch d .memory (r.memoryLimits.get d) (s.memoryLimits.get d)))
  | compute (d : DeviceIndex) (hversion : r.Current) (hbefore : ∀ e < d, r.AgreesOn s e)
    (hmemory : r.memoryLimits.get d = s.memoryLimits.get d)
    (hcompute : r.computeLimits.get d ≠ s.computeLimits.get d) :
    Verdict r s
      (.error (.limitMismatch d .compute (r.computeLimits.get d) (s.computeLimits.get d)))

variable {r : Region} {s : Settings}

/-- A device shows no fault exactly if both of its limits agree. -/
theorem limitMismatch?_eq_none_iff {d : DeviceIndex} :
    r.limitMismatch? s d = none ↔ r.AgreesOn s d := by
  unfold limitMismatch? AgreesOn
  split
  next hmemory => simp [hmemory]
  next hmemory => split <;> simp_all

/-- The version of this library passes. -/
theorem checkVersion_of_current (h : r.Current) : r.checkVersion = .ok () := if_pos h

/-- Any other version is refused, and named. -/
theorem checkVersion_of_not_current (h : ¬ r.Current) :
    r.checkVersion = .error (.versionMismatch r.major r.minor) := if_neg h

/-- The first fault in a table is the fault of some place, and no place before has one. -/
theorem exists_first_of_findSome? {n : Nat} {α : Type} {f : Fin n → Option α} {a : α}
    (h : (List.finRange n).findSome? f = some a) : ∃ i, f i = some a ∧ ∀ j < i, f j = none := by
  obtain ⟨before, i, after, hlist, hi, hnone⟩ := List.findSome?_eq_some_iff.1 h
  have hsorted : (before ++ i :: after).Pairwise (· < ·) := hlist ▸ List.pairwise_lt_finRange n
  refine ⟨i, hi, fun j hj => ?_⟩
  -- A smaller index cannot stand at `i` or behind it in the sorted list.
  have hmem : j ∈ before ++ i :: after := hlist ▸ List.mem_finRange j
  rcases List.mem_append.1 hmem with hbefore | hbehind
  · exact hnone j hbefore
  · rcases List.mem_cons.1 hbehind with rfl | hafter
    · exact absurd hj (lt_irrefl j)
    · have := List.rel_of_pairwise_cons (List.pairwise_append.1 hsorted).2.1 hafter
      exact absurd hj this.asymm

/-- The comparison ends at the first fault in the order of the verdicts. -/
theorem verdict_check (r : Region) (s : Settings) : r.Verdict s (r.check s) := by
  unfold check
  -- The version is checked first, then the devices in order, and on each the memory first.
  by_cases hversion : r.Current
  · rw [checkVersion_of_current hversion]
    cases hfind : (List.finRange maxDevices).findSome? (r.limitMismatch? s) with
    | none =>
      refine .agrees hversion fun d => limitMismatch?_eq_none_iff.1 ?_
      exact List.findSome?_eq_none_iff.1 hfind d (List.mem_finRange d)
    | some e =>
      obtain ⟨d, hfault, hnone⟩ := exists_first_of_findSome? hfind
      have hbefore : ∀ e < d, r.AgreesOn s e :=
        fun e he => limitMismatch?_eq_none_iff.1 (hnone e he)
      unfold limitMismatch? at hfault
      split at hfault
      next hmemory =>
        cases hfault
        exact .memory d hversion hbefore hmemory
      next hmemory =>
        split at hfault
        next hcompute =>
          cases hfault
          exact .compute d hversion hbefore (not_not.1 hmemory) hcompute
        next => cases hfault
  · rw [checkVersion_of_not_current hversion]
    exact .version hversion

/-- The only verdict without a fault is that version and all limits agree. -/
theorem Verdict.eq_ok_iff {x : Except RegionError Unit} (h : r.Verdict s x) :
    x = .ok () ↔ r.Current ∧ ∀ d, r.AgreesOn s d := by
  cases h with
  | agrees hversion hlimits => exact iff_of_true rfl ⟨hversion, hlimits⟩
  | version hversion => exact iff_of_false nofun fun h => hversion h.1
  | memory d _ _ hmemory => exact iff_of_false nofun fun h => hmemory (h.2 d).1
  | compute d _ _ _ hcompute => exact iff_of_false nofun fun h => hcompute (h.2 d).2

/-! ## Joining -/

/-- A region that was set up, and that a member with the settings may join. -/
structure Agrees (r : Region) (s : Settings) : Prop where
  complete : r.flag = completeFlag
  current : r.Current
  limits : ∀ d, r.AgreesOn s d

/-- Agreement on each device is agreement on the whole table of memory limits. -/
theorem Agrees.memoryLimits_eq (h : r.Agrees s) : r.memoryLimits = s.memoryLimits :=
  Vector.ext fun i hi => (h.limits ⟨i, hi⟩).1

/-- So it is for the table of compute limits. -/
theorem Agrees.computeLimits_eq (h : r.Agrees s) : r.computeLimits = s.computeLimits :=
  Vector.ext fun i hi => (h.limits ⟨i, hi⟩).2

/-- A region that was set up for the settings just now. -/
structure Fresh (r : Region) (s : Settings) : Prop extends r.Agrees s where
  procNum_eq : r.procNum = 0
  highWater_eq : r.highWater = 0
  owner_eq : r.lock.owner = 0

/-- Setting a region up makes it fresh for the settings, whatever was in it. -/
theorem fresh_setUp (r : Region) (s : Settings) (now : UInt64) : (r.setUp s now).Fresh s where
  complete := rfl
  current := ⟨rfl, rfl⟩
  limits _ := ⟨rfl, rfl⟩
  procNum_eq := rfl
  highWater_eq := rfl
  owner_eq := rfl

/-- What a region was set up with fits into the words of its file. -/
theorem Fresh.wrapped (h : r.Fresh s) : r.wrapped.Fresh s where
  complete := (congrArg wrap32 h.complete).trans (by decide)
  current :=
    ⟨(congrArg (· % 0x100000000) h.current.1).trans (by decide),
      (congrArg (· % 0x100000000) h.current.2).trans (by decide)⟩
  limits := h.limits
  procNum_eq := (congrArg wrap32 h.procNum_eq).trans (by decide)
  highWater_eq := (congrArg wrap32 h.highWater_eq).trans (by decide)
  owner_eq := (congrArg wrap32 h.owner_eq).trans (by decide)

/-- A region that was set up is only compared. -/
theorem attach_of_complete (hflag : r.flag = completeFlag) (now : UInt64) :
    r.attach s now = (r.check s, r) := if_pos hflag

/-- A region that nobody has set up is set up, and then passes the comparison. -/
theorem attach_of_zero (hflag : r.flag = 0) (now : UInt64) :
    r.attach s now = (.ok (), r.setUp s now) := by
  have hagrees := (r.fresh_setUp s now).toAgrees
  have hcheck : (r.setUp s now).check s = .ok () :=
    (verdict_check _ s).eq_ok_iff.2 ⟨hagrees.current, hagrees.limits⟩
  unfold attach
  rw [if_neg (by rw [hflag]; decide), if_pos hflag]
  dsimp only
  rw [hcheck]

/-- Any other flag is taken for a setup under way that does not come to its end. -/
theorem attach_of_other (hcomplete : r.flag ≠ completeFlag) (hzero : r.flag ≠ 0) (now : UInt64) :
    r.attach s now = (.error (.setupTimeout r.flag), r) := by
  rw [attach, if_neg hcomplete, if_neg hzero]

/-- Whoever is let in finds a region that agrees with its settings. -/
theorem agrees_of_attach {now : UInt64} (h : (r.attach s now).1 = .ok ()) :
    (r.attach s now).2.Agrees s := by
  -- A complete region agrees after the check, a new one because it was set up so.
  by_cases hcomplete : r.flag = completeFlag
  · rw [attach_of_complete hcomplete] at h ⊢
    obtain ⟨hversion, hlimits⟩ := (verdict_check r s).eq_ok_iff.1 h
    exact ⟨hcomplete, hversion, hlimits⟩
  · by_cases hzero : r.flag = 0
    · rw [attach_of_zero hzero]
      exact (r.fresh_setUp s now).toAgrees
    · rw [attach_of_other hcomplete hzero] at h
      cases h

end Region

/-! ## Files -/

namespace Files

variable {fs fs' : Files} {id : NodeId}

/-- A change of one file leaves the others alone. -/
theorem node_modifyNode (fs : Files) (id : NodeId) (f : FileNode → FileNode) (j : NodeId) :
    (fs.modifyNode id f).node j =
      if id = j ∧ j < fs.nodes.size then f (fs.node j) else fs.node j := by
  show (fs.nodes.modify id f)[j]?.getD {} = _
  rw [Array.getElem?_modify, node]
  by_cases hid : id = j
  · rw [if_pos hid]
    -- A node that does not exist stays the empty one.
    by_cases hj : j < fs.nodes.size
    · rw [if_pos ⟨hid, hj⟩, Array.getElem?_eq_getElem hj]
      rfl
    · rw [if_neg fun h => hj h.2, Array.getElem?_eq_none (not_lt.1 hj)]
      rfl
  · rw [if_neg hid, if_neg fun h => hid h.1]

/-- A change of a file adds none. -/
theorem size_modifyNode (fs : Files) (id : NodeId) (f : FileNode → FileNode) :
    (fs.modifyNode id f).nodes.size = fs.nodes.size := Array.size_modify

/-- Nothing lies beyond the files that there are. -/
theorem lt_size_of_length {j : NodeId} (h : 0 < (fs.node j).length) : j < fs.nodes.size := by
  by_contra hj
  rw [node, Array.getElem?_eq_none (not_lt.1 hj)] at h
  exact absurd h (lt_irrefl 0)

/-- What creating a file does: it finds the file, or it adds an empty one. -/
theorem create_cases {text : String} (h : fs.create text = .ok (id, fs')) :
    (∃ path, fs.find? path = some (.file id)) ∧ fs' = fs ∨
      ∃ path, id = fs.nodes.size ∧
        fs' = { nodes := fs.nodes.push {}, entries := (path, .file id) :: fs.entries } := by
  obtain ⟨path, -, h⟩ := Run.bind_eq_ok.1 h
  -- The path leads to something else, to a file, or nowhere.
  split at h
  next => cases h
  next hfind =>
    cases h
    exact .inl ⟨⟨path, hfind⟩, rfl⟩
  next =>
    cases h
    exact .inr ⟨path, rfl, rfl⟩

/-- Creating a file takes none away. -/
theorem size_le_create {text : String} (h : fs.create text = .ok (id, fs')) :
    fs.nodes.size ≤ fs'.nodes.size := by
  rcases create_cases h with ⟨-, rfl⟩ | ⟨path, rfl, rfl⟩
  · exact le_rfl
  · exact (Nat.le_succ _).trans (Array.size_push _).ge

/-- A new file is as empty as what was there before it. -/
theorem node_create {text : String} (h : fs.create text = .ok (id, fs')) (j : NodeId) :
    fs'.node j = fs.node j := by
  rcases create_cases h with ⟨-, rfl⟩ | ⟨path, rfl, rfl⟩
  · rfl
  · show (fs.nodes.push {})[j]?.getD {} = fs.nodes[j]?.getD {}
    rw [Array.getElem?_push]
    split
    next hj => rw [hj, Array.getElem?_eq_none le_rfl]; rfl
    next => rfl

end Files

/-- A file that is long enough is not extended. -/
theorem FileNode.extended_of_size_le {n : FileNode} (h : Layout.size ≤ n.length) :
    n.extended = n := by
  rw [extended, max_eq_left h]

/-! ## Hosts -/

namespace Machine

variable {host : Machine} {settings : Settings} {node : NodeId} {files : Files} (pid : Pid)
  (liveness : Liveness)

/-- What is stored in a file is the region of that file, and of no other. -/
theorem region_store (host : Machine) (node : NodeId) (r : Region) (j : NodeId) :
    (host.store node r).region j =
      if node = j ∧ j < host.files.nodes.size then r else host.region j := by
  show ((host.files.modifyNode node (·.store r)).node j).region = _
  rw [Files.node_modifyNode]
  split <;> rfl

/-- To attach, a file is created and extended as needed. -/
theorem openRegion_create (path : String) (host : Machine) :
    openRegion path true host =
      match host.files.create path with
      | .error cause => (.error (.openFailed path cause), host)
      | .ok (node, files) =>
        (.ok node, { host with files := files.modifyNode node (·.extended) }) := by
  show (match host.files.create path with
    | .error cause => (throw (RegionError.openFailed path cause) : Op NodeId)
    | .ok (node, files) => _) host = _
  cases host.files.create path <;> rfl

/-- To look at a region, nothing is changed. -/
theorem snd_openRegion_look (path : String) (host : Machine) :
    (openRegion path false host).2 = host := by
  -- Without the wish to create it the file is only looked up.
  show ((match (host.files.file? path).map (·, host.files) with
    | .error cause => (throw (RegionError.openFailed path cause) : Op NodeId)
    | .ok (node, files) =>
      if (files.node node).length < Layout.size then throw (RegionError.notSetUp 0)
      else pure node) host).2 = host
  cases host.files.file? path with
  | error cause => rfl
  | ok node =>
    show ((if _ then throw (RegionError.notSetUp 0) else pure node : Op NodeId) host).2 = host
    split <;> rfl

/-- Looking at a region changes no file. -/
theorem keeps_files_inspect (path : String) (pid : Pid) (files : Files) :
    Keeps (fun host => host.files = files) (Machine.inspect path pid) := by
  refine Keeps.bind_except (fun host h => ?_) fun node => ?_
  · rw [snd_openRegion_look]
    exact h
  · refine Keeps.bind_except keeps_get.lift fun host => ?_
    split
    next => exact keeps_throw _
    next => exact fun _ h => h

/-- Who has faulty settings, or cannot open the file, is refused and changes nothing. -/
theorem attach_eq_error_or (settings : Settings) (host : Machine) :
    (∃ e, Machine.attach settings pid liveness host = (.error e, host)) ∨
      settings.validate = .ok () ∧
        ∃ node files, host.files.create settings.path = .ok (node, files) := by
  rw [attach]
  cases hvalid : settings.validate with
  | error e => exact .inl ⟨.config e, rfl⟩
  | ok _ =>
    dsimp only
    rw [Run.bind_apply, openRegion_create]
    cases hcreate : host.files.create settings.path with
    | error cause => exact .inl ⟨.openFailed settings.path cause, rfl⟩
    | ok opened => exact .inr ⟨rfl, opened.1, opened.2, rfl⟩

/-- Attaching opens the file, attaches to the region in it, and makes a mapping for whoever is let
in. -/
theorem attach_apply (hvalid : settings.validate = .ok ())
    (hcreate : host.files.create settings.path = .ok (node, files)) :
    Machine.attach settings pid liveness host =
      let opened := { host with files := files.modifyNode node (·.extended) }
      let attempt := (opened.region node).attach settings host.clock
      match attempt.1 with
      | .error e => (.error e, opened.store node attempt.2)
      | .ok () =>
        (.ok { mapping := host.nextMapping, node, pid, settings, liveness },
          { opened.store node attempt.2 with nextMapping := host.nextMapping + 1 }) := by
  rw [attach, hvalid]
  dsimp only
  rw [Run.bind_apply, openRegion_create, hcreate]
  -- The steps are those of a program with refusals; they are turned into a match on the answer.
  show (match (Region.attach _ _ _).1 with
    | .error e => (throw e : Op Attachment)
    | .ok () => newMapping _ _ _ _) _ = _
  dsimp only
  split
  next h => rw [h]; rfl
  next h => rw [h]; rfl

/-- Opening a file leaves the region in it as it is. -/
theorem region_opened (hcreate : host.files.create settings.path = .ok (node, files)) (j : NodeId) :
    { host with files := files.modifyNode node (·.extended) }.region j = host.region j := by
  show ((files.modifyNode node (·.extended)).node j).region = (host.files.node j).region
  rw [Files.node_modifyNode, Files.node_create hcreate]
  split <;> rfl

/-- What a process is answered depends on the region in the file alone. -/
theorem result_attach (hvalid : settings.validate = .ok ())
    (hcreate : host.files.create settings.path = .ok (node, files)) :
    (Machine.attach settings pid liveness host).1 =
      ((host.region node).attach settings host.clock).1.map fun _ =>
        { mapping := host.nextMapping, node, pid, settings, liveness } := by
  rw [attach_apply pid liveness hvalid hcreate]
  dsimp only
  rw [region_opened hcreate]
  split
  next h => rw [h]; rfl
  next h => rw [h]; rfl

/-- Attaching extends the file and stores the region in it, even if it is then refused. -/
theorem files_attach (hvalid : settings.validate = .ok ())
    (hcreate : host.files.create settings.path = .ok (node, files)) :
    (Machine.attach settings pid liveness host).2.files =
      (files.modifyNode node (·.extended)).modifyNode node
        (·.store ((host.region node).attach settings host.clock).2) := by
  rw [attach_apply pid liveness hvalid hcreate]
  dsimp only
  rw [region_opened hcreate]
  split <;> rfl

/-- The file that was opened holds the region after the attempt; other files stay as they are. -/
theorem node_attach (hvalid : settings.validate = .ok ())
    (hcreate : host.files.create settings.path = .ok (node, files)) (j : NodeId) :
    (Machine.attach settings pid liveness host).2.files.node j =
      if node = j ∧ j < files.nodes.size then
        (host.files.node j).extended.store ((host.region node).attach settings host.clock).2
      else host.files.node j := by
  rw [files_attach pid liveness hvalid hcreate, Files.node_modifyNode, Files.size_modifyNode,
    Files.node_modifyNode, Files.node_create hcreate]
  split <;> rfl

/-- The file that was opened holds the region after the attempt; other regions stay. -/
theorem region_attach (hvalid : settings.validate = .ok ())
    (hcreate : host.files.create settings.path = .ok (node, files)) (j : NodeId) :
    (Machine.attach settings pid liveness host).2.region j =
      if node = j ∧ j < files.nodes.size then
        ((host.region node).attach settings host.clock).2
      else host.region j := by
  rw [region, node_attach pid liveness hvalid hcreate]
  split <;> rfl

/-- Whoever is let in passed the comparison and has the file attached with its own settings. -/
theorem eq_of_attach (hvalid : settings.validate = .ok ())
    (hcreate : host.files.create settings.path = .ok (node, files)) {a : Attachment}
    (h : (Machine.attach settings pid liveness host).1 = .ok a) :
    ((host.region node).attach settings host.clock).1 = .ok () ∧
      a = { mapping := host.nextMapping, node, pid, settings, liveness } := by
  rw [result_attach pid liveness hvalid hcreate] at h
  cases houtcome : ((host.region node).attach settings host.clock).1 with
  | error e =>
    rw [houtcome] at h
    cases h
  | ok _ =>
    rw [houtcome] at h
    exact ⟨rfl, (Except.ok.inj h).symm⟩

/-- A region that stays as it is changes no byte, if the file has its full size. -/
theorem allBytes_attach (hvalid : settings.validate = .ok ())
    (hcreate : host.files.create settings.path = .ok (node, files))
    (hsize : Layout.size ≤ (host.files.node node).length)
    (hsame : ((host.region node).attach settings host.clock).2 = host.region node) :
    ((Machine.attach settings pid liveness host).2.files.node node).allBytes =
      (host.files.node node).allBytes := by
  rw [node_attach pid liveness hvalid hcreate]
  -- The file is long enough and the region in it unchanged, so the same bytes are stored back.
  split
  next =>
    rw [FileNode.extended_of_size_le hsize, hsame]
    exact FileNode.allBytes_store_region _
  next => rfl

/-- What attaching to a file of full size comes to. -/
structure Attaching (host : Machine) (settings : Settings) (pid : Pid) (node : NodeId)
    (result : Except RegionError Attachment × Machine) : Prop where
  /-- A region that was set up is compared with the settings; no byte of its file changes. -/
  complete : (host.region node).flag = completeFlag →
    (result.2.files.node node).allBytes = (host.files.node node).allBytes ∧
      (host.region node).Verdict settings (result.1.map fun _ => ()) ∧
        (result.1.isOk ↔
          (host.region node).Current ∧ ∀ d, (host.region node).AgreesOn settings d)
  /-- A region that nobody has set up is set up, in the bytes of its file as well, and the process
  is let in. -/
  zero : (host.region node).flag = 0 →
    result.1.isOk ∧ (result.2.region node).Fresh settings ∧
      (Region.ofBytes (result.2.files.node node).allBytes).Fresh settings
  /-- A region that seems to be set up by somebody else is given up; no byte of its file changes. -/
  other : (host.region node).flag ≠ completeFlag → (host.region node).flag ≠ 0 →
    result.1 = .error (.setupTimeout (host.region node).flag) ∧
      (result.2.files.node node).allBytes = (host.files.node node).allBytes
  /-- Whoever is let in has this file attached, with these settings. -/
  joined : ∀ a, result.1 = .ok a → a.node = node ∧ a.settings = settings ∧ a.pid = pid
  /-- Other files stay as they are. -/
  elsewhere : ∀ j, j ≠ node → result.2.files.node j = host.files.node j

/-- Attaching to a file of full size does all that is said of it. -/
theorem attaching (hvalid : settings.validate = .ok ())
    (hcreate : host.files.create settings.path = .ok (node, host.files))
    (hsize : Layout.size ≤ (host.files.node node).length) :
    Attaching host settings pid node (Machine.attach settings pid liveness host) := by
  have hlt : node < host.files.nodes.size :=
    Files.lt_size_of_length (Nat.lt_of_lt_of_le (by decide) hsize)
  have hresult := result_attach pid liveness hvalid hcreate
  have hregion := region_attach pid liveness hvalid hcreate node
  have hnode := node_attach pid liveness hvalid hcreate node
  have hbytes := allBytes_attach pid liveness hvalid hcreate hsize
  rw [if_pos ⟨rfl, hlt⟩] at hregion hnode
  refine ⟨fun hflag => ?_, fun hflag => ?_, fun hcomplete hzero => ?_, fun a ha => ?_,
    fun j hj => ?_⟩
  · have hverdict := (host.region node).verdict_check settings
    rw [Region.attach_of_complete hflag] at hresult hbytes
    dsimp only at hresult
    -- The process is let in just if the comparison finds no fault.
    cases hcheck : (host.region node).check settings with
    | ok _ =>
      rw [hcheck] at hresult hverdict
      rw [hresult]
      exact ⟨hbytes rfl, hverdict, iff_of_true rfl (hverdict.eq_ok_iff.1 rfl)⟩
    | error e =>
      rw [hcheck] at hresult hverdict
      rw [hresult]
      exact ⟨hbytes rfl, hverdict, iff_of_false nofun fun h => nomatch hverdict.eq_ok_iff.2 h⟩
  · rw [Region.attach_of_zero hflag] at hresult hregion hnode
    have hfresh := (host.region node).fresh_setUp settings host.clock
    refine ⟨hresult ▸ rfl, hregion ▸ hfresh, ?_⟩
    rw [hnode, FileNode.extended_of_size_le hsize, FileNode.ofBytes_allBytes_store hsize]
    exact hfresh.wrapped
  · rw [Region.attach_of_other hcomplete hzero] at hresult hbytes
    exact ⟨hresult, hbytes rfl⟩
  · rw [(eq_of_attach pid liveness hvalid hcreate ha).2]
    exact ⟨rfl, rfl, rfl⟩
  · rw [node_attach pid liveness hvalid hcreate, if_neg fun h => hj h.1.symm]

end Machine

end GpuQuota
