import GpuQuota.Proofs.Host.Tables
import GpuQuota.Proofs.Work
import GpuQuota.Workload

/-!
# What a process does to the slots of others

A process works through its context: one that it made itself, or one that it inherited from the
process that forked it. Whichever it is, making it, allocating through it, and leaving with it keep
all other processes that are alive where they are. Only a process that made its context itself has a
slot to give back, and that slot is all that it gives back.

The module introduces:

* `Machine.slotsOf` — the slots of a process, in all files of a host.
* `Machine.Spares`, `Machine.SparesAll` — all processes but one, or all, are left in place.
* `Workload.mapped?` — what a process has mapped to work through.
* `AllocCall.ask` — an allocation through a context.
* `Workload.Entered`, `Workload.entered_of_ensure` — a context is made.
* `Workload.sparesAll_act`, `Workload.spares_leave` — it is used, and its process leaves.
* `Workload.slotAt_leave` — the slots after a process has left in good order.
-/

namespace GpuQuota

/-! ## The processes of a host -/

namespace Machine

/-- The slots of a process in all files of a host, each with its file. -/
def slotsOf (host : Machine) (pid : Pid) : Set (NodeId × Fin maxProcesses) :=
  {x | ((host.region x.1).slotAt x.2).pid = pid}

variable {host host' : Machine} {safe new safe' new' : Pid → Prop} {pid q : Pid}

/-- Which slots a process has is a matter of the files alone. -/
theorem slotsOf_congr (h : host'.files = host.files) (pid : Pid) :
    host'.slotsOf pid = host.slotsOf pid := by
  ext x
  show ((host'.region x.1).slotAt x.2).pid = pid ↔ _
  rw [region_congr h]
  exact .rfl

namespace Handover

/-- Fewer processes may be called safe, and more may be called new. -/
theorem mono (h : host.Handover safe new host') (hsafe : ∀ q, safe' q → safe q)
    (hnew : ∀ q, new q → new' q) : host.Handover safe' new' host' := by
  intro node
  refine ⟨fun i hi => (h node).kept i (hsafe _ hi), fun i => ?_⟩
  exact ((h node).gained i).imp_right (.imp_right (hnew _))

/-- Whoever gains no slot has at most the slots that it had. -/
theorem slotsOf_subset (h : host.Handover safe new host') (hpid : pid ≠ 0) (hnew : ¬ new pid) :
    host'.slotsOf pid ⊆ host.slotsOf pid := by
  rintro ⟨node, i⟩ rfl
  rcases (h node).gained i with hsame | hfree | hgained
  · exact hsame.symm
  · exact absurd hfree hpid
  · exact absurd hgained hnew

/-- Whoever also keeps its slots has the slots that it had. -/
theorem slotsOf_eq (h : host.Handover safe new host') (hpid : pid ≠ 0) (hsafe : safe pid)
    (hnew : ¬ new pid) : host'.slotsOf pid = host.slotsOf pid := by
  apply (h.slotsOf_subset hpid hnew).antisymm
  rintro ⟨node, i⟩ rfl
  exact (h node).kept i hsafe

end Handover

/-- A process is alive if it is one of those that run and has not ended. -/
theorem alive_actual_iff : host.alive .actual pid ↔
    0 < pid ∧ (pid = firstPid ∨ ∃ r ∈ host.running, r.pid = pid) ∧
      ∀ r ∈ host.running, r.pid = pid → r.defunct = false := by
  simp [alive, hasProcess, isDefunct, and_assoc]

/-- Nobody alive has the identifier zero. -/
theorem ne_zero_of_alive (h : host.alive .actual pid) : pid ≠ 0 := (alive_actual_iff.1 h).1.ne'

/-- Who is alive is a matter of the processes alone. -/
theorem alive_congr (h : host'.running = host.running) :
    host'.alive .actual pid = host.alive .actual pid := by
  rw [alive, alive, hasProcess, hasProcess, isDefunct, isDefunct, h]

/-- Installing handlers neither starts nor ends a process. -/
theorem alive_install (q : Pid) (a : Attachment) (slot : Nat) :
    (host.install q a slot).alive .actual pid ↔ host.alive .actual pid := by
  -- Installing handlers changes neither the identifier of a process nor that it runs.
  have hpid : ∀ (r : RunningProcess) target,
      (if r.pid = q then { r with target } else r).pid = r.pid := by
    intro r target
    split <;> rfl
  have hdefunct : ∀ (r : RunningProcess) target,
      (if r.pid = q then { r with target } else r).defunct = r.defunct := by
    intro r target
    split <;> rfl
  simp [alive_actual_iff, install, modifyRunning, hpid, hdefunct]

/-- Whoever is alive outlives the start of another process. -/
theorem alive_start {target : Option StatusTarget} (h : host.alive .actual pid) :
    (host.start target).2.alive .actual pid := by
  obtain ⟨hpos, hrunning, hdefunct⟩ := alive_actual_iff.1 h
  refine alive_actual_iff.2 ⟨hpos, hrunning.imp_right ?_, fun r hr hpid => ?_⟩
  · rintro ⟨r, hr, hpid⟩
    exact ⟨r, List.mem_cons_of_mem _ hr, hpid⟩
  · rcases List.mem_cons.1 hr with rfl | hr
    · rfl
    · exact hdefunct r hr hpid

/-- A new process is alive if nobody runs under its identifier. -/
theorem alive_start_self {target : Option StatusTarget} (hpos : 0 < host.nextPid)
    (hfresh : ∀ r ∈ host.running, r.pid ≠ host.nextPid) :
    (host.start target).2.alive .actual host.nextPid := by
  refine alive_actual_iff.2 ⟨hpos, .inr ⟨_, List.mem_cons_self, rfl⟩, fun r hr hpid => ?_⟩
  rcases List.mem_cons.1 hr with rfl | hr
  · rfl
  · exact absurd hpid (hfresh r hr)

/-- Whoever is alive outlives the end of another process. -/
theorem alive_stop (h : host.alive .actual pid) (hne : pid ≠ q) :
    (host.stop q).alive .actual pid := by
  obtain ⟨hpos, hrunning, hdefunct⟩ := alive_actual_iff.1 h
  refine alive_actual_iff.2 ⟨hpos, hrunning.imp_right ?_, fun r hr hpid => ?_⟩
  · rintro ⟨r, hr, rfl⟩
    exact ⟨r, List.mem_filter.2 ⟨hr, by simpa using hne⟩, rfl⟩
  · exact hdefunct r (List.mem_filter.1 hr).1 hpid

/-- What a process does leaves all others in place: regions stay orderly and stay agreed on, nobody
else starts or ends, and whoever else is alive keeps its slots, no more and no fewer. -/
structure Spares (pid : Pid) (host host' : Machine) : Prop where
  orderly : host'.Orderly
  upholds : host.Upholds host'
  running : ∀ r ∈ host'.running, r.pid ≠ pid → ∃ r' ∈ host.running, r'.pid = r.pid
  alive : ∀ q, q ≠ pid → host.alive .actual q → host'.alive .actual q
  handover : host.Handover (fun q => q ≠ pid ∧ host.alive .actual q) (· = pid) host'

namespace Spares

/-- Nobody else is given a slot. -/
theorem slotsOf_subset (h : Spares pid host host') (hq : q ≠ 0) (hne : q ≠ pid) :
    host'.slotsOf q ⊆ host.slotsOf q :=
  h.handover.slotsOf_subset hq hne

/-- Whoever else is alive has the slots that it had. -/
theorem slotsOf_eq (h : Spares pid host host') (hne : q ≠ pid) (halive : host.alive .actual q) :
    host'.slotsOf q = host.slotsOf q :=
  h.handover.slotsOf_eq (ne_zero_of_alive halive) ⟨hne, halive⟩ hne

/-- Starting a process under any identifier spares the others. -/
theorem start (h : host.Orderly) (pid : Pid) (target : Option StatusTarget) :
    Spares pid host ({ host with nextPid := pid }.start target).2 where
  orderly := h.of_files rfl
  upholds := .of_files rfl
  running r hr hne := by
    rcases List.mem_cons.1 hr with rfl | hr
    · exact absurd rfl hne
    · exact ⟨r, hr, rfl⟩
  alive q _ hq := alive_start hq
  handover := .of_files rfl

/-- So does ending one. -/
theorem stop (h : Spares pid host host') : Spares pid host (host'.stop pid) where
  orderly := h.orderly.of_files rfl
  upholds := h.upholds.trans (.of_files rfl)
  running r hr := h.running r (List.mem_filter.1 hr).1
  alive q hne hq := alive_stop (h.alive q hne hq) hne
  handover := h.handover.trans (.of_files rfl)

end Spares

/-- Nobody starts or ends, and whoever is alive keeps its slots, no more and no fewer. -/
structure SparesAll (host host' : Machine) : Prop where
  orderly : host'.Orderly
  upholds : host.Upholds host'
  running : host'.running = host.running
  handover : host.Handover (fun q => host.alive .actual q) (fun _ => False) host'

namespace SparesAll

/-- Everybody is spared where neither files nor processes change. -/
theorem of_eq (h : host.Orderly) (hfiles : host'.files = host.files)
    (hrunning : host'.running = host.running) : host.SparesAll host' :=
  ⟨h.of_files hfiles, .of_files hfiles, hrunning, .of_files hfiles⟩

/-- Whoever is alive stays so. -/
theorem alive (h : host.SparesAll host') (hq : host.alive .actual q) : host'.alive .actual q := by
  rwa [alive_congr h.running]

/-- Whoever is alive has the slots that it had. -/
theorem slotsOf_eq (h : host.SparesAll host') (hq : host.alive .actual q) :
    host'.slotsOf q = host.slotsOf q :=
  h.handover.slotsOf_eq (ne_zero_of_alive hq) hq id

/-- Where everybody is spared, all but one process are. -/
theorem spares (h : host.SparesAll host') (pid : Pid) : Spares pid host host' where
  orderly := h.orderly
  upholds := h.upholds
  running r hr _ := ⟨r, h.running ▸ hr, rfl⟩
  alive _ _ := h.alive
  handover := h.handover.mono (fun _ hq => hq.2) fun _ => False.elim

end SparesAll

/-- A process has attached, and may work through the attachment. -/
structure Joins (pid : Pid) (host : Machine) (a : Attachment) (host' : Machine) : Prop where
  orderly : host'.Orderly
  upholds : host.Upholds host'
  running : host'.running = host.running
  handover : ∀ {safe new : Pid → Prop}, host.Handover safe new host'
  stands : a.Stands host'
  pid_eq : a.pid = pid
  liveness : a.liveness = .actual

/-- Whoever is let in when it attaches joins. -/
theorem joins_of_attach (h : host.Orderly) (hpid : pid ≠ 0) {settings : Settings} {a : Attachment}
    (hattach : attach settings pid .actual host = (.ok a, host')) : host.Joins pid a host' := by
  obtain rfl : (attach settings pid .actual host).2 = host' := by rw [hattach]
  obtain ⟨hstands, hown, hliveness⟩ :=
    Attachment.stands_of_attach h.sound hpid (congrArg Prod.fst hattach)
  exact ⟨h.attach _ _ _, .attach _ _ _, running_attach _ _ _, handover_attach _ _ _, hstands, hown,
    hliveness⟩

end Machine

/-! ## Registering, allocating, and leaving -/

namespace Member

variable {m : Member} {s t : Seat} {n : Nat}

/-- A member that registers itself has a slot afterwards. -/
theorem pid_registerSelf (hs : s.region.Consistent) (hm : m.pid ≠ 0)
    (h : m.registerSelf s = (.ok n, t)) : ∃ i, (t.region.slotAt i).pid = m.pid := by
  have hregion := m.region_registerSelf s
  rw [h] at hregion
  -- A refused registration would have been passed on, so that one was granted.
  obtain ⟨hanswer, -, -⟩ | ⟨i, -, he⟩ := m.register_cases hs hm (.inl rfl)
  · rw [registerSelf, Run.bind_apply] at h
    generalize m.register m.pid s = registered at h hanswer
    obtain ⟨_, t'⟩ := registered
    obtain rfl := hanswer
    cases h
  · exact ⟨i, by rw [hregion]; exact (he.pid_eq_iff i).2 rfl⟩

/-- A member that leaves while nobody has the lock clears its own slot and no other. -/
theorem slotAt_removeSelf (hs : s.region.Consistent) (hm : m.pid ≠ 0)
    (hlock : 0 < s.region.lock.count) (i : Fin maxProcesses) :
    (m.removeSelf s).2.region.slotAt i =
      if (s.region.slotAt i).pid = m.pid then .empty else s.region.slotAt i := by
  rw [m.region_removeSelf, tryLocked, LockWord.tryAcquire, if_pos hlock]
  exact (hs.setLock _).slotAt_unregister hm i

open Allocator in
/-- An allocator keeps tables consistent. -/
theorem bearable_consistent (m : Member) : Bearable m fun s _ => s.region.Consistent where
  addUsage _ dev bytes kind := m.keeps_addUsage Region.stable_consistent m.pid dev bytes kind
  removeUsage _ dev bytes kind := m.keeps_removeUsage Region.stable_consistent m.pid dev bytes kind
  clearDead _ := m.keeps_clearDead Region.stable_consistent

open Allocator in
/-- It hands no slot out, and takes none from those that its member takes for alive. -/
theorem bearable_handover (m : Member) {safe new : Pid → Prop} {r : Region}
    (hsafe : ∀ q, safe q → q = m.pid ∨ m.alive q) :
    Bearable m fun s _ => r.Handover safe new s.region where
  addUsage _ dev bytes kind _ hs := m.handover_addUsage hs m.pid dev bytes kind
  removeUsage _ dev bytes kind _ hs := m.handover_removeUsage hs m.pid dev bytes kind
  clearDead _ _ hs := m.handover_clearDead hsafe hs

end Member

/-! ## The operations of a process -/

/-- An allocation or a release, as a tenant asks for it. -/
def AllocCall.ask {σ : Type} [DeviceDriver σ] (m : Member) : AllocCall → Tenancy.M σ Unit
  | .allocate size => do let _ ← Tenancy.onAllocator (Allocator.allocate m size)
  | .allocateAs size kind => do let _ ← Tenancy.onAllocator (Allocator.allocateAs m size kind)
  | .allocateAsync size stream => do
    let _ ← Tenancy.onAllocator (Allocator.allocateAsync m size stream)
  | .free address => do let _ ← Tenancy.onAllocator (Allocator.free m address)
  | .freeAsync address stream => do
    let _ ← Tenancy.onAllocator (Allocator.freeAsync m address stream)
  | .registerExternal address size => do
    let _ ← Tenancy.onAllocator (Allocator.registerExternal m address size)

/-- A tenant's request does to the seat what the allocator does. -/
theorem AllocCall.seat_ask {σ : Type} [DeviceDriver σ] (m : Member) (call : AllocCall)
    (t : Tenancy σ) :
    ((call.ask m).run t).2.seat = (call.run m ⟨t.seat, t.tenant.holdings, t.driver⟩).seat := by
  cases call <;> rfl

namespace Workload

variable {σ μ : Type} {p p' : Workload σ μ} {c : Context} {a : Attachment}
  {host host' : Machine}

/-- What the process has mapped to work through, wherever it last saw its slot. -/
def mapped? (p : Workload σ μ) : Option Attachment :=
  p.context.map fun c => { c.attachment with remembered := none }

/-- A process owns its context if what it has mapped was mapped under its identifier. -/
theorem any_owns_iff : p.context.any p.owns ↔ ∃ a, p.mapped? = some a ∧ a.pid = p.pid := by
  cases hc : p.context with
  | none => simp [mapped?, hc]
  | some c => simp [mapped?, hc, owns]

theorem mapped?_eq_some_iff :
    p.mapped? = some a ↔ ∃ c, p.context = some c ∧ { c.attachment with remembered := none } = a :=
  Option.map_eq_some_iff

/-! ### Making a context -/

section

variable [DeviceDriver σ]

/-- A process that has its own context is given that one, and nothing changes. -/
theorem ensure_of_owns (h : p.context.any p.owns) (host : Machine) :
    p.ensure host = (.ready true, p, host) :=
  if_pos h

/-- A process that has none, or an inherited one, enters as a tenant of its own. -/
theorem ensure_of_not_owns (hnot : ¬ p.context.any p.owns) {same : Bool}
    (h : (p.ensure host).1 = .ready same) :
    same = false ∧ ∃ log c p', { p with log }.enter host = (.ok c, p', (p.ensure host).2.2) ∧
      (p.ensure host).2.1 = { p' with context := some c, releasesAtExit := true } := by
  rw [ensure, if_neg hnot] at h ⊢
  dsimp only at h ⊢
  rcases henter : { p with log := some (p.log.getD (.ofEnvironment p.env)) }.enter host with
    ⟨e | c, p', host'⟩
  · -- Where entering fails the call answers with an error and not with a context.
    rw [henter] at h
    dsimp only at h
    split at h <;> cases h
  · rw [henter] at h ⊢
    cases h
    exact ⟨rfl, _, c, p', henter, rfl⟩

/-- Entering attaches, registers, and installs handlers. -/
theorem exists_of_enter (h : p.enter host = (.ok c, p', host')) :
    p'.pid = p.pid ∧ ∃ s a host₁ n t, Machine.attach s p.pid .actual host = (.ok a, host₁) ∧
      (host₁.member a).registerSelf (host₁.seat a) = (.ok n, t) ∧
      c.attachment = { a with remembered := t.remembered } ∧
      host' = (host₁.store a.node t.region).install p.pid c.attachment n := by
  unfold enter at h
  -- Whatever goes wrong on the way, there is no context.
  split at h
  next => cases h
  next s hsettings =>
    split at h
    next => cases h
    next a host₁ hattach =>
      unfold Tenant.admit at h
      cases hvalid : (WatcherSettings.ofEnvironment p.env).validate with
      | error e =>
        rw [hvalid] at h
        cases h
      | ok _ =>
        rw [hvalid] at h
        dsimp only at h
        rcases hregister : (host₁.member a).registerSelf (host₁.seat a) with ⟨e | n, t⟩
        · rw [show (host₁.member a).registerSelf.run (host₁.seat a) = _ from hregister] at h
          cases h
        · rw [show (host₁.member a).registerSelf.run (host₁.seat a) = _ from hregister] at h
          cases h
          exact ⟨rfl, s, a, host₁, n, t, hattach, hregister, rfl, rfl⟩

/-- A process has become a tenant: it has a mapping under its own identifier, and one slot there if
it had none. All other processes are spared. -/
structure Entered (p : Workload σ μ) (host : Machine) (p' : Workload σ μ) (host' : Machine)
    (a : Attachment) : Prop where
  pid_eq : p'.pid = p.pid
  mapped : p'.mapped? = some a
  releases : p'.releasesAtExit
  own : a.pid = p.pid
  liveness : a.liveness = .actual
  stands : a.Stands host'
  spares : host.Spares p.pid host'
  alive : host.alive .actual p.pid → host'.alive .actual p.pid
  slots : host.slotsOf p.pid = ∅ → ∃ i, host'.slotsOf p.pid = {(a.node, i)}

/-- A process that enters spares all others, and gets a context of its own. -/
theorem spares_enter (h : host.Orderly) (hpid : p.pid ≠ 0)
    (henter : p.enter host = (.ok c, p', host')) :
    host.Spares p.pid host' ∧ (host.alive .actual p.pid → host'.alive .actual p.pid) ∧
      c.attachment.Stands host' ∧ c.attachment.pid = p.pid ∧ c.attachment.liveness = .actual := by
  obtain ⟨-, s, a, host₁, n, t, hattach, hregister, hc, rfl⟩ := exists_of_enter henter
  have hjoins := Machine.joins_of_attach h hpid hattach
  let m := host₁.member a
  have hseat : (m.registerSelf (host₁.seat a)).2 = t := congrArg Prod.snd hregister
  -- Registering is a call like others, so that the region stays orderly.
  obtain ⟨hstored, hup⟩ := Machine.orderly_call hjoins.orderly hjoins.stands .registerSelf
  rw [show RegionCall.registerSelf.run m (host₁.seat a) = t from hseat] at hstored hup
  have halive : ∀ q, host.alive .actual q → m.alive q := by
    intro q hq
    show host₁.alive a.liveness q
    rwa [hjoins.liveness, Machine.alive_congr hjoins.running]
  have hregion : (host₁.region a.node).Handover
      (fun q => q ≠ p.pid ∧ host.alive .actual q) (· = p.pid) t.region := by
    rw [← hseat]
    apply m.handover_registerSelf (s := host₁.seat a) (hjoins.orderly.region a.node).consistent
    · exact fun hzero => hpid (hjoins.pid_eq.symm.trans hzero)
    · exact fun hzero => Machine.ne_zero_of_alive hzero.2 rfl
    · exact hjoins.pid_eq
    · exact fun q hq => .inr (halive q hq.2)
  have hkept : ∀ q, host.alive .actual q →
      ((host₁.store a.node t.region).install p.pid c.attachment n).alive .actual q := by
    intro q hq
    rw [Machine.alive_install]
    exact (Machine.alive_congr hjoins.running).trans hq
  rw [hc] at hkept ⊢
  refine ⟨⟨hstored.of_files rfl, ?_, fun r hr _ => ?_, fun q _ => hkept q, ?_⟩, hkept _, ?_,
    hjoins.pid_eq, hjoins.liveness⟩
  · exact (hjoins.upholds.trans hup).trans (.of_files rfl)
  · obtain ⟨r', hr', rfl⟩ := List.mem_map.1 hr
    refine ⟨r', hjoins.running ▸ hr', ?_⟩
    split <;> rfl
  · exact (hjoins.handover.trans (.store hregion)).trans (.of_files rfl)
  · exact ((hjoins.stands.remember _).mono hup).mono (.of_files rfl)

/-- A process that had no slot anywhere has exactly one when it has entered, in the region that it
works on. -/
theorem slotsOf_enter (h : host.Orderly) (hpid : p.pid ≠ 0) (hnone : host.slotsOf p.pid = ∅)
    (henter : p.enter host = (.ok c, p', host')) :
    ∃ i, host'.slotsOf p.pid = {(c.attachment.node, i)} := by
  have hspares := (spares_enter h hpid henter).1
  obtain ⟨-, s, a, host₁, n, t, hattach, hregister, hc, hhost⟩ := exists_of_enter henter
  have hjoins := Machine.joins_of_attach h hpid hattach
  -- Attaching hands no slot out.
  have hnone₁ : host₁.slotsOf p.pid = ∅ := by
    have hattached : host.Handover (fun _ => False) (fun _ => False) host₁ := hjoins.handover
    exact Set.subset_empty_iff.1 (hnone ▸ hattached.slotsOf_subset hpid id)
  have hregion : ∀ node, host'.region node =
      if a.node = node then t.region else host₁.region node := by
    have hfiles : host'.files = (host₁.store a.node t.region).files := by
      rw [hhost]
      rfl
    intro node
    rw [Machine.region_congr hfiles, Machine.region_store]
    refine if_congr (and_iff_left_of_imp ?_) rfl rfl
    rintro rfl
    exact hjoins.stands.lt_size
  obtain ⟨i, hi⟩ := Member.pid_registerSelf (hjoins.orderly.region a.node).consistent
    (fun hzero => hpid (hjoins.pid_eq.symm.trans hzero)) hregister
  have hmem : ((host'.region a.node).slotAt i).pid = p.pid := by
    rw [hregion, if_pos rfl, hi]
    exact hjoins.pid_eq
  refine ⟨i, Set.eq_singleton_iff_unique_mem.2 ⟨by rwa [hc], ?_⟩⟩
  rintro ⟨node, j⟩ hj
  change ((host'.region node).slotAt j).pid = p.pid at hj
  have hnode : a.node = node := by
    by_contra hne
    rw [hregion, if_neg hne] at hj
    exact Set.eq_empty_iff_forall_notMem.1 hnone₁ (node, j) hj
  subst hnode
  have hconsistent := (hspares.orderly.region a.node).consistent
  rw [hc, hconsistent.pid_injective j i (hj ▸ hpid) (hj.trans hmem.symm)]

/-- A process that asks for a context and has none of its own has become a tenant. -/
theorem entered_of_ensure (h : host.Orderly) (hpid : p.pid ≠ 0) (hnot : ¬ p.context.any p.owns)
    {same : Bool} (hready : (p.ensure host).1 = .ready same) :
    same = false ∧ ∃ a, p.Entered host (p.ensure host).2.1 (p.ensure host).2.2 a := by
  obtain ⟨hsame, log, c, q, henter, hensured⟩ := ensure_of_not_owns hnot hready
  -- Its log was opened before the process enters the region, with which it has nothing to do.
  obtain ⟨hspares, halive, hstands, hown, hliveness⟩ :=
    spares_enter (p := { p with log }) h hpid henter
  have hq : q.pid = p.pid := (exists_of_enter henter).1
  refine ⟨hsame, { c.attachment with remembered := none }, ?_⟩
  rw [hensured]
  refine ⟨hq, rfl, rfl, hown, hliveness, hstands.remember none, hspares, halive, fun hnone => ?_⟩
  exact slotsOf_enter (p := { p with log }) h hpid hnone henter

/-! ### Using a context -/

/-- Allocating through a context, even an inherited one, leaves every process that is alive with
the slots that it had, and the process itself with the same mapping. -/
theorem sparesAll_act (h : host.Orderly) (ha : p.mapped? = some a) (hstands : a.Stands host)
    (hliveness : a.liveness = .actual) (call : AllocCall) :
    ∃ p' host', p.act host call.ask = some ((), p', host') ∧ p'.pid = p.pid ∧
      p'.mapped? = p.mapped? ∧ p'.releasesAtExit = p.releasesAtExit ∧ host.SparesAll host' := by
  obtain ⟨c, hc, rfl⟩ := mapped?_eq_some_iff.1 ha
  let m := host.member c.attachment
  let s := host.seat c.attachment
  let t := ((call.ask m).run { seat := s, driver := p.driver, tenant := c.tenant }).2
  have hact : p.act host call.ask = some ((),
      { p with
        driver := t.driver
        context := some ⟨(host.putSeat c.attachment t.seat).1, t.tenant⟩ },
      host.store c.attachment.node t.seat.region) := by
    rw [act, hc]
    rfl
  -- The region only sees the operation itself, which every invariant of a member endures.
  have hseat : t.seat = (call.run m ⟨s, c.tenant.holdings, p.driver⟩).seat := call.seat_ask m _
  have hconsistent := (h.region c.attachment.node).consistent
  have hagrees : ∀ terms, (host.region c.attachment.node).Agrees terms →
      t.seat.region.Agrees terms := by
    intro terms hterms
    rw [hseat]
    exact call.run_keeps (Seat.enduring_agrees m terms).bearableByAllocator _ hterms
  have halive : ∀ q, host.alive .actual q → q = m.pid ∨ m.alive q := by
    intro q hq
    right
    show host.alive c.attachment.liveness q
    rwa [show c.attachment.liveness = .actual from hliveness]
  refine ⟨_, _, hact, rfl, ?_, rfl, ?_, .store hagrees, rfl, .store ?_⟩
  · rw [mapped?, mapped?, hc]
    rfl
  · refine h.store (.of_agrees ?_ (hagrees _ hstands.agrees))
    rw [hseat]
    exact call.run_keeps m.bearable_consistent _ hconsistent
  · rw [hseat]
    exact call.run_keeps (m.bearable_handover halive) _ (.refl _)

end

/-! ### Leaving -/

/-- A process without a context of its own just ends. -/
theorem leave_of_not_owns (hnot : ¬ p.context.any p.owns) (how : Leaving) :
    (p.leave host how).2 = host.stop p.pid := by
  cases how with
  | exit =>
    show (p.release host).2.stop p.pid = _
    rw [release]
    -- A context that was inherited is not released at exit.
    split
    next => rfl
    next c hc =>
      have hinherited : ¬ (p.releasesAtExit && p.owns c) := by
        rw [hc] at hnot
        simpa using fun _ => hnot
      rw [if_neg hinherited]
  | drop => rfl
  | abort => rfl

/-- A process that made its context itself gives its slot back when it leaves in good order. -/
theorem leave_of_owns (hc : p.context = some c) (hown : p.owns c) (hrelease : p.releasesAtExit) :
    (p.leave host .exit).2 = (host.store c.attachment.node
      ((host.member c.attachment).removeSelf (host.seat c.attachment)).2.region).stop p.pid := by
  show (p.release host).2.stop p.pid = _
  rw [release, hc]
  dsimp only
  rw [hown, hrelease, act, hc]
  rfl

/-- Whoever leaves spares all others, whether it leaves in good order or crashes. -/
theorem spares_leave (h : host.Orderly)
    (hstands : ∀ c, p.context = some c → c.attachment.Stands host)
    (hrelease : p.context.any p.owns → p.releasesAtExit) (how : Leaving) :
    host.Spares p.pid (p.leave host how).2 := by
  have hstay : host.Spares p.pid host := (Machine.SparesAll.of_eq h rfl rfl).spares p.pid
  -- Only an exit in good order from a context of its own reaches the region.
  by_cases hown : p.context.any p.owns
  · cases how with
    | exit =>
      obtain ⟨c, hc, hc'⟩ := (Option.any_eq_true ..).1 hown
      have hpid : c.attachment.pid = p.pid := by simpa [owns] using hc'
      obtain ⟨horderly, hup⟩ := Machine.orderly_call h (hstands c hc) .removeSelf
      rw [leave_of_owns hc hc' (hrelease hown)]
      refine .stop ⟨horderly, hup, hstay.running, hstay.alive, .store ?_⟩
      apply (host.member c.attachment).handover_removeSelf (s := host.seat c.attachment)
      · exact (h.region c.attachment.node).consistent
      · exact (hstands c hc).pid_ne_zero
      · exact fun hsafe => hsafe.1 hpid
    | drop => exact hstay.stop
    | abort => exact hstay.stop
  · rw [leave_of_not_owns hown]
    exact hstay.stop

/-- A process that leaves in good order, while nobody has the lock of its region, clears its own
slot and leaves all others as they are. -/
theorem slotAt_leave (h : host.Orderly) (hc : p.context = some c) (hown : p.owns c)
    (hrelease : p.releasesAtExit) (hstands : c.attachment.Stands host)
    (honly : ∀ x ∈ host.slotsOf p.pid, x.1 = c.attachment.node)
    (hlock : 0 < (host.region c.attachment.node).lock.count) (node : NodeId)
    (i : Fin maxProcesses) :
    ((p.leave host .exit).2.region node).slotAt i =
      if ((host.region node).slotAt i).pid = p.pid then .empty
      else (host.region node).slotAt i := by
  have hpid : c.attachment.pid = p.pid := by simpa [owns] using hown
  have hslot := Member.slotAt_removeSelf (m := host.member c.attachment)
    (s := host.seat c.attachment) (h.region _).consistent hstands.pid_ne_zero hlock i
  rw [leave_of_owns hc hown hrelease]
  show ((Machine.region (host.store _ _) node).slotAt i) = _
  rw [Machine.region_store]
  split
  next hnode =>
    obtain ⟨rfl, -⟩ := hnode
    exact hslot.trans (by rw [← hpid]; rfl)
  next hnode =>
    rw [if_neg]
    -- All slots of the process lie in the region that it works through.
    intro hi
    obtain rfl : node = c.attachment.node := honly (node, i) hi
    exact hnode ⟨rfl, hstands.lt_size⟩

/-! ### Forking -/

/-- A child has the mapping of its parent, under an identifier of its own. -/
theorem mapped?_fork (p : Workload σ μ) (host : Machine) : (p.fork host).1.mapped? = p.mapped? := by
  show (p.context.map _).map _ = p.context.map _
  rw [Option.map_map]
  rfl

end Workload

end GpuQuota
