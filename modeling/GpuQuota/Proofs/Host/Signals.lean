import GpuQuota.Proofs.Host.Tables

/-!
# Signals and the slots they reach

The handlers of a process store the status of a signal in the slot that the process had when it
installed them. They are pointed there once, and only giving the mapping up takes them away. So a
signal changes nothing but the status of the process that it is sent to, as long as that slot is
still the slot of that process. When the slot was given back, or its owner was reaped, the status
goes to a free slot or to whoever got the slot next; and the handlers that a child inherits store
into the slot of its parent.

The module introduces:

* `Machine.target?`, `Machine.Aimed` — where handlers point, and that it is the right place.
* `Machine.Restates` — signals to a process change nothing but the status of that process.
* `Machine.restates_iff_aimed` — they do so exactly if its handlers are aimed.
* `Roster`, `Roster.Deed`, `Roster.next` — processes with their mappings, and what they do.
* `Roster.threatens` — what may take the aim from the handlers of a process.
* `Roster.restates_iff_aimed_of_runs` — signals in every run.
* `Roster.not_restates` — a signal to a process that gave its slot back.
-/

namespace GpuQuota

/-- At most the status word of one slot that belongs to the process differs. -/
def Region.Restated (pid : Pid) (status : ProcStatus) (r r' : Region) : Prop :=
  r' = r ∨ ∃ i : Fin maxProcesses, (r.slotAt i).pid = pid ∧ r' = r.modifySlot i (·.setStatus status)

namespace Machine

/-- Where the handlers of a process store a status. -/
def target? (host : Machine) (pid : Pid) : Option StatusTarget :=
  (host.running.find? (·.pid == pid)).bind (·.target)

/-- The handlers of a process point at a slot of that process, if they point anywhere. -/
def Aimed (host : Machine) (pid : Pid) : Prop :=
  ∀ t, host.target? pid = some t → ∀ i : Fin maxProcesses, i.val = t.slot →
    ((host.region t.node).slotAt i).pid = pid

/-- The signals to suspend and to resume a process change at most its own status word. -/
def Restates (host : Machine) (pid : Pid) : Prop :=
  ∀ status, status = .running ∨ status = .suspended → ∀ node,
    (host.region node).Restated pid status ((host.deliver pid status).2.region node)

variable {host host' : Machine} {pid q : Pid} {t : StatusTarget}

/-! ## One signal -/

/-- A signal stores its status where the handlers of the process point, if they do. -/
theorem snd_deliver (host : Machine) (pid : Pid) (status : ProcStatus) :
    (host.deliver pid status).2 = match host.target? pid with
      | some t => host.storeStatus t status
      | none => host := rfl

/-- One of the two signals changes the status that a slot has. -/
theorem exists_status_ne (s : Slot) :
    ∃ status, (status = .running ∨ status = .suspended) ∧ s.setStatus status ≠ s := by
  have hne : ∀ status : ProcStatus, s.rawStatus ≠ status.toRaw → s.setStatus status ≠ s := by
    intro status hraw heq
    exact hraw (congrArg Slot.rawStatus heq).symm
  -- Of two known statuses one is not the present one.
  by_cases hrunning : s.rawStatus = ProcStatus.running.toRaw
  · refine ⟨.suspended, .inr rfl, hne _ ?_⟩
    rw [hrunning]
    decide
  · exact ⟨.running, .inl rfl, hne _ hrunning⟩

/-- Signals change at most the status of the process exactly if its handlers point at a slot of the
process. -/
theorem restates_iff_aimed (htarget : ∀ t, host.target? pid = some t →
    t.node < host.files.nodes.size ∧ t.slot < maxProcesses) :
    host.Restates pid ↔ host.Aimed pid := by
  constructor
  · intro h t ht i hi
    obtain ⟨hnode, -⟩ := htarget t ht
    obtain ⟨status, hstatus, hchanged⟩ := exists_status_ne ((host.region t.node).slotAt i)
    -- The slot that the handlers point at changes, so it is the slot of the process.
    have hregion := h status hstatus t.node
    rw [snd_deliver, ht] at hregion
    dsimp only at hregion
    rw [storeStatus, region_store, if_pos ⟨rfl, hnode⟩, ← hi] at hregion
    have hslot := Region.slotAt_modifySlot (host.region t.node) i i (·.setStatus status)
    rw [if_pos rfl] at hslot
    rcases hregion with hsame | ⟨j, hj, hsame⟩
    · rw [hsame] at hslot
      exact absurd hslot.symm hchanged
    · rw [hsame, Region.slotAt_modifySlot] at hslot
      split at hslot
      next hij => rw [hij, hj]
      next => exact absurd hslot.symm hchanged
  · intro h status _ node
    rw [snd_deliver]
    cases ht : host.target? pid with
    | none => exact .inl rfl
    | some t =>
      obtain ⟨-, hslot⟩ := htarget t ht
      dsimp only
      rw [storeStatus, region_store]
      split
      next hnode =>
        rw [← hnode.1]
        exact .inr ⟨⟨t.slot, hslot⟩, h t ht ⟨t.slot, hslot⟩ rfl, rfl⟩
      next => exact .inl rfl

/-! ## Where handlers point -/

/-- Where handlers point is a matter of the processes alone. -/
theorem target?_congr (h : host'.running = host.running) (pid : Pid) :
    host'.target? pid = host.target? pid := by
  rw [target?, target?, h]

/-- A change of one process decides where its own handlers point. -/
theorem target?_modifyRunning {f : RunningProcess → RunningProcess} (hf : ∀ r, (f r).pid = r.pid) :
    (host.modifyRunning q f).target? pid =
      if pid = q then (host.running.find? (·.pid == pid)).bind fun r => (f r).target
      else host.target? pid := by
  -- The change keeps identifiers, so the process is found where it was found before.
  have hpred : ((·.pid == pid) ∘ fun r : RunningProcess => if r.pid = q then f r else r) =
      (·.pid == pid) := by
    funext r
    show ((if r.pid = q then f r else r).pid == pid) = (r.pid == pid)
    split
    next => rw [hf]
    next => rfl
  rw [target?, modifyRunning, List.find?_map, hpred, target?]
  cases hfind : host.running.find? (·.pid == pid) with
  | none => split <;> rfl
  | some r =>
    have hpid : r.pid = pid := by simpa using List.find?_some hfind
    rw [Option.map_some, Option.bind_some, Option.bind_some, Option.bind_some, hpid]
    split <;> rfl

/-- A process that has ended runs no handler. -/
theorem target?_finish :
    (host.finish q).target? pid = if pid = q then none else host.target? pid := by
  rw [finish, target?_modifyRunning]
  · cases host.running.find? (·.pid == pid) <;> rfl
  · exact fun _ => rfl

/-- A process that installs its handlers has them point at the slot given. -/
theorem target?_install (a : Attachment) (slot : Nat) :
    (host.install q a slot).target? pid =
      if pid = q then
        (host.running.find? (·.pid == pid)).map fun _ =>
          { mapping := a.mapping, node := a.node, slot }
      else host.target? pid := by
  rw [install, target?_modifyRunning]
  · cases host.running.find? (·.pid == pid) <;> rfl
  · exact fun _ => rfl

/-- Giving a mapping up takes away the handlers that point into it. -/
theorem target?_detach (a : Attachment) :
    (host.detach q a).target? pid =
      if pid = q then (host.target? pid).filter (·.mapping != a.mapping) else host.target? pid := by
  rw [detach, target?_modifyRunning, target?]
  · cases host.running.find? (·.pid == pid) <;> rfl
  · exact fun _ => rfl

/-- A new process has the handlers that it was given, and nobody else is concerned. -/
theorem target?_start (target : Option StatusTarget) :
    (host.start target).2.target? pid =
      if pid = host.nextPid then target else host.target? pid := by
  rw [target?, start, List.find?_cons]
  by_cases hpid : pid = host.nextPid
  · simp [hpid]
  · have hne : (host.nextPid == pid) = false := beq_false_of_ne fun h => hpid h.symm
    rw [hne, if_neg hpid]
    rfl

/-- A process that is gone has no handlers. -/
theorem target?_stop : (host.stop q).target? pid = if pid = q then none else host.target? pid := by
  rw [target?, stop]
  split
  next hpid =>
    -- Nobody with the identifier is left.
    have hnone : (host.running.filter (·.pid != q)).find? (·.pid == pid) = none := by
      rw [List.find?_eq_none]
      intro r hr
      have hne := (List.mem_filter.1 hr).2
      simpa [hpid] using hne
    rw [hnone]
    rfl
  next hpid =>
    -- Whoever has another identifier is found as before.
    have hpred : (fun r : RunningProcess => decide ((r.pid != q) = true ∧ (r.pid == pid) = true)) =
        (·.pid == pid) := by
      funext r
      by_cases hr : r.pid = pid
      · simp [hr, hpid]
      · simp [hr]
    rw [List.find?_filter, hpred, target?]

/-- Handlers stay aimed where they keep pointing at the same slot or point nowhere any more, and the
process keeps its slots. -/
theorem Aimed.of_handover (h : host.Aimed pid)
    (htarget : host'.target? pid = host.target? pid ∨ host'.target? pid = none)
    (hkept : host.Handover (· = pid) (fun _ => True) host') : host'.Aimed pid := by
  intro t ht i hi
  rcases htarget with hsame | hnone
  · have hpid := h t (hsame ▸ ht) i hi
    rw [(hkept t.node).kept i hpid, hpid]
  · rw [hnone] at ht
    cases ht

end Machine

/-- A place that handlers point at is a slot of a file that there is. -/
structure StatusTarget.Stands (host : Machine) (t : StatusTarget) : Prop where
  lt_size : t.node < host.files.nodes.size
  lt_maxProcesses : t.slot < maxProcesses

/-- Places stay where files stay. -/
theorem StatusTarget.Stands.mono {host host' : Machine} {t : StatusTarget} (h : t.Stands host)
    (hup : host.Upholds host') : t.Stands host' :=
  ⟨h.lt_size.trans_le hup.size, h.lt_maxProcesses⟩

/-! ## Operations -/

namespace Machine

variable {host : Machine} {a : Attachment}

/-- A signal leaves all regions orderly, since it stores one of the known statuses. -/
theorem orderly_deliver (h : host.Orderly) (pid : Pid) (status : ProcStatus) :
    (host.deliver pid status).2.Orderly := by
  rw [snd_deliver]
  split
  next t _ => exact h.storeStatus t status
  next => exact h

/-- A signal takes a slot from nobody. -/
theorem handover_deliver {safe new : Pid → Prop} (pid : Pid) (status : ProcStatus) :
    host.Handover safe new (host.deliver pid status).2 := by
  rw [snd_deliver]
  split
  next t _ => exact handover_storeStatus t status
  next => exact .of_files rfl

/-- A signal changes no process. -/
theorem running_deliver (pid : Pid) (status : ProcStatus) :
    (host.deliver pid status).2.running = host.running := by
  rw [snd_deliver]
  split <;> rfl

/-- Signalling all processes signals one after the other. -/
theorem signalAll_induction {P : Machine → Prop} (status : ProcStatus)
    (hdeliver : ∀ host pid, P host → P (host.deliver pid status).2) (h : P host) (a : Attachment) :
    P (host.signalAll a status).2 :=
  List.foldlRecOn (motive := fun sent : Nat × Machine => P sent.2) _ _ h
    fun sent hsent pid _ => hdeliver sent.2 pid hsent

/-- Signalling all processes leaves all regions orderly. -/
theorem orderly_signalAll (h : host.Orderly) (a : Attachment) (status : ProcStatus) :
    (host.signalAll a status).2.Orderly :=
  signalAll_induction (P := Orderly) status
    (fun _ pid hhost => orderly_deliver hhost pid status) h a

/-- Signalling all processes changes none. -/
theorem running_signalAll (a : Attachment) (status : ProcStatus) :
    (host.signalAll a status).2.running = host.running :=
  signalAll_induction (P := fun host' => host'.running = host.running) status
    (fun _ pid hhost => (running_deliver pid status).trans hhost) rfl a

/-- Signalling all processes takes a slot from nobody. -/
theorem handover_signalAll {safe new : Pid → Prop} (a : Attachment) (status : ProcStatus) :
    host.Handover safe new (host.signalAll a status).2 :=
  signalAll_induction (P := host.Handover safe new) status
    (fun _ pid hhost => hhost.trans (handover_deliver pid status)) (.of_files rfl) a

/-- Whoever runs after a change of one process ran before, changed or not. -/
theorem mem_modifyRunning {q : Pid} {f : RunningProcess → RunningProcess} {r : RunningProcess}
    (h : r ∈ (host.modifyRunning q f).running) :
    ∃ r' ∈ host.running, r = r' ∨ r = f r' := by
  obtain ⟨r', hr', rfl⟩ := List.mem_map.1 h
  refine ⟨r', hr', ?_⟩
  split
  next => exact .inr rfl
  next => exact .inl rfl

end Machine

/-! ## Runs -/

/-- A host, and which process has which regions mapped. -/
structure Roster where
  /-- The host. -/
  host : Machine
  /-- The mappings, each with the process that has it. -/
  mapped : List (Pid × Attachment) := []

namespace Roster

/-- What a process does, or what happens to it. -/
inductive Deed
  /-- A process starts. -/
  | start
  /-- A process forks: the child has the mappings and the handlers of its parent. -/
  | fork (parent : Pid)
  /-- A process ends, and its parent is not told yet. -/
  | finish (p : Pid)
  /-- A process ends, and its parent is told. -/
  | stop (p : Pid)
  /-- A process is marked dead. -/
  | markDead (p : Pid)
  /-- A process loses that mark. -/
  | revive (p : Pid)
  /-- A process attaches to a region. -/
  | attach (p : Pid) (settings : Settings) (liveness : Liveness)
  /-- A process works on a region through one of its mappings. -/
  | call (p : Pid) (a : Attachment) (call : RegionCall)
  /-- A process installs its handlers for one of its mappings. -/
  | install (p : Pid) (a : Attachment)
  /-- A process gives a mapping up. -/
  | detach (p : Pid) (a : Attachment)
  /-- A process is signalled. -/
  | deliver (p : Pid) (status : ProcStatus)
  /-- All other processes of a region are signalled. -/
  | signalAll (a : Attachment) (status : ProcStatus)

/-- The mappings after one of them was worked through. -/
def remap (c : Roster) (p : Pid) (a : Attachment) : List (Pid × Attachment) :=
  c.mapped.map fun x => if x.1 = p ∧ x.2.mapping = a.mapping then (p, a) else x

/-- What a deed leads to. -/
def next (c : Roster) : Deed → Roster
  | .start => { c with host := (c.host.start none).2 }
  | .fork parent =>
    { host := (c.host.start (c.host.target? parent)).2
      mapped := c.mapped ++
        (c.mapped.filter (·.1 = parent)).map fun x => (c.host.nextPid, x.2) }
  | .finish p => { c with host := c.host.finish p }
  | .stop p => { host := c.host.stop p, mapped := c.mapped.filter (·.1 ≠ p) }
  | .markDead p => { c with host := c.host.markDead p }
  | .revive p => { c with host := c.host.revive p }
  | .attach p settings liveness =>
    let (outcome, host) := (Machine.attach settings p liveness).run c.host
    { host, mapped := outcome.toOption.toList.map ((p, ·)) ++ c.mapped }
  | .call p a call =>
    let (a, host) := c.host.putSeat a (call.run (c.host.member a) (c.host.seat a))
    { host, mapped := c.remap p a }
  | .install p a =>
    let (slot?, a, host) := c.host.onSeat a (·.mySlot?)
    { host := match slot? with
        | some slot => host.install p a slot
        | none => host
      mapped := c.remap p a }
  | .detach p a =>
    { host := c.host.detach p a
      mapped := c.mapped.filter fun x => ¬ (x.1 = p ∧ x.2.mapping = a.mapping) }
  | .deliver p status => { c with host := (c.host.deliver p status).2 }
  | .signalAll a status => { c with host := (c.host.signalAll a status).2 }

/-- Whether a deed can come next. -/
def allows (c : Roster) : Deed → Prop
  | .attach p _ _ => c.host.hasProcess p ∧ p ≠ 0
  | .call p a _ | .install p a | .detach p a => (p, a) ∈ c.mapped
  | .deliver _ status | .signalAll _ status => status ≠ .free
  | _ => True

/-- The deed may take a slot from the process, or point its handlers elsewhere: it gives its slot
back, somebody who takes it for dead reaps, it is just being forked, or it installs its handlers for
the slot of the process that it was forked from. -/
def threatens (c : Roster) (p : Pid) : Deed → Prop
  | .fork _ => c.host.nextPid = p
  | .call _ a call =>
    call = .removeSelf ∧ a.pid = p ∨
      call.reaps ∧ a.pid ≠ p ∧ c.host.alive a.liveness p = false
  | .install q a => q = p ∧ a.pid ≠ p
  | _ => False

/-- What deeds lead to. -/
def after (c : Roster) (deeds : List Deed) : Roster := deeds.foldl next c

/-- Something holds of each deed of a run, in the state that it finds. -/
def Along (P : Roster → Deed → Prop) (c : Roster) : List Deed → Prop
  | [] => True
  | d :: deeds => P c d ∧ (c.next d).Along P deeds

/-- Each deed can come when its turn has come. -/
def Runs (c : Roster) (deeds : List Deed) : Prop := c.Along allows deeds

/-- Nobody has a region mapped and nobody has handlers; the regions that there are, are orderly. -/
structure Start (c : Roster) : Prop where
  orderly : c.host.Orderly
  mapped_eq : c.mapped = []
  target_eq : ∀ r ∈ c.host.running, r.target = none

/-- All that mappings and handlers refer to is there. -/
structure Sound (c : Roster) : Prop where
  orderly : c.host.Orderly
  mapped : ∀ x ∈ c.mapped, x.2.Stands c.host
  target : ∀ r ∈ c.host.running, ∀ t, r.target = some t → t.Stands c.host

variable {c : Roster} {p : Pid} {d : Deed} {deeds : List Deed}

/-- What holds along a run holds along its two parts. -/
theorem along_append {P : Roster → Deed → Prop} {later : List Deed} :
    c.Along P (deeds ++ later) ↔ c.Along P deeds ∧ (c.after deeds).Along P later := by
  induction deeds generalizing c with
  | nil => simp [Along, after]
  | cons d deeds ih => exact (and_congr_right fun _ => ih).trans and_assoc.symm

/-- At the start there is nothing that mappings or handlers could refer to. -/
theorem Start.sound (h : c.Start) : c.Sound where
  orderly := h.orderly
  mapped x hx := by
    rw [h.mapped_eq] at hx
    cases hx
  target r hr t ht := by
    rw [h.target_eq r hr] at ht
    cases ht

/-- Handlers point at a slot that there is. -/
theorem Sound.target?_stands (h : c.Sound) {t : StatusTarget} (ht : c.host.target? p = some t) :
    t.Stands c.host := by
  obtain ⟨r, hr, htarget⟩ := Option.bind_eq_some_iff.1 ht
  exact h.target r (List.mem_of_find?_eq_some hr) t htarget

/-- What mappings and handlers refer to stays there. -/
theorem Sound.of_upholds {c' : Roster} (horderly : c'.host.Orderly)
    (hup : c.host.Upholds c'.host)
    (hmapped : ∀ x ∈ c'.mapped, x.2.Stands c.host ∨ x.2.Stands c'.host)
    (htarget : ∀ r ∈ c'.host.running, ∀ t, r.target = some t →
      t.Stands c.host ∨ t.Stands c'.host) : c'.Sound where
  orderly := horderly
  mapped x hx := (hmapped x hx).elim (·.mono hup) id
  target r hr t ht := (htarget r hr t ht).elim (·.mono hup) id

/-- So it does where only processes change. -/
theorem Sound.of_files {c' : Roster} (h : c.Sound) (hfiles : c'.host.files = c.host.files)
    (hmapped : ∀ x ∈ c'.mapped, x.2.Stands c.host)
    (htarget : ∀ r ∈ c'.host.running, ∀ t, r.target = some t → t.Stands c.host) : c'.Sound :=
  .of_upholds (h.orderly.of_files hfiles) (.of_files hfiles) (fun x hx => .inl (hmapped x hx))
    fun r hr t ht => .inl (htarget r hr t ht)

/-- A mapping that was worked through still refers to what is there. -/
theorem Sound.mem_remap (h : c.Sound) {a a' : Attachment} (ha : (p, a) ∈ c.mapped)
    (hsame : ∃ n, a' = { a with remembered := n }) {x : Pid × Attachment}
    (hx : x ∈ c.remap p a') : x.2.Stands c.host := by
  obtain ⟨y, hy, rfl⟩ := List.mem_map.1 hx
  split
  next =>
    obtain ⟨n, rfl⟩ := hsame
    exact (h.mapped _ ha).remember n
  next => exact h.mapped y hy

/-- Installing handlers leaves all regions as they are, and points the handlers at the slot that the
member has, if it has one. -/
theorem next_install (c : Roster) (p : Pid) (a : Attachment) :
    ∃ n, c.next (.install p a) =
      { host := match ((c.host.member a).mySlot? (c.host.seat a)).1 with
          | some slot => (c.host.store a.node (c.host.region a.node)).install p a slot
          | none => c.host.store a.node (c.host.region a.node)
        mapped := c.remap p { a with remembered := n } } := by
  have hregion := (c.host.member a).region_mySlot? (c.host.seat a)
  refine ⟨((c.host.member a).mySlot? (c.host.seat a)).2.remembered, ?_⟩
  change ((c.host.member a).mySlot? (c.host.seat a)).2.region = c.host.region a.node at hregion
  rw [← hregion]
  rfl

/-- A child starts with the mappings and the handlers of its parent. -/
theorem Sound.fork (h : c.Sound) (parent : Pid) : (c.next (.fork parent)).Sound := by
  refine h.of_files rfl (fun x hx => ?_) fun r hr t ht => ?_
  · rcases List.mem_append.1 hx with hx | hx
    · exact h.mapped x hx
    · obtain ⟨y, hy, rfl⟩ := List.mem_map.1 hx
      exact h.mapped y (List.mem_filter.1 hy).1
  · rcases List.mem_cons.1 hr with rfl | hr
    · exact h.target?_stands ht
    · exact h.target r hr t ht

/-- Nobody is let in but to a region that was set up for it. -/
theorem Sound.attach (h : c.Sound) (hp : p ≠ 0) (settings : Settings) (liveness : Liveness) :
    (c.next (.attach p settings liveness)).Sound := by
  refine .of_upholds (h.orderly.attach settings p liveness) (.attach settings p liveness)
    (fun x hx => ?_) fun r hr t ht => .inl (h.target r ?_ t ht)
  · -- A new mapping stands because attaching was granted; the old ones stand as before.
    rcases List.mem_append.1 hx with hx | hx
    · obtain ⟨a, ha, rfl⟩ := List.mem_map.1 hx
      change a ∈ (Machine.attach settings p liveness c.host).1.toOption.toList at ha
      cases houtcome : (Machine.attach settings p liveness c.host).1 with
      | error e =>
        rw [houtcome] at ha
        cases ha
      | ok b =>
        rw [houtcome] at ha
        rw [List.mem_singleton.1 ha]
        exact .inr (Attachment.stands_of_attach h.orderly.sound hp houtcome).1
    · exact .inl (h.mapped x hx)
  · exact Machine.running_attach settings p liveness ▸ hr

/-- Handlers are pointed at a slot that there is. -/
theorem Sound.install (h : c.Sound) {a : Attachment} (ha : (p, a) ∈ c.mapped) :
    (c.next (.install p a)).Sound := by
  obtain ⟨n, hnext⟩ := c.next_install p a
  rw [hnext]
  have horderly : (c.host.store a.node (c.host.region a.node)).Orderly :=
    h.orderly.store (h.orderly.region a.node)
  have hstore : c.host.Upholds (c.host.store a.node (c.host.region a.node)) :=
    .store fun _ hs => hs
  have hmapped : ∀ x ∈ c.remap p { a with remembered := n }, x.2.Stands c.host :=
    fun x hx => h.mem_remap ha ⟨n, rfl⟩ hx
  -- A process that finds no slot leaves its handlers as they were.
  cases hslot : ((c.host.member a).mySlot? (c.host.seat a)).1 with
  | none =>
    exact .of_upholds horderly hstore (fun x hx => .inl (hmapped x hx))
      fun r hr t ht => .inl (h.target r hr t ht)
  | some slot =>
    refine .of_upholds (horderly.of_files rfl) (hstore.trans (.of_files rfl))
      (fun x hx => .inl (hmapped x hx)) fun r hr t ht => .inl ?_
    obtain ⟨r', hr', rfl | rfl⟩ := Machine.mem_modifyRunning hr
    · exact h.target r hr' t ht
    · obtain rfl := Option.some.inj ht
      obtain ⟨i, rfl, -⟩ := Member.pid_mySlot? hslot
      exact ⟨(h.mapped _ ha).lt_size, i.isLt⟩

/-- Whatever comes next, mappings and handlers refer to what is there. -/
theorem Sound.next (h : c.Sound) (hd : c.allows d) : (c.next d).Sound := by
  -- Either the files stay as they are, or they are changed in a way that upholds all mappings.
  cases d with
  | start =>
    refine h.of_files rfl h.mapped fun r hr t ht => ?_
    rcases List.mem_cons.1 hr with rfl | hr
    · cases ht
    · exact h.target r hr t ht
  | fork parent => exact h.fork parent
  | finish q =>
    refine h.of_files rfl h.mapped fun r hr t ht => ?_
    obtain ⟨r', hr', rfl | rfl⟩ := Machine.mem_modifyRunning hr
    · exact h.target r hr' t ht
    · cases ht
  | stop q =>
    refine h.of_files rfl (fun x hx => h.mapped x (List.mem_filter.1 hx).1) fun r hr t ht => ?_
    exact h.target r (List.mem_filter.1 hr).1 t ht
  | markDead q => exact h.of_files rfl h.mapped h.target
  | revive q => exact h.of_files rfl h.mapped h.target
  | attach q settings liveness => exact h.attach hd.2 settings liveness
  | call q a call =>
    obtain ⟨horderly, hup⟩ := Machine.orderly_call h.orderly (h.mapped _ hd) call
    exact .of_upholds horderly hup (fun x hx => .inl (h.mem_remap hd ⟨_, rfl⟩ hx))
      fun r hr t ht => .inl (h.target r hr t ht)
  | install q a => exact h.install hd
  | detach q a =>
    refine h.of_files rfl (fun x hx => h.mapped x (List.mem_filter.1 hx).1) fun r hr t ht => ?_
    obtain ⟨r', hr', rfl | rfl⟩ := Machine.mem_modifyRunning hr
    · exact h.target r hr' t ht
    · exact h.target r' hr' t (Option.filter_eq_some_iff.1 ht).1
  | deliver q status =>
    refine .of_upholds (Machine.orderly_deliver h.orderly q status) (.deliver q status)
      (fun x hx => .inl (h.mapped x hx)) fun r hr t ht => .inl (h.target r ?_ t ht)
    exact Machine.running_deliver q status ▸ hr
  | signalAll a status =>
    refine .of_upholds (Machine.orderly_signalAll h.orderly a status) (.signalAll a status)
      (fun x hx => .inl (h.mapped x hx)) fun r hr t ht => .inl (h.target r ?_ t ht)
    exact Machine.running_signalAll a status ▸ hr

/-! ## What keeps handlers aimed -/

/-- A process that finds its slot when it installs its handlers has them aimed. -/
theorem aimed_install {a : Attachment} (hown : a.pid = p)
    (haimed : c.host.Aimed p ∨ ((c.host.member a).mySlot? (c.host.seat a)).1.isSome) :
    (c.next (.install p a)).host.Aimed p := by
  obtain ⟨n, hnext⟩ := c.next_install p a
  have hkept : c.host.Handover (· = p) (fun _ => True)
      (c.host.store a.node (c.host.region a.node)) := .store (.refl _)
  rw [hnext]
  cases hslot : ((c.host.member a).mySlot? (c.host.seat a)).1 with
  | none =>
    rw [hslot] at haimed
    -- Without a slot the handlers stay as they were, so they must have been aimed.
    exact (haimed.resolve_right nofun).of_handover (.inl rfl) hkept
  | some slot =>
    -- The slot that is found belongs to the process, and storing the region back does not change
    -- that.
    obtain ⟨i, rfl, hi⟩ := Member.pid_mySlot? hslot
    intro t ht j hj
    dsimp only at ht ⊢
    rw [Machine.target?_install, if_pos rfl, Option.map_eq_some_iff] at ht
    obtain ⟨r, -, rfl⟩ := ht
    obtain rfl : j = i := Fin.ext hj
    have hpid : ((c.host.region a.node).slotAt j).pid = p := hi.trans hown
    rw [← hpid]
    exact (hkept a.node).kept j hpid

/-- A call takes no slot from a process that neither gives its slot back nor is reaped. -/
theorem aimed_call {q : Pid} {a : Attachment} {call : RegionCall} (h : c.Sound)
    (ha : (q, a) ∈ c.mapped) (hp : p ≠ 0) (haimed : c.host.Aimed p)
    (hsafe : ¬ c.threatens p (.call q a call)) : (c.next (.call q a call)).host.Aimed p := by
  have hkept : (c.host.seat a).region.Handover (· = p) (fun _ => True)
      (call.run (c.host.member a) (c.host.seat a)).region := by
    apply RegionCall.handover (h.mapped _ ha).pid_ne_zero
    · exact (h.orderly.region a.node).consistent
    · exact hp.symm
    · -- The call reaps only the dead, and the process is not among them unless the run threatens
      -- it.
      rintro hreaps _ rfl
      by_contra hdead
      rw [not_or, Bool.not_eq_true] at hdead
      exact hsafe (.inr ⟨hreaps, Ne.symm hdead.1, hdead.2⟩)
    · exact fun hleave hown => hsafe (.inl ⟨hleave, hown⟩)
  exact haimed.of_handover (.inl rfl) (.store hkept)

/-- Handlers of another process may be pointed anywhere. -/
theorem aimed_install_of_ne {q : Pid} (a : Attachment) (hq : q ≠ p) (haimed : c.host.Aimed p) :
    (c.next (.install q a)).host.Aimed p := by
  obtain ⟨n, hnext⟩ := c.next_install q a
  have hkept : c.host.Handover (· = p) (fun _ => True)
      (c.host.store a.node (c.host.region a.node)) := .store (.refl _)
  rw [hnext]
  -- The region is stored back even where no slot is found, and without a change.
  cases ((c.host.member a).mySlot? (c.host.seat a)).1 with
  | none => exact haimed.of_handover (.inl rfl) hkept
  | some slot =>
    refine haimed.of_handover (.inl ?_) (hkept.trans (.of_files rfl))
    dsimp only
    rw [Machine.target?_install, if_neg hq.symm]
    rfl

/-- Giving a mapping up takes handlers away, but points none elsewhere. -/
theorem aimed_detach (q : Pid) (a : Attachment) (haimed : c.host.Aimed p) :
    (c.host.detach q a).Aimed p := by
  refine haimed.of_handover ?_ (.of_files rfl)
  rw [Machine.target?_detach]
  -- Handlers of the process are taken away only if they point into this mapping.
  split
  next =>
    cases c.host.target? p with
    | none => exact .inl rfl
    | some t =>
      rw [Option.filter_some]
      split
      next => exact .inl rfl
      next => exact .inr rfl
  next => exact .inl rfl

/-- Whatever does not threaten a process leaves its handlers aimed. -/
theorem aimed_next (h : c.Sound) (hd : c.allows d) (hp : p ≠ 0) (haimed : c.host.Aimed p)
    (hsafe : ¬ c.threatens p d) : (c.next d).host.Aimed p := by
  cases d with
  | start =>
    refine haimed.of_handover ?_ (.of_files rfl)
    rw [next, Machine.target?_start]
    split
    next => exact .inr rfl
    next => exact .inl rfl
  | fork parent =>
    -- Only the child is pointed elsewhere.
    refine haimed.of_handover (.inl ?_) (.of_files rfl)
    rw [next, Machine.target?_start, if_neg fun hnew => hsafe hnew.symm]
  | finish q =>
    refine haimed.of_handover ?_ (.of_files rfl)
    rw [next, Machine.target?_finish]
    split
    next => exact .inr rfl
    next => exact .inl rfl
  | stop q =>
    refine haimed.of_handover ?_ (.of_files rfl)
    rw [next, Machine.target?_stop]
    split
    next => exact .inr rfl
    next => exact .inl rfl
  | markDead q => exact haimed.of_handover (.inl rfl) (.of_files rfl)
  | revive q => exact haimed.of_handover (.inl rfl) (.of_files rfl)
  | attach q settings liveness =>
    refine haimed.of_handover (.inl ?_) (Machine.handover_attach settings q liveness)
    exact Machine.target?_congr (Machine.running_attach settings q liveness) p
  | call q a call => exact aimed_call h hd hp haimed hsafe
  | install q a =>
    by_cases hq : q = p
    · subst hq
      refine aimed_install ?_ (.inl haimed)
      by_contra hother
      exact hsafe ⟨rfl, hother⟩
    · exact aimed_install_of_ne a hq haimed
  | detach q a => exact aimed_detach q a haimed
  | deliver q status =>
    exact haimed.of_handover (.inl (Machine.target?_congr (Machine.running_deliver q status) p))
      (Machine.handover_deliver q status)
  | signalAll a status =>
    exact haimed.of_handover (.inl (Machine.target?_congr (Machine.running_signalAll a status) p))
      (Machine.handover_signalAll a status)

/-! ## Signals in every run -/

/-- Handlers that nobody has are aimed. -/
theorem Start.aimed (h : c.Start) (p : Pid) : c.host.Aimed p := by
  intro t ht
  obtain ⟨r, hr, htarget⟩ := Option.bind_eq_some_iff.1 ht
  rw [h.target_eq r (List.mem_of_find?_eq_some hr)] at htarget
  cases htarget

/-- In every run mappings and handlers refer to what is there. -/
theorem Sound.after (h : c.Sound) (hruns : c.Runs deeds) : (c.after deeds).Sound := by
  induction deeds generalizing c with
  | nil => exact h
  | cons d deeds ih => exact ih (h.next hruns.1) hruns.2

/-- In a run that does not threaten a process its handlers stay aimed. -/
theorem aimed_after (h : c.Sound) (hruns : c.Runs deeds) (hp : p ≠ 0) (haimed : c.host.Aimed p)
    (hsafe : c.Along (fun c d => ¬ c.threatens p d) deeds) : (c.after deeds).host.Aimed p := by
  induction deeds generalizing c with
  | nil => exact haimed
  | cons d deeds ih =>
    exact ih (h.next hruns.1) hruns.2 (aimed_next h hruns.1 hp haimed hsafe.1) hsafe.2

/-- In every run from a host where nobody has handlers, signals to a process change at most the
status of its own slot exactly if its handlers are aimed. They stay aimed until the process gives
its slot back or is reaped by somebody who takes it for dead, and they are aimed again when it has
installed them for a slot that it has. -/
theorem restates_iff_aimed_of_runs (hstart : c.Start) (hruns : c.Runs deeds) (hp : p ≠ 0) :
    ((c.after deeds).host.Restates p ↔ (c.after deeds).host.Aimed p) ∧
    (∀ later, (c.after deeds).Runs later →
      (c.after deeds).Along (fun c d => ¬ c.threatens p d) later →
        (c.after deeds).host.Aimed p → ((c.after deeds).after later).host.Aimed p) ∧
    ∀ a : Attachment, a.pid = p →
      (((c.after deeds).host.member a).mySlot? ((c.after deeds).host.seat a)).1.isSome →
        ((c.after deeds).next (.install p a)).host.Aimed p := by
  -- All three parts rest on handlers pointing at slots that there are.
  have hsound := hstart.sound.after hruns
  refine ⟨?_, fun later hlater hsafe haimed => ?_, fun a hown hslot => ?_⟩
  · apply Machine.restates_iff_aimed
    intro t ht
    have hstands := hsound.target?_stands ht
    exact ⟨hstands.lt_size, hstands.lt_maxProcesses⟩
  · exact aimed_after hsound hlater hp haimed hsafe
  · exact aimed_install hown (.inr hslot)

/-! ## A process that comes and goes -/

deriving instance DecidableEq for Attachment

/-- A host without processes and without files. -/
def bare : Roster where
  host := { clock := 0 }

/-- A mapping of the region file. -/
def mapping (n : Nat) (p : Pid) (remembered : Option Nat) : Attachment where
  mapping := n
  node := 0
  pid := p
  settings := { path := "region" }
  remembered := remembered

/-- Two processes start, and the first one registers and installs its handlers. -/
def arrival : List Deed :=
  [.start, .start, .attach 100 { path := "region" } .actual,
    .call 100 (mapping 0 100 none) .registerSelf, .install 100 (mapping 0 100 (some 0))]

/-- It gives its slot back, and the second one registers. -/
def departure : List Deed :=
  [.call 100 (mapping 0 100 (some 0)) .removeSelf, .attach 101 { path := "region" } .actual,
    .call 101 (mapping 1 101 none) .registerSelf]

/-- Such a host is a start. -/
theorem start_bare : bare.Start where
  orderly := ⟨Files.sound_empty, fun _ => Region.Orderly.ofBytes_empty⟩
  mapped_eq := rfl
  target_eq := List.forall_mem_nil _

/-- The first part of the run can happen. -/
theorem runs_arrival : bare.Runs arrival := by
  refine ⟨trivial, trivial, ⟨?_, by decide⟩, ?_, ?_, trivial⟩
  · decide +kernel
  · show (_, _) ∈ _
    decide +kernel
  · show (_, _) ∈ _
    decide +kernel

/-- So can the second part, right after it. -/
theorem runs_departure : (bare.after arrival).Runs departure := by
  refine ⟨?_, ⟨?_, by decide⟩, ?_, trivial⟩
  · show (_, _) ∈ _
    decide +kernel
  · decide +kernel
  · show (_, _) ∈ _
    decide +kernel

/-- Signals to a process that has just installed its handlers stay with it. -/
theorem restates_iff_aimed_of_arrival :
    bare.Start ∧ bare.Runs arrival ∧ (100 : Pid) ≠ 0 ∧ (bare.after arrival).host.Restates 100 := by
  have hp : (100 : Pid) ≠ 0 := by decide
  have hnone : bare.Runs [] := trivial
  obtain ⟨-, hlater, -⟩ := restates_iff_aimed_of_runs start_bare hnone hp
  obtain ⟨hiff, -, -⟩ := restates_iff_aimed_of_runs start_bare runs_arrival hp
  -- Nothing in the arrival threatens the process: it calls for itself, and nobody reaps it.
  have hsafe : bare.Along (fun c d => ¬ c.threatens 100 d) arrival := by
    refine ⟨id, id, id, ?_, ?_, trivial⟩
    · rintro (⟨hcall, -⟩ | ⟨-, hother, -⟩)
      · cases hcall
      · exact hother rfl
    · exact fun h => h.2 rfl
  exact ⟨start_bare, runs_arrival, hp,
    hiff.2 (hlater arrival runs_arrival hsafe (start_bare.aimed 100))⟩

/-- Signals do not always stay with the process that they are sent to: when it has given its slot
back, they reach whoever registered next. -/
theorem not_restates : ¬ ∀ (c : Roster) (deeds : List Deed) (p : Pid), c.Start → c.Runs deeds →
    p ≠ 0 → (c.after deeds).host.Restates p := by
  intro h
  have hruns : bare.Runs (arrival ++ departure) :=
    along_append.2 ⟨runs_arrival, runs_departure⟩
  have hsound := start_bare.sound.after hruns
  have haimed : (bare.after (arrival ++ departure)).host.Aimed 100 := by
    refine (Machine.restates_iff_aimed fun t ht => ?_).1
      (h bare (arrival ++ departure) 100 start_bare hruns (by decide))
    have hstands := hsound.target?_stands ht
    exact ⟨hstands.lt_size, hstands.lt_maxProcesses⟩
  -- The handlers still point at the first slot, which belongs to the other process now.
  have htarget : (bare.after (arrival ++ departure)).host.target? 100 = some ⟨0, 0, 0⟩ := by
    decide +kernel
  have hpid : (((bare.after (arrival ++ departure)).host.region 0).slotAt ⟨0, by decide⟩).pid =
      101 := by
    decide +kernel
  have hown := haimed _ htarget ⟨0, by decide⟩ rfl
  rw [hpid] at hown
  exact absurd hown (by decide)

end Roster

end GpuQuota
