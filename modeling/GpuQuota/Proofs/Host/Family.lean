import GpuQuota.Proofs.Host.Context
import Mathlib.Logic.Relation

/-!
# Families of processes

Processes fork, and the child of a process starts with the context of its parent. A process that
asks for a context compares identifiers: one that it made itself is given to it again, while an
inherited one is replaced by one of its own. So in a family of processes each one has exactly one
slot from the time it asked, and none before that, however they were forked and whatever they
allocate through contexts that they inherited.

The module introduces:

* `Family` — processes that descend from one another, on a host.
* `Family.Step` — one of them forks, asks for its context, allocates, or leaves.
* `Family.Start`, `Family.Sound` — where families begin, and what holds from then on.
* `Family.Step.sound` — the step lemma.
* `Family.apart_of_run` — the slots and contexts of a family in every run.
-/

namespace GpuQuota

/-- Processes that descend from one another, on a host. -/
structure Family (σ μ : Type) where
  /-- The host. -/
  host : Machine
  /-- The processes that have not left, each under its identifier. -/
  members : Pid → Option (Workload σ μ)
  /-- The identifiers that are taken for good: by processes of the family, whether or not they have
  left, and by whoever was there before. -/
  taken : List Pid
  /-- The processes that asked for their context themselves and got one. -/
  callers : List Pid := []
  /-- What the contexts have mapped that processes had when they asked for one. Whoever holds such
  a context may still use it after it was replaced. -/
  former : List Attachment := []

namespace Family

variable {σ μ : Type}

/-- A process that has not left. -/
def Living (F : Family σ μ) (p : Workload σ μ) : Prop := F.members p.pid = some p

/-! ## Steps -/

/-- A process forks. -/
def fork (F : Family σ μ) (p : Workload σ μ) (child : Pid) : Family σ μ :=
  let forked := p.fork { F.host with nextPid := child }
  { F with
    host := forked.2
    members := Function.update F.members child (some forked.1)
    taken := child :: F.taken }

/-- The child has what its parent hands on when it forks. -/
theorem members_fork (F : Family σ μ) (p : Workload σ μ) (child : Pid) :
    (F.fork p child).members child = some (p.fork { F.host with nextPid := child }).1 :=
  Function.update_self child _ _

/-- A process leaves, in good order or not. -/
def leave (F : Family σ μ) (p : Workload σ μ) (how : Leaving) : Family σ μ :=
  { F with
    host := (p.leave F.host how).2
    members := Function.update F.members p.pid none }

/-- The environment of a process changes, others use its device, and time passes. -/
def adapt (F : Family σ μ) (p : Workload σ μ) (env : Environment) (driver : σ) (now : UInt64) :
    Family σ μ :=
  { F with
    host := { F.host with clock := now }
    members := Function.update F.members p.pid (some { p with env, driver }) }

section

variable [DeviceDriver σ]

/-- A process asks for its context. -/
def ensure (F : Family σ μ) (p : Workload σ μ) : Family σ μ :=
  let ensured := p.ensure F.host
  { F with
    host := ensured.2.2
    members := Function.update F.members p.pid (some ensured.2.1)
    callers := p.pid :: F.callers
    former := p.mapped?.toList ++ F.former }

/-- A process that has asked for its context goes on with what it was given. -/
theorem members_ensure (F : Family σ μ) (p : Workload σ μ) :
    (F.ensure p).members p.pid = some (p.ensure F.host).2.1 :=
  Function.update_self p.pid _ _

/-- A process allocates or frees through its context, if it has one. -/
def allocate (F : Family σ μ) (p : Workload σ μ) (call : AllocCall) : Family σ μ :=
  match p.act F.host call.ask with
  | some (_, q, host) => { F with host, members := Function.update F.members p.pid (some q) }
  | none => F

/-- A process allocates or frees through a context that was replaced, whatever was tracked there. -/
def allocateThrough (F : Family σ μ) (p : Workload σ μ) (c : Context) (call : AllocCall) :
    Family σ μ :=
  match { p with context := some c }.act F.host call.ask with
  | some (_, q, host) =>
    { F with
      host
      members := Function.update F.members p.pid (some { p with driver := q.driver }) }
  | none => F

/-- What one process does, or what happens to it. A child gets an identifier that nobody has or
had, and asking for a context succeeds. -/
inductive Step (F : Family σ μ) : Family σ μ → Prop
  | fork {p : Workload σ μ} (hp : F.Living p) (child : Pid) (hpos : 0 < child)
    (hnew : child ∉ F.taken) : Step F (F.fork p child)
  | ensure {p : Workload σ μ} (hp : F.Living p) {same : Bool}
    (hready : (p.ensure F.host).1 = .ready same) : Step F (F.ensure p)
  | allocate {p : Workload σ μ} (hp : F.Living p) (call : AllocCall) : Step F (F.allocate p call)
  | allocateThrough {p : Workload σ μ} (hp : F.Living p) {c : Context}
    (hc : { c.attachment with remembered := none } ∈ F.former) (call : AllocCall) :
    Step F (F.allocateThrough p c call)
  | leave {p : Workload σ μ} (hp : F.Living p) (how : Leaving) : Step F (F.leave p how)
  | adapt {p : Workload σ μ} (hp : F.Living p) (env : Environment) (driver : σ) (now : UInt64) :
    Step F (F.adapt p env driver now)

end

/-! ## What holds of a family -/

/-- Nobody has asked for a context yet, and no process of the family has a slot. -/
structure Start (F : Family σ μ) : Prop where
  orderly : F.host.Orderly
  running : ∀ r ∈ F.host.running, r.pid ∈ F.taken
  owners : ∀ pid, pid ≠ 0 → (F.host.slotsOf pid).Nonempty → pid ∈ F.taken
  callers_eq : F.callers = []
  former_eq : F.former = []
  members : ∀ pid p, F.members pid = some p →
    p.pid = pid ∧ pid ∈ F.taken ∧ F.host.alive .actual pid ∧ p.context = none ∧
      F.host.slotsOf pid = ∅

/-- A process that asked for its context has its own, and the one slot that goes with it; one that
did not may have inherited a context, and has no slot. -/
structure Placed (F : Family σ μ) (p : Workload σ μ) : Prop where
  alive : F.host.alive .actual p.pid
  taken : p.pid ∈ F.taken
  mapped : ∀ a, p.mapped? = some a → a.Stands F.host ∧ a.liveness = .actual ∧ a.pid ∈ F.taken
  own : p.pid ∈ F.callers → ∃ a i, p.mapped? = some a ∧ a.pid = p.pid ∧
    p.releasesAtExit ∧ F.host.slotsOf p.pid = {(a.node, i)}
  inherited : p.pid ∉ F.callers →
    (∀ a, p.mapped? = some a → a.pid ≠ p.pid) ∧ F.host.slotsOf p.pid = ∅

/-- All processes that have not left are in place, and identifiers that are not taken are fresh. -/
structure Sound (F : Family σ μ) : Prop where
  orderly : F.host.Orderly
  running : ∀ r ∈ F.host.running, r.pid ∈ F.taken
  owners : ∀ pid, pid ≠ 0 → (F.host.slotsOf pid).Nonempty → pid ∈ F.taken
  callers : ∀ pid ∈ F.callers, pid ∈ F.taken
  former : ∀ a ∈ F.former, a.Stands F.host ∧ a.liveness = .actual
  members : ∀ pid p, F.members pid = some p → p.pid = pid ∧ F.Placed p

variable {F F' : Family σ μ} {p p' : Workload σ μ} {pid : Pid}

/-- A family begins sound: its processes have no context yet. -/
theorem Start.sound (h : F.Start) : F.Sound where
  orderly := h.orderly
  running := h.running
  owners := h.owners
  callers pid hpid := by
    rw [h.callers_eq] at hpid
    cases hpid
  former a ha := by
    rw [h.former_eq] at ha
    cases ha
  members pid p hp := by
    obtain ⟨rfl, htaken, halive, hcontext, hslots⟩ := h.members pid p hp
    -- Without a context there is nothing mapped, and nobody has asked.
    have hmapped : ∀ a, p.mapped? ≠ some a := by simp [Workload.mapped?, hcontext]
    refine ⟨rfl, halive, htaken, fun a ha => absurd ha (hmapped a), fun hcall => ?_, fun _ => ?_⟩
    · rw [h.callers_eq] at hcall
      cases hcall
    · exact ⟨fun a ha => absurd ha (hmapped a), hslots⟩

/-- The context of a process is its own exactly if the process asked for it. -/
theorem Placed.any_owns_iff (h : F.Placed p) : p.context.any p.owns ↔ p.pid ∈ F.callers := by
  rw [Workload.any_owns_iff]
  constructor
  · rintro ⟨a, ha, hpid⟩
    by_contra hnot
    exact (h.inherited hnot).1 a ha hpid
  · intro hcall
    obtain ⟨a, -, ha, hpid, -⟩ := h.own hcall
    exact ⟨a, ha, hpid⟩

/-- A process stays in place where its mapping and its slots stay, and it is not ended. -/
theorem Placed.mono (h : F.Placed p) (hpid : p'.pid = p.pid) (hmapped : p'.mapped? = p.mapped?)
    (hreleases : p'.releasesAtExit = p.releasesAtExit) (hup : F.host.Upholds F'.host)
    (halive : F'.host.alive .actual p.pid) (hslots : F'.host.slotsOf p.pid = F.host.slotsOf p.pid)
    (htaken : ∀ q ∈ F.taken, q ∈ F'.taken)
    (hcallers : p.pid ∈ F'.callers ↔ p.pid ∈ F.callers) : F'.Placed p' where
  alive := hpid ▸ halive
  taken := hpid ▸ htaken _ h.taken
  mapped a ha := by
    obtain ⟨hstands, hliveness, ha⟩ := h.mapped a (hmapped ▸ ha)
    exact ⟨hstands.mono hup, hliveness, htaken _ ha⟩
  own := by
    rw [hpid, hcallers, hmapped, hreleases, hslots]
    exact h.own
  inherited := by
    rw [hpid, hcallers, hmapped, hslots]
    exact h.inherited

/-- A process stays in place where everybody is spared. -/
theorem Placed.of_sparesAll (h : F.Placed p) (hspares : F.host.SparesAll F'.host)
    (hpid : p'.pid = p.pid) (hmapped : p'.mapped? = p.mapped?)
    (hreleases : p'.releasesAtExit = p.releasesAtExit) (htaken : F'.taken = F.taken)
    (hcallers : p.pid ∈ F'.callers ↔ p.pid ∈ F.callers) : F'.Placed p' :=
  h.mono hpid hmapped hreleases hspares.upholds (hspares.alive h.alive)
    (hspares.slotsOf_eq h.alive) (fun _ => htaken ▸ id) hcallers

/-- A process that has become a tenant is in place. -/
theorem Placed.of_entered (h : F.Placed p) (hnone : F.host.slotsOf p.pid = ∅) {a : Attachment}
    (hentered : p.Entered F.host p' F'.host a) (htaken : F'.taken = F.taken)
    (hcallers : p.pid ∈ F'.callers) : F'.Placed p' := by
  have hpid := hentered.pid_eq
  obtain ⟨i, hslots⟩ := hentered.slots hnone
  have hown : a.pid ∈ F'.taken := by
    rw [htaken, hentered.own]
    exact h.taken
  constructor
  · rw [hpid]
    exact hentered.alive h.alive
  · rw [hpid, htaken]
    exact h.taken
  · -- The context that the process has entered is the only one that it has now.
    intro a' ha'
    obtain rfl := Option.some.inj (ha'.symm.trans hentered.mapped)
    exact ⟨hentered.stands, hentered.liveness, hown⟩
  · intro _
    rw [hpid]
    exact ⟨a, i, hentered.mapped, hentered.own, hentered.releases, hslots⟩
  · intro hnot
    rw [hpid] at hnot
    exact absurd hcallers hnot

/-- A process that did not ask for a context changes no file when it leaves. -/
theorem Placed.files_leave (h : F.Placed p) (hnot : p.pid ∉ F.callers) (how : Leaving) :
    (p.leave F.host how).2.files = F.host.files := by
  rw [Workload.leave_of_not_owns (mt h.any_owns_iff.1 hnot)]
  rfl

/-- Whoever leaves in good order, while nobody has the lock of its region, clears the slot that it
has, and no other. -/
theorem Placed.slotAt_leave (h : F.Placed p) (horderly : F.host.Orderly)
    (hlock : ∀ c, p.context = some c → 0 < (F.host.region c.attachment.node).lock.count)
    (node : NodeId) (i : Fin maxProcesses) :
    ((p.leave F.host .exit).2.region node).slotAt i =
      if ((F.host.region node).slotAt i).pid = p.pid then .empty
      else (F.host.region node).slotAt i := by
  by_cases hcall : p.pid ∈ F.callers
  · obtain ⟨a, j, ha, hpid, hreleases, hslots⟩ := h.own hcall
    obtain ⟨c, hc, rfl⟩ := Workload.mapped?_eq_some_iff.1 ha
    have hstands := (h.mapped _ ha).1.remember c.attachment.remembered
    apply Workload.slotAt_leave horderly hc (beq_iff_eq.2 hpid) hreleases hstands
    · rw [hslots]
      rintro x rfl
      rfl
    · exact hlock c hc
  · -- There is no slot to clear.
    rw [Machine.region_congr (h.files_leave hcall .exit), if_neg]
    intro hi
    have hslots := (h.inherited hcall).2
    exact Set.eq_empty_iff_forall_notMem.1 hslots (node, i) hi

/-- A step of one process that spares all others, and leaves that process in place, leaves the
family sound. -/
theorem Sound.of_spares (h : F.Sound) (hspares : F.host.Spares pid F'.host)
    (htaken : ∀ q ∈ F.taken, q ∈ F'.taken) (hpid : pid ∈ F'.taken)
    (hcallers : ∀ q, q ≠ pid → (q ∈ F'.callers ↔ q ∈ F.callers))
    (hformer : ∀ a ∈ F'.former, a ∈ F.former ∨ a.Stands F.host ∧ a.liveness = .actual)
    (hmembers : ∀ q, q ≠ pid → F'.members q = F.members q)
    (hplaced : ∀ p, F'.members pid = some p → p.pid = pid ∧ F'.Placed p) : F'.Sound where
  orderly := hspares.orderly
  -- Everything is checked for the process itself first, and then for the others, whom the step
  -- spares.
  running r hr := by
    by_cases hne : r.pid = pid
    · exact hne ▸ hpid
    · obtain ⟨r', hr', heq⟩ := hspares.running r hr hne
      exact heq ▸ htaken _ (h.running r' hr')
  owners q hq hslots := by
    by_cases hne : q = pid
    · exact hne ▸ hpid
    · exact htaken q (h.owners q hq (hslots.mono (hspares.slotsOf_subset hq hne)))
  callers q hq := by
    by_cases hne : q = pid
    · exact hne ▸ hpid
    · exact htaken q (h.callers q ((hcallers q hne).1 hq))
  former a ha := by
    obtain ⟨hstands, hliveness⟩ := (hformer a ha).elim (h.former a) id
    exact ⟨hstands.mono hspares.upholds, hliveness⟩
  members q p hp := by
    by_cases hne : q = pid
    · subst hne
      exact hplaced p hp
    · rw [hmembers q hne] at hp
      obtain ⟨rfl, hstays⟩ := h.members q p hp
      exact ⟨rfl, hstays.mono rfl rfl rfl hspares.upholds (hspares.alive _ hne hstays.alive)
        (hspares.slotsOf_eq hne hstays.alive) htaken (hcallers _ hne)⟩

/-- Whoever has not left is in place. -/
theorem Sound.placed (h : F.Sound) (hp : F.Living p) : F.Placed p := (h.members _ p hp).2

/-- Members are found under their own identifiers. -/
theorem Sound.living (h : F.Sound) (hp : F.members pid = some p) : F.Living p := by
  obtain ⟨rfl, -⟩ := h.members pid p hp
  exact hp

/-! ## One step -/

/-- The workload that a step leaves under an identifier. -/
theorem of_update_self {members : Pid → Option (Workload σ μ)}
    (hp : Function.update members pid (some p') pid = some p) : p = p' := by
  rw [Function.update_self] at hp
  exact (Option.some.inj hp).symm

/-- Forking keeps a family sound: the child takes an identifier that nobody has had. -/
theorem Sound.fork (h : F.Sound) (hp : F.Living p) {child : Pid} (hpos : 0 < child)
    (hnew : child ∉ F.taken) : (F.fork p child).Sound := by
  apply h.of_spares (.start h.orderly child _)
  · exact fun q hq => List.mem_cons_of_mem _ hq
  · exact List.mem_cons_self
  · exact fun q _ => .rfl
  · exact fun a ha => .inl ha
  · exact fun q hne => Function.update_of_ne hne _ _
  · intro q hq
    obtain rfl := of_update_self hq
    -- The identifier is new, so no slot is left that somebody had under it before.
    have hslots : F.host.slotsOf child = ∅ := by
      by_contra hslots
      exact hnew (h.owners child hpos.ne' (Set.nonempty_iff_ne_empty.2 hslots))
    have hfiles : (F.fork p child).host.files = F.host.files := rfl
    have hpid : (p.fork { F.host with nextPid := child }).1.pid = child := rfl
    have hmapped := p.mapped?_fork { F.host with nextPid := child }
    have halive : (F.fork p child).host.alive .actual child := by
      apply Machine.alive_start_self hpos
      rintro r hr rfl
      exact hnew (h.running r hr)
    refine ⟨hpid, halive, List.mem_cons_self, fun a ha => ?_, fun hcall => ?_,
      fun _ => ⟨fun a ha => ?_, ?_⟩⟩
    · obtain ⟨hstands, hliveness, htaken⟩ := (h.placed hp).mapped a (hmapped.symm.trans ha)
      exact ⟨hstands.mono (.of_files hfiles), hliveness, List.mem_cons_of_mem _ htaken⟩
    · exact absurd (h.callers _ hcall) hnew
    · -- What the child inherited belongs to somebody who was there before.
      obtain ⟨-, -, htaken⟩ := (h.placed hp).mapped a (hmapped.symm.trans ha)
      rintro rfl
      exact hnew htaken
    · exact (Machine.slotsOf_congr hfiles child).trans hslots

/-- So does leaving, in whatever way. -/
theorem Sound.leave (h : F.Sound) (hp : F.Living p) (how : Leaving) : (F.leave p how).Sound := by
  have hplaced := h.placed hp
  -- The process clears nothing but its own slot, in the region that it has mapped.
  have hspares : F.host.Spares p.pid (p.leave F.host how).2 := by
    apply Workload.spares_leave h.orderly
    · intro c hc
      have hstands := (hplaced.mapped _ (by rw [Workload.mapped?, hc]; rfl)).1
      exact hstands.remember c.attachment.remembered
    · intro hown
      obtain ⟨a, i, -, -, hreleases, -⟩ := hplaced.own (hplaced.any_owns_iff.1 hown)
      exact hreleases
  apply h.of_spares hspares
  · exact fun q hq => hq
  · exact hplaced.taken
  · exact fun q _ => .rfl
  · exact fun a ha => .inl ha
  · exact fun q hne => Function.update_of_ne hne _ _
  · intro q hq
    change Function.update F.members p.pid none p.pid = some q at hq
    rw [Function.update_self] at hq
    cases hq

/-- A process changes, but neither its mapping nor the slots of anybody. -/
theorem Sound.update (h : F.Sound) (hp : F.Living p) {host : Machine}
    (hspares : F.host.SparesAll host) (hpid : p'.pid = p.pid) (hmapped : p'.mapped? = p.mapped?)
    (hreleases : p'.releasesAtExit = p.releasesAtExit) :
    Sound { F with host, members := Function.update F.members p.pid (some p') } := by
  -- Slots and mappings of all others are as they were, so only the member itself is checked.
  apply h.of_spares (hspares.spares p.pid)
  · exact fun q hq => hq
  · exact (h.placed hp).taken
  · exact fun q _ => .rfl
  · exact fun a ha => .inl ha
  · exact fun q hne => Function.update_of_ne hne _ _
  · intro q hq
    obtain rfl := of_update_self hq
    exact ⟨hpid, (h.placed hp).of_sparesAll hspares hpid hmapped hreleases rfl .rfl⟩

/-- So does a change of the surroundings of one process. -/
theorem Sound.adapt (h : F.Sound) (hp : F.Living p) (env : Environment) (driver : σ)
    (now : UInt64) : (F.adapt p env driver now).Sound :=
  h.update hp (.of_eq h.orderly rfl rfl) rfl rfl rfl

section

variable [DeviceDriver σ]

/-- Without a context there is nothing to allocate through. -/
theorem allocate_of_none (ha : p.mapped? = none) (call : AllocCall) : F.allocate p call = F := by
  have hnone : p.act F.host call.ask = none := by
    rw [Workload.act, Option.map_eq_none_iff.1 ha]
    rfl
  rw [Family.allocate, hnone]

/-- So does an allocation, whether or not the process has a context. -/
theorem Sound.allocate (h : F.Sound) (hp : F.Living p) (call : AllocCall) :
    (F.allocate p call).Sound := by
  cases ha : p.mapped? with
  | none => rwa [allocate_of_none ha]
  | some a =>
    obtain ⟨hstands, hliveness, -⟩ := (h.placed hp).mapped a ha
    -- What the allocator does is done to the own slot, and everybody else is spared.
    obtain ⟨q, host, hact, hpid, hmapped, hreleases, hspares⟩ :=
      Workload.sparesAll_act h.orderly ha hstands hliveness call
    rw [Family.allocate, hact]
    exact h.update hp hspares hpid hmapped hreleases

/-- So does an allocation through a context that was replaced. -/
theorem Sound.allocateThrough (h : F.Sound) (hp : F.Living p) {c : Context}
    (hc : { c.attachment with remembered := none } ∈ F.former) (call : AllocCall) :
    (F.allocateThrough p c call).Sound := by
  obtain ⟨hstands, hliveness⟩ := h.former _ hc
  obtain ⟨q, host, hact, -, -, -, hspares⟩ :=
    Workload.sparesAll_act (p := { p with context := some c }) h.orderly rfl hstands hliveness call
  rw [Family.allocateThrough, hact]
  exact h.update hp hspares rfl rfl rfl

/-- A process that has its own context gets nothing new. -/
theorem ensure_of_owns (hp : F.Living p) (hown : p.context.any p.owns) :
    F.ensure p =
      { F with callers := p.pid :: F.callers, former := p.mapped?.toList ++ F.former } := by
  rw [Family.ensure, Workload.ensure_of_owns hown, ← show F.members p.pid = some p from hp,
    Function.update_eq_self]

/-- So does asking for a context, as long as there is one to be had. -/
theorem Sound.ensure (h : F.Sound) (hp : F.Living p) {same : Bool}
    (hready : (p.ensure F.host).1 = .ready same) : (F.ensure p).Sound := by
  have hplaced := h.placed hp
  -- What becomes of the process depends on whose context it has.
  have hstep : F.host.Spares p.pid (F.ensure p).host ∧
      ∀ q, (F.ensure p).members p.pid = some q → q.pid = p.pid ∧ (F.ensure p).Placed q := by
    by_cases hown : p.context.any p.owns
    · have hcall := hplaced.any_owns_iff.1 hown
      have hensure := ensure_of_owns hp hown
      have hspares : F.host.SparesAll (F.ensure p).host := by
        rw [hensure]
        exact .of_eq h.orderly rfl rfl
      refine ⟨hspares.spares p.pid, fun q hq => ?_⟩
      rw [hensure] at hq
      obtain rfl := Option.some.inj (hq.symm.trans hp)
      exact ⟨rfl, hplaced.of_sparesAll hspares rfl rfl rfl rfl
        (iff_of_true List.mem_cons_self hcall)⟩
    · have hpid := Machine.ne_zero_of_alive hplaced.alive
      obtain ⟨-, hnone⟩ := hplaced.inherited (mt hplaced.any_owns_iff.2 hown)
      obtain ⟨-, a, hentered⟩ := Workload.entered_of_ensure h.orderly hpid hown hready
      refine ⟨hentered.spares, fun q hq => ?_⟩
      obtain rfl := of_update_self hq
      exact ⟨hentered.pid_eq, hplaced.of_entered hnone hentered rfl List.mem_cons_self⟩
  apply h.of_spares hstep.1
  · exact fun q hq => hq
  · exact hplaced.taken
  · exact fun q hne => List.mem_cons.trans (or_iff_right hne)
  · intro a ha
    rcases List.mem_append.1 ha with hown | hformer
    · obtain ⟨hstands, hliveness, -⟩ := hplaced.mapped a (Option.mem_toList.1 hown)
      exact .inr ⟨hstands, hliveness⟩
    · exact .inl hformer
  · exact fun q hne => Function.update_of_ne hne _ _
  · exact hstep.2

/-- Every step keeps a family sound. -/
theorem Step.sound (hstep : F.Step F') (h : F.Sound) : F'.Sound := by
  cases hstep with
  | fork hp child hpos hnew => exact h.fork hp hpos hnew
  | ensure hp hready => exact h.ensure hp hready
  | allocate hp call => exact h.allocate hp call
  | allocateThrough hp hc call => exact h.allocateThrough hp hc call
  | leave hp how => exact h.leave hp how
  | adapt hp env driver now => exact h.adapt hp env driver now

/-! ## Contexts stay -/

/-- Whoever asks for its context gets one under its own identifier: the one that it had, if it
asked before. -/
theorem Placed.ensure_ready (hp : F.Placed p) (h : F.host.Orderly) {same : Bool}
    (hready : (p.ensure F.host).1 = .ready same) : (same ↔ p.pid ∈ F.callers) ∧
      ∃ c, (p.ensure F.host).2.1.context = some c ∧ c.attachment.pid = p.pid := by
  -- Whoever has asked before goes on with its own context; the others are given one.
  by_cases hcall : p.pid ∈ F.callers
  · obtain ⟨a, -, ha, hpid, -⟩ := hp.own hcall
    obtain ⟨c, hc, rfl⟩ := Workload.mapped?_eq_some_iff.1 ha
    rw [Workload.ensure_of_owns (hp.any_owns_iff.2 hcall)] at hready ⊢
    cases hready
    exact ⟨iff_of_true rfl hcall, c, hc, hpid⟩
  · have hnot := mt hp.any_owns_iff.1 hcall
    have hpid := Machine.ne_zero_of_alive hp.alive
    obtain ⟨rfl, a, hentered⟩ := Workload.entered_of_ensure h hpid hnot hready
    obtain ⟨c, hc, rfl⟩ := Workload.mapped?_eq_some_iff.1 hentered.mapped
    exact ⟨iff_of_false Bool.false_ne_true hcall, c, hc, hentered.own⟩

omit [DeviceDriver σ] in
/-- Where one process changes but for its mapping, everybody has the mapping that it had. -/
theorem mapped?_of_update {q : Workload σ μ} (hp : F.Living p) (hq : q.mapped? = p.mapped?)
    (hp' : Function.update F.members p.pid (some q) pid = some p') :
    ∃ p, F.members pid = some p ∧ p'.mapped? = p.mapped? := by
  by_cases hpid : pid = p.pid
  · subst hpid
    obtain rfl := of_update_self hp'
    exact ⟨p, hp, hq⟩
  · rw [Function.update_of_ne hpid] at hp'
    exact ⟨p', hp', rfl⟩

/-- A process that asked for its context keeps it, and does not come back after it has left. -/
theorem Step.mapped?_eq (hstep : F.Step F') (h : F.Sound) (hcall : pid ∈ F.callers)
    (hp' : F'.members pid = some p') :
    ∃ p, F.members pid = some p ∧ p'.mapped? = p.mapped? := by
  cases hstep with
  | @fork p hp child hpos hnew =>
    refine ⟨p', ?_, rfl⟩
    change Function.update F.members child _ pid = some p' at hp'
    rwa [Function.update_of_ne] at hp'
    rintro rfl
    exact hnew (h.callers _ hcall)
  | @ensure p hp same hready =>
    by_cases hpid : pid = p.pid
    · subst hpid
      rw [ensure_of_owns hp ((h.placed hp).any_owns_iff.2 hcall)] at hp'
      exact ⟨p', hp', rfl⟩
    · change Function.update F.members p.pid _ pid = some p' at hp'
      rw [Function.update_of_ne hpid] at hp'
      exact ⟨p', hp', rfl⟩
  | @allocate p hp call =>
    -- Without a mapping no operation is carried out.
    cases ha : p.mapped? with
    | none =>
      rw [allocate_of_none ha] at hp'
      exact ⟨p', hp', rfl⟩
    | some a =>
      obtain ⟨hstands, hliveness, -⟩ := (h.placed hp).mapped a ha
      obtain ⟨q, host, hact, -, hmapped, -⟩ :=
        Workload.sparesAll_act h.orderly ha hstands hliveness call
      rw [Family.allocate, hact] at hp'
      exact mapped?_of_update hp hmapped hp'
  | @allocateThrough p hp c hc call =>
    rw [Family.allocateThrough] at hp'
    split at hp'
    next q host _ => exact mapped?_of_update (q := { p with driver := q.driver }) hp rfl hp'
    next => exact ⟨p', hp', rfl⟩
  | @leave p hp how =>
    change Function.update F.members p.pid none pid = some p' at hp'
    by_cases hpid : pid = p.pid
    · rw [hpid, Function.update_self] at hp'
      cases hp'
    · rw [Function.update_of_ne hpid] at hp'
      exact ⟨p', hp', rfl⟩
  | @adapt p hp env driver now =>
    exact mapped?_of_update (q := { p with env, driver }) hp rfl hp'

/-- Who has asked for a context stays among those who have asked. -/
theorem Step.callers_subset (hstep : F.Step F') (hcall : pid ∈ F.callers) : pid ∈ F'.callers := by
  -- Only asking for a context is noted; the other steps leave the list alone.
  cases hstep with
  | ensure => exact List.mem_cons_of_mem _ hcall
  | allocate =>
    rw [Family.allocate]
    split <;> exact hcall
  | allocateThrough =>
    rw [Family.allocateThrough]
    split <;> exact hcall
  | fork | leave | adapt => exact hcall

/-! ## Runs -/

/-- Every run keeps a family sound. -/
theorem Sound.of_run (h : F.Sound) (hrun : Relation.ReflTransGen Step F F') : F'.Sound := by
  induction hrun with
  | refl => exact h
  | tail _ hstep ih => exact hstep.sound ih

/-- Who has asked for a context has the same mapping after every run that it lives through. -/
theorem mapped?_of_run (h : F.Sound) (hrun : Relation.ReflTransGen Step F F')
    (hcall : pid ∈ F.callers) : pid ∈ F'.callers ∧ ∀ p', F'.members pid = some p' →
      ∃ p, F.members pid = some p ∧ p'.mapped? = p.mapped? := by
  -- The induction is on the run; its last step changes no mapping of who has asked.
  induction hrun with
  | refl => exact ⟨hcall, fun p hp => ⟨p, hp, rfl⟩⟩
  | tail hbefore hstep ih =>
    obtain ⟨hcalled, hkept⟩ := ih
    refine ⟨hstep.callers_subset hcalled, fun p'' hp'' => ?_⟩
    obtain ⟨p', hp', hmapped⟩ := hstep.mapped?_eq (h.of_run hbefore) hcalled hp''
    obtain ⟨p, hp, hsame⟩ := hkept p' hp'
    exact ⟨p, hp, hmapped.trans hsame⟩

/-- In every run of a family, whoever asks for its context gets one under its own identifier; once
it has one, asking again changes nothing, and gives the same context for as long as it lives. It
has exactly one slot if it asked, and none otherwise. When it leaves in good order, while nobody
has the lock of its region, its own slot is cleared and no other; a process that did not ask changes
no file. -/
theorem apart_of_run {F₀ : Family σ μ} (hstart : F₀.Start)
    (hrun : Relation.ReflTransGen Step F₀ F) (hp : F.Living p) :
    (∀ same, (p.ensure F.host).1 = .ready same → (same ↔ p.pid ∈ F.callers) ∧
      ∃ c, (p.ensure F.host).2.1.context = some c ∧ c.attachment.pid = p.pid) ∧
    (p.pid ∈ F.callers → p.ensure F.host = (.ready true, p, F.host) ∧
      ∀ F' p', Relation.ReflTransGen Step F F' → F'.Living p' → p'.pid = p.pid →
        p'.ensure F'.host = (.ready true, p', F'.host) ∧ p'.mapped? = p.mapped?) ∧
    (p.pid ∈ F.callers → ∃ x, F.host.slotsOf p.pid = {x}) ∧
    (p.pid ∉ F.callers → F.host.slotsOf p.pid = ∅) ∧
    ((∀ c, p.context = some c → 0 < (F.host.region c.attachment.node).lock.count) →
      ∀ node i, ((p.leave F.host .exit).2.region node).slotAt i =
        if ((F.host.region node).slotAt i).pid = p.pid then .empty
        else (F.host.region node).slotAt i) ∧
    (p.pid ∉ F.callers → (p.leave F.host .exit).2.files = F.host.files) := by
  have hsound := hstart.sound.of_run hrun
  have hplaced := hsound.placed hp
  refine ⟨fun same => hplaced.ensure_ready hsound.orderly, fun hcall => ⟨?_, ?_⟩, fun hcall => ?_,
    fun hnot => (hplaced.inherited hnot).2, hplaced.slotAt_leave hsound.orderly,
    fun hnot => hplaced.files_leave hnot .exit⟩
  · exact Workload.ensure_of_owns (hplaced.any_owns_iff.2 hcall) F.host
  · -- Later on the process still has the mapping that it has now.
    intro F' p' hlater hp' hpid
    have hsound' := hsound.of_run hlater
    obtain ⟨hcall', hkept⟩ := mapped?_of_run hsound hlater hcall
    rw [← hpid] at hcall' hkept
    obtain ⟨q, hq, hmapped⟩ := hkept p' hp'
    obtain rfl : q = p := Option.some.inj (hq.symm.trans (hpid ▸ hp))
    exact ⟨Workload.ensure_of_owns ((hsound'.placed hp').any_owns_iff.2 hcall') F'.host, hmapped⟩
  · obtain ⟨a, i, -, -, -, hslots⟩ := hplaced.own hcall
    exact ⟨_, hslots⟩

end

/-! ## A parent and its child -/

deriving instance DecidableEq for Readiness

/-- A process that nobody forked. -/
def founder : Workload SimulatedDevice Unit where
  pid := 100
  env := { entries := [("CUDA_DEVICE_MEMORY_SHARED_CACHE", .text "region")] }
  driver := default

/-- It runs on a host without files. -/
def founded : Family SimulatedDevice Unit where
  host := (Machine.start { clock := 0 } none).2
  members pid := if pid = founder.pid then some founder else none
  taken := [founder.pid]

/-- The process once it has its context. -/
def parent : Workload SimulatedDevice Unit := (founder.ensure founded.host).2.1

/-- It has forked. -/
def forked : Family SimulatedDevice Unit := (founded.ensure founder).fork parent 101

/-- The child, with the context of its parent. -/
def child : Workload SimulatedDevice Unit :=
  (parent.fork { (founded.ensure founder).host with nextPid := 101 }).1

/-- Nobody has a slot where there are no files. -/
theorem slotsOf_founded (hpid : pid ≠ 0) : founded.host.slotsOf pid = ∅ := by
  ext ⟨node, i⟩
  refine iff_of_false (fun hi => hpid ?_) (Set.notMem_empty _)
  exact hi.symm.trans (Region.Orderly.ofBytes_empty.unused (by decide +kernel) i)

/-- One process that has not asked for its context yet is a family that may start. -/
theorem start_founded : founded.Start where
  orderly := ⟨Files.sound_empty, fun _ => Region.Orderly.ofBytes_empty⟩
  running := by decide
  owners pid hpid hslots := by
    rw [slotsOf_founded hpid] at hslots
    cases hslots.ne_empty rfl
  callers_eq := rfl
  former_eq := rfl
  -- The founder is the only member.
  members pid p hp := by
    change (if pid = founder.pid then some founder else none) = some p at hp
    split at hp
    next hpid =>
      cases hp
      exact ⟨hpid.symm, hpid ▸ by decide, hpid ▸ by decide, rfl,
        slotsOf_founded (hpid ▸ by decide)⟩
    next => cases hp

/-- The founder has not left. -/
theorem living_founder : founded.Living founder := by
  show (if founder.pid = founder.pid then some founder else none) = some founder
  rw [if_pos rfl]

/-- The founder gets a new context when it asks. -/
theorem ready_founder : (founder.ensure founded.host).1 = .ready false := by decide +kernel

/-- It is still there with it. -/
theorem living_parent : (founded.ensure founder).Living parent :=
  (start_founded.sound.ensure living_founder ready_founder).living (members_ensure _ _)

/-- The founder asks for its context and forks. -/
theorem run_forked : Relation.ReflTransGen Step founded forked :=
  .tail (.single (.ensure living_founder ready_founder))
    (.fork living_parent 101 (by decide) (by decide +kernel))

/-- The child has not left. -/
theorem living_child : forked.Living child :=
  (start_founded.sound.of_run run_forked).living (members_fork _ _ _)

/-- The child gets a new context too, although it has inherited one. -/
theorem ready_child : (child.ensure forked.host).1 = .ready false := by decide +kernel

/-- The child of a process that has its context has no slot, and leaves all files alone if it leaves
at once; when it has asked for its context it has one slot, which is cleared when it leaves. -/
theorem apart_of_run_forked :
    founded.Start ∧ Relation.ReflTransGen Step founded forked ∧ forked.Living child ∧
      forked.host.slotsOf 101 = ∅ ∧ (child.leave forked.host .exit).2.files = forked.host.files ∧
      ∃ heir x, (forked.ensure child).Living heir ∧
        (forked.ensure child).host.slotsOf 101 = {x} ∧
        (((heir.leave (forked.ensure child).host .exit).2.region x.1).slotAt x.2).pid = 0 := by
  have hnot : child.pid ∉ forked.callers := by decide +kernel
  -- Before the child asks for its context.
  obtain ⟨-, -, -, hnone, -, hfiles⟩ := apart_of_run start_founded run_forked living_child
  have hrun := run_forked.tail (.ensure living_child ready_child)
  have hheir : (forked.ensure child).Living (child.ensure forked.host).2.1 :=
    (start_founded.sound.of_run hrun).living (members_ensure _ _)
  -- After it has asked.
  obtain ⟨-, -, hone, -, hleave, -⟩ := apart_of_run start_founded hrun hheir
  have hpid : (child.ensure forked.host).2.1.pid = 101 := by decide +kernel
  rw [hpid] at hone hleave
  obtain ⟨x, hx⟩ := hone (by decide +kernel)
  refine ⟨start_founded, run_forked, living_child, hnone hnot, hfiles hnot, _, x, hheir, hx, ?_⟩
  have hlock : ((child.ensure forked.host).2.1.context.all fun c =>
      0 < ((forked.ensure child).host.region c.attachment.node).lock.count) := by
    decide +kernel
  have hmem : (((forked.ensure child).host.region x.1).slotAt x.2).pid = 101 :=
    show x ∈ (forked.ensure child).host.slotsOf 101 from hx ▸ rfl
  rw [hleave (fun c hc => by simpa [hc] using hlock) x.1 x.2, if_pos hmem]
  rfl

end Family

end GpuQuota
