import GpuQuota.Proofs.Registry.Change
import GpuQuota.Proofs.Registry.Frame
import GpuQuota.Region.Attach
import Mathlib.Logic.Function.Basic

/-!
# Notes of launches

Two times tell when kernels were launched. Each limiter keeps the time that it noted last, which may
only be followed by one that is an interval later; and the region keeps the latest time that any
process noted. Clocks may run backwards and differ between processes: a limiter does not note what
seems to lie before its last note, and the region does not go back to it.

The module introduces:

* `Limiter.noteLaunch_apply`, `Region.Change.lastKernel_eq` — what notes a launch, and that work on
  the table does not.
* `Crew`, `Crew.note` — processes that launch kernels on one region, and a call that notes one.
* `Crew.Step`, `Crew.Runs` — what may happen to a crew, with the launches that are noted meanwhile.
* `Crew.Step.lastKernel_eq`, `Crew.Step.lastNote_cases` — what a step makes of the two times.
* `Crew.launches_noted` — the time in the region is the latest of all, and each process keeps its
  intervals.
-/

namespace GpuQuota

/-! ## Times in a limiter and in a region -/

theorem Limiter.noteLaunch_apply (l : Limiter) (m : Member) (now : UInt64) (s : Seat) :
    l.noteLaunch m now s =
      if (satSub now l.lastNote).toNat < m.settings.recordInterval then ((false, l), s)
      else ((true, { l with lastNote := now }),
        (m.locked (fun r => ((), { r with lastKernel := max r.lastKernel now })) s).2) := by
  unfold noteLaunch
  split <;> rfl

namespace Region

variable {r r' : Region}

/-- The time of the last launch does not lie in the table. -/
theorem lastKernel_congr (h : r'.offTable = r.offTable) : r'.lastKernel = r.lastKernel := by
  have htime : r'.offTable.lastKernel = r.offTable.lastKernel := congrArg (·.lastKernel) h
  exact htime

/-- No change of the table notes a launch. -/
theorem Change.lastKernel_eq (h : r.Change r') : r'.lastKernel = r.lastKernel := by
  cases h with
  | lock word => rfl
  | postinit count => rfl
  | reap me alive => exact lastKernel_congr (r.offTable_reap me alive)
  | register me alive pid hpid => exact lastKernel_congr (r.offTable_register me pid alive)
  | unregister pid hpid => exact lastKernel_congr (r.offTable_unregister pid)
  | resetObserved => exact lastKernel_congr r.offTable_resetObserved
  | addUsage i hi d kind bytes => exact lastKernel_congr (r.offTable_modifySlot i _)
  | removeUsage i hi d kind bytes => exact lastKernel_congr (r.offTable_modifySlot i _)
  | setHostPid i hi hostPid => exact lastKernel_congr (r.offTable_modifySlot i _)
  | setStatus i hi status => exact lastKernel_congr (r.offTable_modifySlot i _)
  | observe i hi d f hf => exact lastKernel_congr (r.offTable_modifySlot i _)

end Region

/-! ## Processes that launch kernels -/

/-- Processes that launch kernels on one region. -/
structure Crew (ι : Type) where
  /-- The region. -/
  region : Region
  /-- The limiters of the processes. -/
  limiters : ι → Limiter

/-- A launch that was noted. -/
structure Note (ι : Type) where
  /-- The process that launched. -/
  process : ι
  /-- The time by its clock. -/
  time : UInt64
  deriving DecidableEq

namespace Crew

variable {ι : Type}

/-- A crew whose limiters were just created, each at a time by the clock of its process. -/
def start (r : Region) (born : ι → UInt64) : Crew ι where
  region := r
  limiters p := .startingAt (born p)

variable [DecidableEq ι]

/-- A process asks for a launch to be noted at a time by its clock; whether it was. -/
def note (c : Crew ι) (p : ι) (m : Member) (now : UInt64) (s : Seat) : Bool × Crew ι :=
  let ((noted, limiter), s) := (c.limiters p).noteLaunch m now { s with region := c.region }
  (noted, { region := s.region, limiters := Function.update c.limiters p limiter })

/-- A process asks for a launch to be let in. -/
def launch (c : Crew ι) (p : ι) (m : Member) (grid : UInt64) (relief : Relief) : Crew ι :=
  let (limiter, r) := ((c.limiters p).launch m c.region grid relief).2
  { region := r, limiters := Function.update c.limiters p limiter }

/-- One step of a crew, with the launch that it notes, if it notes one. -/
inductive Step (settings : ι → Settings) (c : Crew ι) : List (Note ι) → Crew ι → Prop
  /-- A launch is to be noted. The clock may show any time. -/
  | note (p : ι) (m : Member) (hm : m.settings = settings p) (now : UInt64) (s : Seat) :
    Step settings c (if (c.note p m now s).1 then [⟨p, now⟩] else []) (c.note p m now s).2
  /-- A launch is to be let in. -/
  | launch (p : ι) (m : Member) (grid : UInt64) (relief : Relief) :
    Step settings c [] (c.launch p m grid relief)
  /-- Somebody works on the table. -/
  | change (r : Region) (h : c.region.Change r) : Step settings c [] { c with region := r }
  /-- The gate or the switch is set. -/
  | gate (recentKernel switch : Int) :
    Step settings c [] { c with region := { c.region with recentKernel, switch } }
  /-- A limiter is told the size of the device, credited or steered. -/
  | tune (p : ι) (spec : DeviceSpec) (tokens : Tokens) (share : Int) :
    Step settings c [] { c with
      limiters := Function.update c.limiters p { c.limiters p with spec, tokens, share } }

/-- Any number of steps, with the launches that they note. -/
inductive Runs (settings : ι → Settings) (c : Crew ι) : List (Note ι) → Crew ι → Prop
  | refl : Runs settings c [] c
  | step {log noted : List (Note ι)} {c' c'' : Crew ι} (h : Runs settings c log c')
    (hstep : Step settings c' noted c'') : Runs settings c (log ++ noted) c''

/-- The times at which launches of a process were noted. -/
def timesOf (p : ι) (log : List (Note ι)) : List UInt64 :=
  (log.filter (·.process = p)).map (·.time)

theorem timesOf_append (p : ι) (log log' : List (Note ι)) :
    timesOf p (log ++ log') = timesOf p log ++ timesOf p log' := by
  rw [timesOf, List.filter_append, List.map_append, timesOf, timesOf]

variable {settings : ι → Settings} {c c' : Crew ι} {log noted : List (Note ι)}

/-! ## One step -/

/-- A launch that comes too early, or seems to come before the last one, is not noted. -/
theorem note_of_early {p : ι} {m : Member} {now : UInt64} (s : Seat)
    (h : (satSub now (c.limiters p).lastNote).toNat < m.settings.recordInterval) :
    c.note p m now s = (false, c) := by
  rw [note, Limiter.noteLaunch_apply, if_pos h]
  dsimp only
  -- The limiter is put back as it was.
  rw [Function.update_eq_self]

/-- Any other one is, and the time in the region moves on to it, or stays where it is later. -/
theorem note_of_due {p : ι} {m : Member} {now : UInt64} (s : Seat)
    (h : m.settings.recordInterval ≤ (satSub now (c.limiters p).lastNote).toNat) :
    (c.note p m now s).1 = true ∧
      (c.note p m now s).2.region.lastKernel = max c.region.lastKernel now ∧
      (c.note p m now s).2.limiters =
        Function.update c.limiters p { c.limiters p with lastNote := now } := by
  rw [note, Limiter.noteLaunch_apply, if_neg (Nat.not_lt.2 h)]
  exact ⟨rfl, rfl, rfl⟩

/-- A limiter that is changed in something else keeps the time that it noted last. -/
theorem lastNote_update {limiters : ι → Limiter} {q : ι} {l : Limiter}
    (hl : l.lastNote = (limiters q).lastNote) (p : ι) :
    (Function.update limiters q l p).lastNote = (limiters p).lastNote := by
  by_cases hp : p = q
  · subst hp
    rw [Function.update_self, hl]
  · rw [Function.update_of_ne hp]

/-- A step leaves in the region the latest of the time that it finds there and those that it
notes. -/
theorem Step.lastKernel_eq (h : Step settings c noted c') :
    c'.region.lastKernel = (noted.map (·.time)).foldl max c.region.lastKernel := by
  cases h with
  | note p m hm now s =>
    by_cases hearly : (satSub now (c.limiters p).lastNote).toNat < m.settings.recordInterval
    · -- A note that comes too early is not made.
      rw [note_of_early s hearly]
      rfl
    · obtain ⟨hnoted, htime, -⟩ := note_of_due s (Nat.not_lt.1 hearly)
      rw [if_pos hnoted, htime]
      rfl
  | launch p m grid relief =>
    obtain ⟨tokens, recentKernel, hlaunch⟩ := (c.limiters p).launch_eq m c.region grid relief
    rw [Crew.launch, hlaunch]
    rfl
  | change r hchange => exact hchange.lastKernel_eq
  | gate recentKernel switch => rfl
  | tune p spec tokens share => rfl

/-- What a limiter noted last changes only with a launch of its process that the step notes, and
that is due. -/
theorem Step.lastNote_cases (h : Step settings c noted c') (p : ι) :
    timesOf p noted = [] ∧ (c'.limiters p).lastNote = (c.limiters p).lastNote ∨
    ∃ now, timesOf p noted = [now] ∧ (c'.limiters p).lastNote = now ∧
      (settings p).recordInterval ≤ (satSub now (c.limiters p).lastNote).toNat := by
  cases h with
  | note q m hm now s =>
    by_cases hearly : (satSub now (c.limiters q).lastNote).toNat < m.settings.recordInterval
    · rw [note_of_early s hearly]
      exact .inl ⟨rfl, rfl⟩
    · obtain ⟨hnoted, -, hlimiters⟩ := note_of_due s (Nat.not_lt.1 hearly)
      rw [if_pos hnoted, hlimiters]
      -- The note is made for one process, and the others keep theirs.
      by_cases hp : p = q
      · subst hp
        refine .inr ⟨now, ?_, ?_, hm ▸ Nat.not_lt.1 hearly⟩
        · simp [timesOf]
        · rw [Function.update_self]
      · refine .inl ⟨?_, ?_⟩
        · simp [timesOf, Ne.symm hp]
        · rw [Function.update_of_ne hp]
  | launch q m grid relief =>
    obtain ⟨tokens, recentKernel, hlaunch⟩ := (c.limiters q).launch_eq m c.region grid relief
    rw [Crew.launch, hlaunch]
    refine .inl ⟨rfl, lastNote_update ?_ p⟩
    rfl
  | change r hchange => exact .inl ⟨rfl, rfl⟩
  | gate recentKernel switch => exact .inl ⟨rfl, rfl⟩
  | tune q spec tokens share =>
    refine .inl ⟨rfl, lastNote_update ?_ p⟩
    rfl

/-! ## Runs -/

/-- A run leaves in the region the latest of the time that it finds there and those that it
notes. -/
theorem Runs.lastKernel_eq (h : Runs settings c log c') :
    c'.region.lastKernel = (log.map (·.time)).foldl max c.region.lastKernel := by
  induction h with
  | refl => rfl
  | step _ hstep ih => rw [hstep.lastKernel_eq, ih, List.map_append, List.foldl_append]

/-- So it does not move that time back. -/
theorem Runs.lastKernel_le (h : Runs settings c log c') :
    c.region.lastKernel ≤ c'.region.lastKernel := by
  -- The time is the maximum of all that were noted, whichever order they came in.
  have hle : ∀ (times : List UInt64) (time : UInt64), time ≤ times.foldl max time := by
    intro times
    induction times with
    | nil => exact UInt64.le_refl
    | cons now times ih =>
      intro time
      have hmax : time ≤ max time now := by
        rw [UInt64.le_iff_toNat_le, toNat_max]
        exact Nat.le_max_left ..
      exact UInt64.le_trans hmax (ih _)
  rw [h.lastKernel_eq]
  exact hle _ _

/-- What a limiter noted last is the last launch of its process that was noted, and each of them
came an interval after the one before. -/
theorem Runs.timesOf_chain (h : Runs settings c log c') (p : ι)
    (hinterval : 1 ≤ (settings p).recordInterval) :
    ((c.limiters p).lastNote :: timesOf p log).getLast? = some (c'.limiters p).lastNote ∧
    ((c.limiters p).lastNote :: timesOf p log).IsChain
      fun t t' => t.toNat + (settings p).recordInterval ≤ t'.toNat := by
  -- The limiter knows the end of the chain, which is all that the next launch is compared with.
  induction h with
  | refl => exact ⟨rfl, .singleton _⟩
  | step _ hstep ih =>
    obtain ⟨hlast, hchain⟩ := ih
    rw [timesOf_append, ← List.cons_append]
    rcases hstep.lastNote_cases p with ⟨hnone, hsame⟩ | ⟨now, hone, hnow, hdue⟩
    · rw [hnone, List.append_nil, hsame]
      exact ⟨hlast, hchain⟩
    · rw [hone]
      refine ⟨by rw [List.getLast?_concat, hnow], ?_⟩
      rw [List.isChain_append]
      refine ⟨hchain, .singleton _, fun t ht t' ht' => ?_⟩
      rw [hlast] at ht
      cases ht
      cases ht'
      -- A difference of at least one did not saturate, so the clock is ahead of the last note.
      rw [toNat_satSub] at hdue
      omega

/-- Whatever the clocks of the processes show, the time in the region is always the latest of the
one that it began with and all those that were noted, and it never goes back. A process with an
interval of at least one second notes each launch an interval or more after the one before, and the
first one so long after its limiter was created. -/
theorem launches_noted {settings : ι → Settings} {r : Region} {born : ι → UInt64} {c c' : Crew ι}
    {log later : List (Note ι)} (h : Runs settings (start r born) log c)
    (h' : Runs settings c later c') :
    (r.lastKernel :: log.map (·.time)).max? = some c.region.lastKernel ∧
    c.region.lastKernel ≤ c'.region.lastKernel ∧
    ∀ p, 1 ≤ (settings p).recordInterval →
      (born p :: timesOf p log).IsChain
        fun t t' => t.toNat + (settings p).recordInterval ≤ t'.toNat := by
  refine ⟨?_, h'.lastKernel_le, fun p hinterval => (h.timesOf_chain p hinterval).2⟩
  rw [List.max?_cons', h.lastKernel_eq, start]

/-- Two processes whose clocks differ. The second one notes a launch at a time that the region has
passed, and then the clock of the first one runs backwards. -/
theorem launches_noted_of_two :
    ∃ (settings : Bool → Settings) (r : Region) (born : Bool → UInt64) (c c' : Crew Bool)
      (log later : List (Note Bool)),
      Runs settings (start r born) log c ∧ Runs settings c later c' ∧
      log = [⟨false, 110⟩, ⟨true, 107⟩] ∧ later = [⟨false, 120⟩] ∧
      c.region.lastKernel = 110 ∧ c.region.lastKernel ≤ c'.region.lastKernel ∧
      (settings true).recordInterval = 1 ∧
      (born true :: timesOf true log).IsChain fun t t' => t.toNat + 1 ≤ t'.toNat := by
  let settings : Bool → Settings := fun _ => .standard
  let born : Bool → UInt64 := fun p => if p then 105 else 100
  let m : Member := ⟨7, .standard, fun _ => true⟩
  have call (c : Crew Bool) (p : Bool) (now : UInt64) (noted : Bool)
      (h : (c.note p m now default).1 = noted) :
      Step settings c (if noted then [⟨p, now⟩] else []) (c.note p m now default).2 := by
    rw [← h]
    exact .note p m rfl now default
  let r := Region.zero.setUp .standard 100
  -- The first process notes a launch, the second an earlier one, and the first is then too early
  -- once.
  let c₁ := ((start r born).note false m 110 default).2
  let c₂ := (c₁.note true m 107 default).2
  let c₃ := (c₂.note false m 108 default).2
  let c₄ := (c₃.note false m 120 default).2
  have hlog : Runs settings (start r born) [⟨false, 110⟩, ⟨true, 107⟩] c₃ :=
    ((Runs.refl.step (call (start r born) false 110 true (by decide +kernel))).step
      (call c₁ true 107 true (by decide +kernel))).step
        (call c₂ false 108 false (by decide +kernel))
  have hlater : Runs settings c₃ [⟨false, 120⟩] c₄ :=
    Runs.refl.step (call c₃ false 120 true (by decide +kernel))
  obtain ⟨hlatest, hle, hchain⟩ := launches_noted hlog hlater
  refine ⟨settings, r, born, c₃, c₄, _, _, hlog, hlater, rfl, rfl, ?_, hle, rfl,
    hchain true (Nat.le_refl 1)⟩
  have hmax : (r.lastKernel :: [110, 107]).max? = some 110 := by decide +kernel
  rw [← Option.some.injEq, ← hlatest]
  exact hmax

end Crew

end GpuQuota
