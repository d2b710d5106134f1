import GpuQuota.Lock

/-!
# Processes at one lock

Any number of processes share the two words of the region lock. Each goes its own way through the
protocol of a waiter, one step at a time, and between any two of its steps others move, leave and
die. Which process moves next is arbitrary, so a run is a list of events.

The module introduces:

* `Waiter.inside`, `Waiter.late` — the waiters that have the lock, and those that recover it.
* `Crowd` — the lock word, the processes alive, and how far each of them has come.
* `Crowd.Event`, `Crowd.allows`, `Crowd.next` — one step of one process.
* `Crowd.runs`, `Crowd.after`, `Crowd.trace` — runs, where they lead, and what they pass.
* `Crowd.expires`, `Crowd.recovers` — the steps that matter for exclusion.
* `Crowd.Start`, `Crowd.Orphaned`, `Crowd.Single` — states of the lock.
* `Crowd.exists_runs_eq_run` — a process that nobody disturbs is a run of the crowd.
-/

namespace GpuQuota

/-- The waiter has passed the semaphore or has taken the lock over. -/
def Waiter.inside : Waiter → Bool
  | .acquired | .holding => true
  | _ => false

/-- A timed wait of the waiter has expired, and it has neither gone back to waiting nor taken the
lock over since. -/
def Waiter.late : Waiter → Bool
  | .expired _ | .recovering _ | .deciding | .forcing => true
  | _ => false

/-- Processes that share a lock. -/
structure Crowd where
  /-- The lock. -/
  word : LockWord
  /-- The processes alive. -/
  alive : Pid → Bool
  /-- How far each process has come; nothing for those that do not want the lock. -/
  phase : Pid → Option Waiter

namespace Crowd

/-- What a process does next. -/
inductive Event
  /-- A process begins to want the lock. -/
  | enter (p : Pid)
  /-- A process goes on by one step of the protocol. -/
  | move (p : Pid)
  /-- A process gives the lock back. -/
  | leave (p : Pid)
  /-- A process dies. -/
  | die (p : Pid)
  deriving DecidableEq, Repr

/-- A process and the lock word after one of its steps. -/
def put (s : Crowd) (p : Pid) (w : Option Waiter) (word : LockWord) : Crowd :=
  { s with word, phase := fun q => if q = p then w else s.phase q }

/-- Whether an event can come next. A process that holds the lock does nothing but give it back. -/
def allows (s : Crowd) : Event → Bool
  | .enter p => p != 0 && s.alive p && s.phase p == none
  | .move p => s.alive p && s.phase p != none && s.phase p != some .holding
  | .leave p => s.alive p && s.phase p == some .holding
  | .die _ => true

/-- The crowd after an event. Liveness is checked exactly. -/
def next (retries : Pid → Nat) (s : Crowd) : Event → Crowd
  | .enter p => s.put p (some (.waiting 0)) s.word
  | .move p =>
    match s.phase p with
    | none => s
    | some w =>
      let (w', word) := w.step p s.alive (retries p) s.word
      s.put p (some w') word
  | .leave p => s.put p none s.word.release
  | .die p => { s with alive := fun q => q != p && s.alive q }

/-- Each event can come when its turn has come. -/
def runs (retries : Pid → Nat) (s : Crowd) : List Event → Bool
  | [] => true
  | e :: events => s.allows e && (s.next retries e).runs retries events

/-- The crowd after events. -/
def after (retries : Pid → Nat) (s : Crowd) (events : List Event) : Crowd :=
  events.foldl (next retries) s

/-- The crowds that a run passes, each with the event that comes next. -/
def trace (retries : Pid → Nat) (s : Crowd) : List Event → List (Crowd × Event)
  | [] => []
  | e :: events => (s, e) :: (s.next retries e).trace retries events

/-- A living process has the lock. It may not yet have stored itself as the owner. -/
def has (s : Crowd) (p : Pid) : Bool := s.alive p && (s.phase p).any (·.inside)

/-- A living process holds the lock. -/
def holds (s : Crowd) (p : Pid) : Bool := s.alive p && s.phase p == some .holding

/-- A living process is about to recover the lock, or to look whether it has to. -/
def isLate (s : Crowd) (p : Pid) : Bool := s.alive p && (s.phase p).any (·.late)

/-- A living process is free to go for the lock, or waits for it. -/
def isReady (s : Crowd) (p : Pid) : Bool :=
  p != 0 && s.alive p && match s.phase p with
    | none | some (.waiting _) => true
    | _ => false

/-- A timed wait expires. -/
def expires (s : Crowd) : Event → Bool
  | .move p =>
    match s.phase p with
    | some (.waiting _) => s.word.count == 0
    | _ => false
  | _ => false

/-- A process takes the lock over, or releases it by force. -/
def recovers (s : Crowd) : Event → Bool
  | .move p =>
    match s.phase p with
    | some .deciding => takeoverAllowed s.word.holder? p s.alive
    | some .forcing => true
    | _ => false
  | _ => false

/-- The lock is free and nobody wants it. -/
structure Start (s : Crowd) : Prop where
  word_eq : s.word = { count := 1, owner := 0 }
  phase_eq_none : ∀ p, s.phase p = none

/-- The semaphore lets nobody pass, although no living process has the lock. -/
structure Orphaned (s : Crowd) : Prop where
  count_eq_zero : s.word.count = 0
  not_has : ∀ p, ¬ s.has p

/-- At most one living process has the lock, or can get it by passing the semaphore. -/
structure Single (s : Crowd) : Prop where
  count_le_one : s.word.count ≤ 1
  eq_of_has : ∀ p q, s.has p → s.has q → p = q
  not_has_of_pos : 0 < s.word.count → ∀ p, ¬ s.has p

/-! ## One step at a time -/

variable {retries : Pid → Nat} {s : Crowd} {p q : Pid} {w : Option Waiter} {word : LockWord}

@[simp] theorem word_put : (s.put p w word).word = word := rfl

@[simp] theorem alive_put : (s.put p w word).alive = s.alive := rfl

@[simp] theorem phase_put_self : (s.put p w word).phase p = w := if_pos rfl

/-- The others stand where they stood. -/
theorem phase_put_of_ne (h : q ≠ p) : (s.put p w word).phase q = s.phase q := if_neg h

/-- The others have what they had. -/
theorem has_put_of_ne (h : q ≠ p) : (s.put p w word).has q = s.has q := by
  rw [has, has, phase_put_of_ne h, alive_put]

/-- The process that was moved has the lock if it is alive and its new place says so. -/
theorem has_put_self : (s.put p w word).has p = (s.alive p && w.any (·.inside)) := by
  rw [has, phase_put_self, alive_put]

/-- The others are as late as they were. -/
theorem isLate_put_of_ne (h : q ≠ p) : (s.put p w word).isLate q = s.isLate q := by
  rw [isLate, isLate, phase_put_of_ne h, alive_put]

/-- The process that was moved is late if it is alive and its new place says so. -/
theorem isLate_put_self : (s.put p w word).isLate p = (s.alive p && w.any (·.late)) := by
  rw [isLate, phase_put_self, alive_put]

/-- Only the living have the lock. -/
theorem alive_of_has (h : s.has p) : s.alive p := (Bool.and_eq_true_iff.1 h).1

/-- Only the living are late. -/
theorem alive_of_isLate (h : s.isLate p) : s.alive p := (Bool.and_eq_true_iff.1 h).1

/-- Where a living process stands tells whether it has the lock. -/
theorem has_iff_of_phase {w : Waiter} (hlive : s.alive p) (h : s.phase p = some w) :
    s.has p ↔ w.inside := by
  rw [has, hlive, h, Option.any_some, Bool.true_and]

/-- Where a living process stands tells whether it is late. -/
theorem isLate_iff_of_phase {w : Waiter} (hlive : s.alive p) (h : s.phase p = some w) :
    s.isLate p ↔ w.late := by
  rw [isLate, hlive, h, Option.any_some, Bool.true_and]

/-- Who does not want the lock does not have it. -/
theorem not_has_of_phase_eq_none (h : s.phase p = none) : ¬ s.has p := by
  rw [has, h, Option.any_none, Bool.and_false]
  exact Bool.false_ne_true

/-- Nor is it late. -/
theorem not_isLate_of_phase_eq_none (h : s.phase p = none) : ¬ s.isLate p := by
  rw [isLate, h, Option.any_none, Bool.and_false]
  exact Bool.false_ne_true

/-- A process that goes on is alive, wants the lock, and does not hold it. -/
theorem exists_of_allows_move (h : s.allows (.move p)) :
    ∃ w, s.alive p ∧ s.phase p = some w ∧ w ≠ .holding := by
  simp only [allows, Bool.and_eq_true, bne_iff_ne, ne_eq] at h
  obtain ⟨⟨hlive, hnone⟩, hholding⟩ := h
  obtain ⟨w, hw⟩ := Option.ne_none_iff_exists'.1 hnone
  exact ⟨w, hlive, hw, fun hw' => hholding (hw' ▸ hw)⟩

/-- A process that gives the lock back has it. -/
theorem has_of_allows_leave (h : s.allows (.leave p)) : s.has p := by
  simp only [allows, Bool.and_eq_true, beq_iff_eq] at h
  exact (has_iff_of_phase h.1 h.2).2 rfl

/-- A process goes on by a step of the protocol. -/
theorem next_move {w : Waiter} (h : s.phase p = some w) :
    s.next retries (.move p) =
      s.put p (some (w.step p s.alive (retries p) s.word).1)
        (w.step p s.alive (retries p) s.word).2 := by
  simp only [next, h]

/-- Nobody comes back to life. -/
theorem alive_of_alive_next {e : Event} (h : (s.next retries e).alive p) : s.alive p := by
  -- Nobody is brought back to life; only a death changes who is alive.
  cases e with
  | enter q => exact h
  | move q =>
    rw [next] at h
    split at h <;> exact h
  | leave q => exact h
  | die q =>
    simp only [next, Bool.and_eq_true] at h
    exact h.2

/-- A death gives nobody the lock. -/
theorem has_of_has_die (h : (s.next retries (.die q)).has p) : s.has p := by
  simp only [has, next, Bool.and_eq_true] at h ⊢
  exact ⟨h.1.2, h.2⟩

/-- A death makes nobody late. -/
theorem isLate_of_isLate_die (h : (s.next retries (.die q)).isLate p) : s.isLate p := by
  simp only [isLate, next, Bool.and_eq_true] at h ⊢
  exact ⟨h.1.2, h.2⟩

/-! ## Runs -/

/-- Nobody comes back to life in a run. -/
theorem alive_of_mem_trace {events : List Event} {x : Crowd × Event}
    (hx : x ∈ s.trace retries events) (h : x.1.alive p) : s.alive p := by
  induction events generalizing s with
  | nil => cases hx
  | cons e events ih =>
    rw [trace, List.mem_cons] at hx
    rcases hx with rfl | hx
    · exact h
    · exact alive_of_alive_next (ih hx)

/-- What the protocol does while nobody else moves is a run of the crowd. -/
theorem exists_runs_eq_run {w : Waiter} (fuel : Nat) (a : Attempt) (hlive : s.alive p)
    (hphase : s.phase p = some w) (ha : a.word = s.word) :
    ∃ n, s.runs retries (List.replicate n (.move p)) ∧
      (s.after retries (List.replicate n (.move p))).word =
        (w.run p s.alive (retries p) fuel a).word := by
  -- The induction is on the fuel of the attempt; each unit of it is one event.
  induction fuel generalizing s w a with
  | zero => exact ⟨0, rfl, ha.symm⟩
  | succ fuel ih =>
    by_cases hw : w = .holding
    · subst hw
      exact ⟨0, rfl, ha.symm⟩
    · have hallows : s.allows (.move p) := by
        rw [allows, hlive, hphase, Bool.true_and, Bool.and_eq_true, bne_iff_ne, bne_iff_ne]
        exact ⟨Option.some_ne_none w, fun h => hw (Option.some.inj h)⟩
      have hnext : s.next retries (.move p) = _ := next_move hphase
      obtain ⟨n, hruns, hword⟩ := ih (s := s.next retries (.move p))
        (w := (w.step p s.alive (retries p) s.word).1)
        ⟨(w.step p s.alive (retries p) s.word).2, _⟩ (by rw [hnext]; exact hlive)
        (by rw [hnext, phase_put_self]) (by rw [hnext, word_put])
      refine ⟨n + 1, ?_, ?_⟩
      · rw [List.replicate_succ, runs, hallows, hruns, Bool.true_and]
      · rw [List.replicate_succ]
        refine hword.trans ?_
        rw [hnext, alive_put, Waiter.run, ha]
        intro h
        exact hw h

/-- Two runs lead where the second one leads from the end of the first one. -/
theorem after_append (events events' : List Event) :
    s.after retries (events ++ events') = (s.after retries events).after retries events' :=
  List.foldl_append

end Crowd

end GpuQuota
