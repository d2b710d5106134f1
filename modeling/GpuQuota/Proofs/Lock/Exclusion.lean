import GpuQuota.Proofs.Lock.Crowd
import Mathlib.Order.Basic

/-!
# Who has the lock

The lock stays with one living process at a time as long as each recovery finds it orphaned.
Looking at the owner again before a takeover is not enough for that. Of several waiters that found
a dead owner the first takes the lock over, and the others find a living owner then and release
the lock by force, under the process that has just taken it over.

The module introduces:

* `Crowd.single_next_iff` — when a step keeps the lock with one process.
* `Crowd.single_trace_iff` — when a run does.
* `Crowd.Alone` — the invariant of runs in which nobody is late while the lock is in use.
* `Crowd.Breaks`, `Crowd.breaks_iff` — what breaks a lock that is not with one process.
* `Crowd.three`, `Crowd.crash`, `Crowd.race` — three processes and two of their runs.
* `Crowd.exclusive_iff_recoveries_orphaned` — the exact condition for exclusion.
* `Crowd.not_exclusive` — two waiters that find the same dead owner hold the lock together.
-/

namespace GpuQuota

namespace Crowd

variable {retries : Pid → Nat} {s t : Crowd} {p q : Pid} {w : Option Waiter} {word : LockWord}

/-! ## Steps that keep the lock with one process -/

/-- A process that goes on without getting the lock leaves the lock with those that have it. -/
private theorem has_of_has_put (hw : w.any (·.inside) = false) (h : (s.put p w word).has q) :
    s.has q := by
  by_cases hq : q = p
  · rw [hq, has_put_self, hw, Bool.and_false] at h
    cases h
  · rwa [has_put_of_ne hq] at h

/-- Who holds the lock has it. -/
private theorem has_of_holds (h : s.holds p) : s.has p := by
  simp only [holds, Bool.and_eq_true, beq_iff_eq] at h
  exact (has_iff_of_phase h.1 h.2).2 rfl

/-- A release lets one process pass. -/
private theorem postCount_zero : postCount 0 = 1 := by decide

/-- The count stays, and nobody gets the lock. -/
theorem Single.mono (hs : s.Single) (hcount : t.word.count = s.word.count)
    (hhas : ∀ q, t.has q → s.has q) : t.Single where
  count_le_one := hcount ▸ hs.count_le_one
  eq_of_has p q hp hq := hs.eq_of_has p q (hhas p hp) (hhas q hq)
  not_has_of_pos hpos q hq := hs.not_has_of_pos (hcount ▸ hpos) q (hhas q hq)

/-- One process has the lock, and the semaphore lets nobody pass. -/
theorem Single.of_only (p : Pid) (hcount : s.word.count = 0) (hhas : ∀ q, s.has q → q = p) :
    s.Single where
  count_le_one := hcount ▸ Nat.zero_le 1
  eq_of_has q q' hq hq' := (hhas q hq).trans (hhas q' hq').symm
  not_has_of_pos hpos := absurd hcount (Nat.ne_of_gt hpos)

/-- The semaphore lets one process pass, and nobody has the lock. -/
theorem Single.of_none (hcount : s.word.count = 1) (hhas : ∀ q, ¬ s.has q) : s.Single where
  count_le_one := Nat.le_of_eq hcount
  eq_of_has p _ hp := absurd hp (hhas p)
  not_has_of_pos _ := hhas

/-- At the start nobody has the lock. -/
theorem Start.single (h : s.Start) : s.Single :=
  .of_none (by rw [h.word_eq]) fun q => not_has_of_phase_eq_none (h.phase_eq_none q)

/-- Where a process has the lock, the semaphore lets nobody pass. -/
theorem Single.count_eq_zero (hs : s.Single) (h : s.has p) : s.word.count = 0 := by
  by_contra hne
  exact hs.not_has_of_pos (Nat.pos_of_ne_zero hne) p h

/-- A takeover keeps the lock with one process if the lock is orphaned, and only then. -/
private theorem single_takeover_iff (hlive : s.alive p) (hphase : s.phase p = some .deciding) :
    (s.put p (some .holding) { s.word with owner := p }).Single ↔ s.Orphaned := by
  constructor
  · intro h
    -- The process has the lock now, so nobody else can have had it.
    have hp : (s.put p (some .holding) { s.word with owner := p }).has p := by
      rw [has_put_self, hlive]
      rfl
    refine ⟨h.count_eq_zero hp, fun q hq => ?_⟩
    have hne : q ≠ p := by
      rintro rfl
      cases (has_iff_of_phase hlive hphase).1 hq
    exact hne (h.eq_of_has q p (by rwa [has_put_of_ne hne]) hp)
  · intro h
    refine .of_only p h.count_eq_zero fun q hq => ?_
    by_contra hne
    rw [has_put_of_ne hne] at hq
    exact h.not_has q hq

/-- A forced release keeps the lock with one process if the lock is orphaned, and only then. -/
private theorem single_force_iff (hs : s.Single) (hlive : s.alive p)
    (hphase : s.phase p = some .forcing) :
    (s.put p (some (.waiting 0)) { s.word with count := postCount s.word.count }).Single ↔
      s.Orphaned := by
  have hsucc : postCount s.word.count = s.word.count + 1 :=
    postCount_of_lt (Nat.lt_of_le_of_lt hs.count_le_one (by decide))
  constructor
  · intro h
    -- The semaphore lets a process pass now, so nobody can have had the lock.
    have hle : postCount s.word.count ≤ 1 := h.count_le_one
    have hpos : 0 < postCount s.word.count := hsucc ▸ Nat.succ_pos _
    refine ⟨by omega, fun q hq => ?_⟩
    have hne : q ≠ p := by
      rintro rfl
      cases (has_iff_of_phase hlive hphase).1 hq
    exact h.not_has_of_pos hpos q (by rwa [has_put_of_ne hne])
  · intro h
    have hcount : postCount s.word.count = 1 := by rw [h.count_eq_zero, postCount_zero]
    exact .of_none hcount fun q hq => h.not_has q (has_of_has_put rfl hq)

/-- A step of the protocol keeps the lock with one process, unless it recovers a lock that is not
orphaned. -/
private theorem single_move_iff (hs : s.Single) (he : s.allows (.move p)) :
    (s.next retries (.move p)).Single ↔ (s.recovers (.move p) → s.Orphaned) := by
  obtain ⟨w, hlive, hphase, hholding⟩ := exists_of_allows_move he
  rw [next_move hphase]
  cases w with
  | waiting trials =>
    refine iff_of_true ?_ fun h => absurd h (by simp [recovers, hphase])
    by_cases hpos : 0 < s.word.count
    · -- The semaphore lets one process pass, and then nobody else.
      rw [Waiter.step, if_pos hpos]
      have hcount := hs.count_le_one
      refine .of_only p (show s.word.count - 1 = 0 by omega) fun q hq => ?_
      by_contra hne
      rw [has_put_of_ne hne] at hq
      exact hs.not_has_of_pos hpos q hq
    · rw [Waiter.step, if_neg hpos]
      exact hs.mono rfl fun q => has_of_has_put rfl
  | expired trials =>
    refine iff_of_true ?_ fun h => absurd h (by simp [recovers, hphase])
    rw [Waiter.step]
    split
    next => exact hs.mono rfl fun q => has_of_has_put rfl
    next => exact hs.mono rfl fun q => has_of_has_put rfl
  | recovering claimUnowned =>
    -- A claim changes the owner only.
    refine iff_of_true ?_ fun h => absurd h (by simp [recovers, hphase])
    refine hs.mono ?_ fun q => has_of_has_put rfl
    rw [word_put, Waiter.step]
    split
    next => rfl
    next => rfl
  | deciding =>
    simp only [recovers, hphase, Waiter.step]
    by_cases hallowed : takeoverAllowed s.word.holder? p s.alive = true
    · rw [if_pos hallowed, single_takeover_iff hlive hphase]
      exact ⟨fun h _ => h, fun h => h hallowed⟩
    · rw [if_neg hallowed]
      exact iff_of_true (hs.mono rfl fun q => has_of_has_put rfl) fun h => absurd h hallowed
  | forcing =>
    simp only [recovers, hphase]
    rw [Waiter.step, single_force_iff hs hlive hphase]
    exact ⟨fun h _ => h, fun h => h trivial⟩
  | acquired =>
    -- The process had the lock already; now it is stored as the owner.
    refine iff_of_true (hs.mono rfl fun q hq => ?_) fun h => absurd h (by simp [recovers, hphase])
    by_cases hqp : q = p
    · rw [hqp]
      exact (has_iff_of_phase hlive hphase).2 rfl
    · rwa [has_put_of_ne hqp] at hq
  | holding => exact absurd rfl hholding

/-- A step keeps the lock with one process, unless it recovers a lock that is not orphaned. -/
theorem single_next_iff {e : Event} (hs : s.Single) (he : s.allows e) :
    (s.next retries e).Single ↔ (s.recovers e → s.Orphaned) := by
  cases e with
  | enter p =>
    exact iff_of_true (hs.mono rfl fun q => has_of_has_put rfl) fun h => by cases h
  | move p => exact single_move_iff hs he
  | leave p =>
    refine iff_of_true ?_ fun h => by cases h
    have hp := has_of_allows_leave he
    have hcount : postCount s.word.count = 1 := by rw [hs.count_eq_zero hp, postCount_zero]
    -- Nobody but the process that leaves had the lock.
    refine .of_none hcount fun q hq => ?_
    have hqp := hs.eq_of_has q p (has_of_has_put rfl hq) hp
    rw [hqp] at hq
    exact not_has_of_phase_eq_none phase_put_self hq
  | die p => exact iff_of_true (hs.mono rfl fun q => has_of_has_die) fun h => by cases h

/-! ## Runs that keep the lock with one process -/

/-- Every crowd that the run passes, and the last one, keeps the lock with one process. -/
def SingleAlong (retries : Pid → Nat) (s : Crowd) (events : List Event) : Prop :=
  (∀ x ∈ s.trace retries events, x.1.Single) ∧ (s.after retries events).Single

/-- A run keeps the lock with one process exactly when each of its recoveries finds the lock
orphaned. -/
theorem singleAlong_iff {events : List Event} (hs : s.Single) (hruns : s.runs retries events) :
    s.SingleAlong retries events ↔
      ∀ x ∈ s.trace retries events, x.1.recovers x.2 → x.1.Orphaned := by
  induction events generalizing s with
  | nil => exact iff_of_true ⟨List.forall_mem_nil _, hs⟩ (List.forall_mem_nil _)
  | cons e events ih =>
    rw [runs, Bool.and_eq_true] at hruns
    obtain ⟨he, hruns⟩ := hruns
    have hstep : (s.next retries e).Single ↔ (s.recovers e → s.Orphaned) := single_next_iff hs he
    rw [SingleAlong, trace, List.forall_mem_cons, List.forall_mem_cons, ← hstep]
    constructor
    · rintro ⟨⟨-, hall⟩, hlast⟩
      -- The next crowd is the first of the rest, or the last if there is no rest.
      have hnext : (s.next retries e).Single := by
        cases events with
        | nil => exact hlast
        | cons e' events => exact hall _ List.mem_cons_self
      exact ⟨hnext, (ih hnext hruns).1 ⟨hall, hlast⟩⟩
    · rintro ⟨hnext, hall⟩
      obtain ⟨hall', hlast⟩ := (ih hnext hruns).2 hall
      exact ⟨⟨hs, hall'⟩, hlast⟩

/-! ## Runs in which nobody is late while the lock is in use -/

/-- The lock is with one process, at most one process is late, and then nobody has the lock. -/
structure Alone (s : Crowd) : Prop where
  single : s.Single
  eq_of_isLate : ∀ p q, s.isLate p → s.isLate q → p = q
  orphaned : ∀ p, s.isLate p → s.Orphaned

/-- No timed wait expires while a living process has the lock or is late. -/
def Patient (s : Crowd) (e : Event) : Prop := s.expires e → ∀ p, ¬ s.has p ∧ ¬ s.isLate p

/-- A process that goes on without getting late leaves late only those that are. -/
private theorem isLate_of_isLate_put (hw : w.any (·.late) = false)
    (h : (s.put p w word).isLate q) : s.isLate q := by
  by_cases hq : q = p
  · rw [hq, isLate_put_self, hw, Bool.and_false] at h
    cases h
  · rwa [isLate_put_of_ne hq] at h

/-- A late process that goes on makes nobody else late. -/
private theorem isLate_of_isLate_put_of_isLate (hp : s.isLate p)
    (h : (s.put p w word).isLate q) : s.isLate q := by
  by_cases hq : q = p
  · rwa [hq]
  · rwa [isLate_put_of_ne hq] at h

/-- Nobody is late. -/
theorem Alone.of_none (hs : s.Single) (hlate : ∀ q, ¬ s.isLate q) : s.Alone where
  single := hs
  eq_of_isLate p _ hp := absurd hp (hlate p)
  orphaned p hp := absurd hp (hlate p)

/-- At the start nobody is late. -/
theorem Start.alone (h : s.Start) : s.Alone :=
  .of_none h.single fun q => not_isLate_of_phase_eq_none (h.phase_eq_none q)

/-- Nobody gets late, and a lock that is orphaned stays so. -/
theorem Alone.mono (hs : s.Alone) (ht : t.Single) (hcount : t.word.count = s.word.count)
    (hhas : ∀ q, t.has q → s.has q) (hlate : ∀ q, t.isLate q → s.isLate q) : t.Alone where
  single := ht
  eq_of_isLate p q hp hq := hs.eq_of_isLate p q (hlate p hp) (hlate q hq)
  orphaned p hp := by
    obtain ⟨hzero, hnot⟩ := hs.orphaned p (hlate p hp)
    exact ⟨hcount.trans hzero, fun q hq => hnot q (hhas q hq)⟩

/-- Who has the lock and goes on leaves nobody late. -/
private theorem Alone.not_isLate_put_of_has (hs : s.Alone) (hp : s.has p)
    (hw : w.any (·.late) = false) (q : Pid) : ¬ (s.put p w word).isLate q :=
  fun hq => (hs.orphaned q (isLate_of_isLate_put hw hq)).not_has p hp

/-- Once the late process is done, nobody is late. -/
private theorem Alone.not_isLate_put_of_isLate (hs : s.Alone) (hp : s.isLate p)
    (hw : w.any (·.late) = false) (q : Pid) : ¬ (s.put p w word).isLate q := by
  intro hq
  have hqp := hs.eq_of_isLate q p (isLate_of_isLate_put hw hq) hp
  rw [hqp, isLate_put_self, hw, Bool.and_false] at hq
  cases hq

/-- A timed wait that expires makes one process late. -/
private theorem Alone.of_expires {trials : Nat} (hs : s.Alone) (hcount : s.word.count = 0)
    (hnone : ∀ q, ¬ s.has q ∧ ¬ s.isLate q) :
    (s.put p (some (.expired trials)) s.word).Alone := by
  -- Nobody had the lock or was late, so that the process is the only one to be late now.
  have hhas : ∀ q, ¬ (s.put p (some (.expired trials)) s.word).has q := fun q hq =>
    (hnone q).1 (has_of_has_put rfl hq)
  have hlate : ∀ q, (s.put p (some (.expired trials)) s.word).isLate q → q = p := fun q hq => by
    by_contra hne
    rw [isLate_put_of_ne hne] at hq
    exact (hnone q).2 hq
  exact ⟨hs.single.mono rfl fun q => has_of_has_put rfl,
    fun q q' hq hq' => (hlate q hq).trans (hlate q' hq').symm, fun _ _ => ⟨hcount, hhas⟩⟩

/-- Who recovers the lock is late. -/
theorem isLate_of_recovers {e : Event} (he : s.allows e) (h : s.recovers e) :
    ∃ p, s.isLate p := by
  -- Only a move recovers, and only from the two places behind the budget.
  cases e with
  | enter p => cases h
  | leave p => cases h
  | die p => cases h
  | move p =>
    obtain ⟨w, hlive, hphase, -⟩ := exists_of_allows_move he
    refine ⟨p, (isLate_iff_of_phase hlive hphase).2 ?_⟩
    cases w with
    | deciding => rfl
    | forcing => rfl
    | _ => simp [recovers, hphase] at h

/-- A step of the protocol keeps the invariant. -/
private theorem Alone.next_move (hs : s.Alone) (he : s.allows (.move p))
    (hpatient : s.Patient (.move p)) (ht : (s.next retries (.move p)).Single) :
    (s.next retries (.move p)).Alone := by
  obtain ⟨w, hlive, hphase, hholding⟩ := exists_of_allows_move he
  have hhas := (has_iff_of_phase hlive hphase).2
  have hlate := (isLate_iff_of_phase hlive hphase).2
  rw [Crowd.next_move hphase] at ht ⊢
  cases w with
  | waiting trials =>
    by_cases hpos : 0 < s.word.count
    · -- Whoever was late would have found the lock orphaned, with nothing to pass.
      rw [Waiter.step, if_pos hpos] at ht ⊢
      exact .of_none ht fun q hq =>
        Nat.ne_of_gt hpos (hs.orphaned q (isLate_of_isLate_put rfl hq)).count_eq_zero
    · rw [Waiter.step, if_neg hpos]
      have hcount : s.word.count = 0 := Nat.eq_zero_of_not_pos hpos
      exact hs.of_expires hcount (hpatient (by simp [expires, hphase, hcount]))
  | expired trials =>
    rw [Waiter.step] at ht ⊢
    split at ht
    -- The process waits again, or it goes on to recover and stays late.
    next => exact hs.mono ht rfl (fun q => has_of_has_put rfl) fun q => isLate_of_isLate_put rfl
    next =>
      exact hs.mono ht rfl (fun q => has_of_has_put rfl)
        fun q => isLate_of_isLate_put_of_isLate (hlate rfl)
  | recovering claimUnowned =>
    refine hs.mono ht ?_ (fun q => has_of_has_put rfl)
      fun q => isLate_of_isLate_put_of_isLate (hlate rfl)
    rw [word_put, Waiter.step]
    split
    next => rfl
    next => rfl
  | deciding =>
    rw [Waiter.step] at ht ⊢
    split at ht
    next hallowed =>
      rw [if_pos hallowed]
      exact .of_none ht (hs.not_isLate_put_of_isLate (hlate rfl) rfl)
    next hallowed =>
      rw [if_neg hallowed]
      exact hs.mono ht rfl (fun q => has_of_has_put rfl)
        fun q => isLate_of_isLate_put_of_isLate (hlate rfl)
  | forcing => exact .of_none ht (hs.not_isLate_put_of_isLate (hlate rfl) rfl)
  | acquired => exact .of_none ht (hs.not_isLate_put_of_has (hhas rfl) rfl)
  | holding => exact absurd rfl hholding

/-- A step keeps the invariant if no timed wait expires too early. -/
theorem Alone.next {e : Event} (hs : s.Alone) (he : s.allows e) (hpatient : s.Patient e) :
    (s.next retries e).Alone := by
  -- A recovery finds the lock orphaned, because who recovers is late.
  have ht : (s.next retries e).Single := (single_next_iff hs.single he).2 fun hrecovers => by
    obtain ⟨p, hp⟩ := isLate_of_recovers he hrecovers
    exact hs.orphaned p hp
  cases e with
  | enter p =>
    exact hs.mono ht rfl (fun q => has_of_has_put rfl) fun q => isLate_of_isLate_put rfl
  | move p => exact hs.next_move he hpatient ht
  | leave p => exact .of_none ht (hs.not_isLate_put_of_has (has_of_allows_leave he) rfl)
  | die p => exact hs.mono ht rfl (fun q => has_of_has_die) fun q => isLate_of_isLate_die

/-- A run in which no timed wait expires too early keeps the lock with one process. -/
theorem Alone.singleAlong {events : List Event} (hs : s.Alone) (hruns : s.runs retries events)
    (hpatient : ∀ x ∈ s.trace retries events, x.1.Patient x.2) : s.SingleAlong retries events := by
  -- The induction is on the run: a patient step keeps the crowd alone, and so single.
  induction events generalizing s with
  | nil => exact ⟨List.forall_mem_nil _, hs.single⟩
  | cons e events ih =>
    rw [runs, Bool.and_eq_true] at hruns
    rw [trace, List.forall_mem_cons] at hpatient
    obtain ⟨hall, hlast⟩ := ih (hs.next hruns.1 hpatient.1) hruns.2 hpatient.2
    refine ⟨?_, hlast⟩
    rw [trace, List.forall_mem_cons]
    exact ⟨hs.single, hall⟩

/-! ## What breaks a lock that is not with one process -/

/-- In the run no timed wait expires and nobody recovers the lock. -/
structure Calm (retries : Pid → Nat) (s : Crowd) (events : List Event) : Prop where
  runs : s.runs retries events
  calm : ∀ x ∈ s.trace retries events, ¬ x.1.expires x.2 ∧ ¬ x.1.recovers x.2

/-- Nothing happens in an empty run. -/
theorem Calm.nil : s.Calm retries [] := ⟨rfl, List.forall_mem_nil _⟩

/-- A run is calm if its first event is and the rest of it. -/
theorem Calm.cons {e : Event} {events : List Event} (he : s.allows e) (hexpires : ¬ s.expires e)
    (hrecovers : ¬ s.recovers e) (h : (s.next retries e).Calm retries events) :
    s.Calm retries (e :: events) := by
  refine ⟨?_, ?_⟩
  · rw [Crowd.runs, he, h.runs, Bool.and_true]
  · rw [trace, List.forall_mem_cons]
    exact ⟨⟨hexpires, hrecovers⟩, h.calm⟩

/-- Two calm runs make one. -/
theorem Calm.append {events events' : List Event} (h : s.Calm retries events)
    (h' : (s.after retries events).Calm retries events') :
    s.Calm retries (events ++ events') := by
  -- The induction is on the first run; its last state is where the second one begins.
  induction events generalizing s with
  | nil => exact h'
  | cons e events ih =>
    have hruns := h.runs
    have hcalm := h.calm
    rw [Crowd.runs, Bool.and_eq_true] at hruns
    rw [trace, List.forall_mem_cons] at hcalm
    exact .cons hruns.1 hcalm.1.1 hcalm.1.2 (ih ⟨hruns.2, hcalm.2⟩ h')

/-- A process goes on while the others stand still, without an expired wait or a recovery. -/
structure Solo (retries : Pid → Nat) (s : Crowd) (p : Pid) (t : Crowd) : Prop where
  exists_calm : ∃ events, s.Calm retries events ∧ s.after retries events = t
  alive_eq : t.alive = s.alive
  phase_eq : ∀ q, q ≠ p → t.phase q = s.phase q

/-- A process may stand still. -/
theorem Solo.refl (s : Crowd) (p : Pid) : s.Solo retries p s :=
  ⟨⟨[], .nil, rfl⟩, rfl, fun _ _ => rfl⟩

/-- One event that moves a process alone, and calmly. -/
theorem Solo.of_next {e : Event} (he : s.allows e) (hexpires : ¬ s.expires e)
    (hrecovers : ¬ s.recovers e) (hnext : s.next retries e = s.put p w word) :
    s.Solo retries p (s.put p w word) :=
  ⟨⟨[e], .cons he hexpires hrecovers .nil, hnext⟩, rfl, fun _ => phase_put_of_ne⟩

/-- A process that goes on twice goes on. -/
theorem Solo.trans {u : Crowd} (h : s.Solo retries p t) (h' : t.Solo retries p u) :
    s.Solo retries p u := by
  obtain ⟨events, hcalm, rfl⟩ := h.exists_calm
  obtain ⟨events', hcalm', rfl⟩ := h'.exists_calm
  exact ⟨⟨events ++ events', hcalm.append hcalm', after_append events events'⟩,
    h'.alive_eq.trans h.alive_eq, fun q hq => (h'.phase_eq q hq).trans (h.phase_eq q hq)⟩

/-- While one process goes on the others have what they had. -/
theorem Solo.has_iff (h : s.Solo retries p t) (hq : q ≠ p) : t.has q ↔ s.has q := by
  rw [has, has, h.alive_eq, h.phase_eq q hq]

/-- While one process goes on the others hold what they held. -/
theorem Solo.holds_iff (h : s.Solo retries p t) (hq : q ≠ p) : t.holds q ↔ s.holds q := by
  rw [holds, holds, h.alive_eq, h.phase_eq q hq]

/-- While one process goes on the others are as ready as they were. -/
theorem Solo.isReady_iff (h : s.Solo retries p t) (hq : q ≠ p) : t.isReady q ↔ s.isReady q := by
  rw [isReady, isReady, h.alive_eq, h.phase_eq q hq]

/-- Who has the lock comes to hold it. -/
theorem exists_holds_of_has (h : s.has p) : ∃ t, s.Solo retries p t ∧ t.holds p := by
  rw [has, Bool.and_eq_true, Option.any_eq_true] at h
  obtain ⟨hlive, w, hw, hinside⟩ := h
  -- A process has the lock as soon as it has passed; it holds it after one step more.
  cases w with
  | acquired =>
    refine ⟨_, .of_next (e := .move p) ?_ ?_ ?_ (next_move hw), ?_⟩
    · rw [allows, hlive, hw]
      rfl
    · simp [expires, hw]
    · simp [recovers, hw]
    · rw [holds, alive_put, hlive, phase_put_self]
      rfl
  | holding =>
    refine ⟨s, .refl s p, ?_⟩
    rw [holds, hlive, hw]
    rfl
  | _ => cases hinside

/-- Whom the semaphore lets pass has the lock. -/
private theorem exists_has_of_waiting {trials : Nat} (hlive : s.alive p)
    (hphase : s.phase p = some (.waiting trials)) (hpos : 0 < s.word.count) :
    ∃ t, s.Solo retries p t ∧ t.has p ∧ s.word.count ≤ t.word.count + 1 := by
  have hnext : s.next retries (.move p) = _ := next_move hphase
  rw [Waiter.step, if_pos hpos] at hnext
  -- The one event is neither an expired wait nor a recovery, since the count lets the process pass.
  refine ⟨_, .of_next (e := .move p) ?_ ?_ ?_ hnext, ?_, ?_⟩
  · rw [allows, hlive, hphase]
    rfl
  · simp [expires, hphase, Nat.ne_of_gt hpos]
  · simp [recovers, hphase]
  · rw [has_put_self, hlive]
    rfl
  · exact Nat.le_add_of_sub_le (Nat.le_refl (s.word.count - 1))

/-- Who is ready gets the lock if the semaphore lets anybody pass. -/
theorem exists_has_of_isReady (h : s.isReady p) (hpos : 0 < s.word.count) :
    ∃ t, s.Solo retries p t ∧ t.has p ∧ s.word.count ≤ t.word.count + 1 := by
  simp only [isReady, Bool.and_eq_true] at h
  obtain ⟨⟨hne, hlive⟩, hphase⟩ := h
  split at hphase
  next hnone =>
    -- The process begins to wait first.
    have henter : s.Solo retries p (s.put p (some (.waiting 0)) s.word) := by
      refine .of_next (e := .enter p) ?_ Bool.false_ne_true Bool.false_ne_true rfl
      rw [allows, hne, hlive, hnone]
      rfl
    obtain ⟨t, ht, hhas, hcount⟩ := exists_has_of_waiting
      (s := s.put p (some (.waiting 0)) s.word) hlive phase_put_self hpos
    exact ⟨t, henter.trans ht, hhas, hcount⟩
  next trials hwaiting => exact exists_has_of_waiting hlive hwaiting hpos
  next => cases hphase

/-- Who is ready does not have the lock. -/
private theorem not_has_of_isReady (h : s.isReady p) : ¬ s.has p := by
  simp only [isReady, Bool.and_eq_true] at h
  obtain ⟨⟨-, hlive⟩, hphase⟩ := h
  split at hphase
  next hnone => exact not_has_of_phase_eq_none hnone
  next hwaiting =>
    intro hp
    cases (has_iff_of_phase hlive hwaiting).1 hp
  next => cases hphase

/-- Two processes hold the lock after a run in which no timed wait expires and nobody recovers the
lock. -/
def Breaks (retries : Pid → Nat) (s : Crowd) : Prop :=
  ∃ events, s.Calm retries events ∧
    ∃ p q, p ≠ q ∧ (s.after retries events).holds p ∧ (s.after retries events).holds q

/-- What breaks later breaks now. -/
theorem Solo.breaks (h : s.Solo retries p t) (ht : t.Breaks retries) : s.Breaks retries := by
  obtain ⟨events, hcalm, rfl⟩ := h.exists_calm
  obtain ⟨events', hcalm', p, q, hne, hp, hq⟩ := ht
  rw [← after_append] at hp hq
  exact ⟨events ++ events', hcalm.append hcalm', p, q, hne, hp, hq⟩

/-- Two processes that have the lock come to hold it together. -/
theorem breaks_of_has (hne : p ≠ q) (hp : s.has p) (hq : s.has q) : s.Breaks retries := by
  obtain ⟨t, ht, hp'⟩ := exists_holds_of_has hp
  obtain ⟨u, hu, hq'⟩ := exists_holds_of_has ((ht.has_iff hne.symm).2 hq)
  obtain ⟨events, hcalm, rfl⟩ := hu.exists_calm
  exact ht.breaks ⟨events, hcalm, p, q, hne, (hu.holds_iff hne).2 hp', hq'⟩

/-- A lock that is not with one process breaks as soon as two processes go for it, and only then
can two processes hold it without a recovery. -/
theorem breaks_iff (hne : p ≠ q) (hp : s.isReady p) (hq : s.isReady q) :
    s.Breaks retries ↔ ¬ s.Single := by
  constructor
  · -- Without a recovery the lock stays with one process.
    rintro ⟨events, ⟨hruns, hcalm⟩, x, y, hxy, hx, hy⟩ hs
    have hsingle : (s.after retries events).Single :=
      ((singleAlong_iff hs hruns).2 fun z hz hrecovers => absurd hrecovers (hcalm z hz).2).2
    exact hxy (hsingle.eq_of_has x y (has_of_holds hx) (has_of_holds hy))
  · intro hs
    by_contra hbreaks
    refine hs ⟨?_, fun x y hx hy => ?_, fun hpos x hx => ?_⟩
    · -- The semaphore lets both pass.
      by_contra hcount
      obtain ⟨t, ht, hp', hle⟩ := exists_has_of_isReady hp (by omega)
      obtain ⟨u, hu, hq', -⟩ := exists_has_of_isReady ((ht.isReady_iff hne.symm).2 hq) (by omega)
      exact hbreaks (ht.breaks (hu.breaks (breaks_of_has hne ((hu.has_iff hne).2 hp') hq')))
    · by_contra hxy
      exact hbreaks (breaks_of_has hxy hx hy)
    · -- The semaphore lets one pass, and another one has the lock.
      have hxp : x ≠ p := by
        rintro rfl
        exact not_has_of_isReady hp hx
      obtain ⟨t, ht, hp', -⟩ := exists_has_of_isReady hp hpos
      exact hbreaks (ht.breaks (breaks_of_has hxp ((ht.has_iff hxp).2 hx) hp'))

/-! ## Exclusion -/

/-- Processes 1, 2 and 3 at a free lock. -/
def three : Crowd where
  word := { count := 1, owner := 0 }
  alive p := p == 1 || p == 2 || p == 3
  phase _ := none

/-- Process 1 dies with the lock, and process 2 takes it over. -/
def crash : List Event :=
  [.enter 1, .move 1, .move 1, .die 1, .enter 2, .move 2, .move 2, .move 2, .move 2]

/-- Process 1 dies with the lock. Processes 2 and 3 both find it dead; 2 takes the lock over, and 3
declines, releases the lock by force, and passes. -/
def race : List Event :=
  [.enter 1, .move 1, .move 1, .die 1, .enter 2, .enter 3, .move 2, .move 3, .move 2, .move 3,
    .move 2, .move 2, .move 3, .move 3, .move 3, .move 3, .move 3]

/-- It is a start. -/
private theorem start_three : three.Start := ⟨rfl, fun _ => rfl⟩

/-- In a run of the three nobody else has the lock or is late. -/
private theorem not_of_mem_trace {events : List Event} {x : Crowd × Event} {f : Pid → Bool}
    (hx : x ∈ three.trace retries events) (hf : ∀ p, f p → x.1.alive p)
    (h : ¬ f 1 ∧ ¬ f 2 ∧ ¬ f 3) (p : Pid) : ¬ f p := by
  intro hp
  -- Only three processes were ever alive.
  have hlive : three.alive p := alive_of_mem_trace hx (hf p hp)
  simp only [three, Bool.or_eq_true, beq_iff_eq] at hlive
  rcases hlive with (rfl | rfl) | rfl
  · exact h.1 hp
  · exact h.2.1 hp
  · exact h.2.2 hp

/-- The lock stays with one living process throughout a run exactly when each recovery finds it
orphaned. That is so if no timed wait expires while a living process has the lock or is late. Where
the lock is not with one process, two processes that are ready can come to hold it together with
no wait expiring and no recovery; where it is, they cannot. -/
theorem exclusive_iff_recoveries_orphaned {events : List Event} (hs : s.Start)
    (hruns : s.runs retries events) :
    (s.SingleAlong retries events ↔
      ∀ x ∈ s.trace retries events, x.1.recovers x.2 → x.1.Orphaned) ∧
    ((∀ x ∈ s.trace retries events, x.1.Patient x.2) → s.SingleAlong retries events) ∧
    ∀ p q, p ≠ q → (s.after retries events).isReady p → (s.after retries events).isReady q →
      ((s.after retries events).Breaks retries ↔ ¬ (s.after retries events).Single) :=
  ⟨singleAlong_iff hs.single hruns, hs.alone.singleAlong hruns, fun _ _ => breaks_iff⟩

/-- One waiter alone recovers from the death of the owner. -/
theorem exclusive_iff_recoveries_orphaned_of_crash :
    three.Start ∧ three.runs (fun _ => 30) crash ∧ (three.after (fun _ => 30) crash).holds 2 ∧
      three.SingleAlong (fun _ => 30) crash := by
  have hruns : three.runs (fun _ => 30) crash := by decide
  -- When the waits expire, nobody alive has the lock or is late already.
  have hpatient : ∀ x ∈ three.trace (fun _ => 30) crash, x.1.expires x.2 →
      (¬ x.1.has 1 ∧ ¬ x.1.has 2 ∧ ¬ x.1.has 3) ∧
        ¬ x.1.isLate 1 ∧ ¬ x.1.isLate 2 ∧ ¬ x.1.isLate 3 := by decide
  refine ⟨start_three, hruns, by decide, ?_⟩
  refine (exclusive_iff_recoveries_orphaned start_three hruns).2.1 fun x hx hexpires p => ?_
  obtain ⟨hhas, hlate⟩ := hpatient x hx hexpires
  exact ⟨not_of_mem_trace hx (fun _ => alive_of_has) hhas p,
    not_of_mem_trace hx (fun _ => alive_of_isLate) hlate p⟩

/-- It is not enough for exclusion that no timed wait expires while a living process has the
lock: two waiters that find the same dead owner come to hold it together. -/
theorem not_exclusive : ¬ ∀ (retries : Pid → Nat) (s : Crowd) (events : List Event), s.Start →
    s.runs retries events →
    (∀ x ∈ s.trace retries events, x.1.expires x.2 → ∀ p, ¬ x.1.has p) →
    ∀ p q, (s.after retries events).holds p → (s.after retries events).holds q → p = q := by
  intro h
  -- The waits that expire do so after the death of process 1 and before the takeover.
  have hwaits : ∀ x ∈ three.trace (fun _ => 30) race, x.1.expires x.2 →
      ¬ x.1.has 1 ∧ ¬ x.1.has 2 ∧ ¬ x.1.has 3 := by decide
  have heq : (2 : Pid) = 3 :=
    h (fun _ => 30) three race start_three (by decide)
      (fun x hx hexpires => not_of_mem_trace hx (fun _ => alive_of_has) (hwaits x hx hexpires))
      2 3 (by decide) (by decide)
  exact absurd heq (by decide)

end Crowd

end GpuQuota
