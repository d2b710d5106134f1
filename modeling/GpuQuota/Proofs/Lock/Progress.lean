import GpuQuota.Member
import Mathlib.Logic.Function.Iterate

/-!
# The lock is always obtained

A process that nobody disturbs gets the region lock whatever it finds in the lock word. How long
that takes depends on whom it finds: with a free semaphore no wait expires, with an own or dead
owner one wait does, and with any other owner, or none, the whole budget of retries is spent first.
The budget has to be one that can be spent, since expired waits are counted up to a largest number
only.

The module introduces:

* `Waiter.advance` — one step of a waiter, counting the timed waits that expire.
* `Waiter.run_eq_iterate` — the protocol run to its end is a number of single steps.
* `LockWord.count_acquire_le` — none of them drives the count beyond the largest one.
* `Waiter.Obtains` — a waiter comes to hold the lock.
* `Waiter.obtains_of_pos`, `.obtains_of_stale`, `.obtains_of_unowned`, `.obtains_of_living` — how
  it gets there from each lock word.
* `Waiter.not_obtains` — with a budget that cannot be spent a living owner is waited for without
  end.
* `LockWord.delay`, `LockWord.exists_obtains` — how many waits expire until the lock is obtained.
* `Member.lock_obtained` — every process with another budget gets the lock, and gives it back.
-/

namespace GpuQuota

/-- A post leaves a count that lets somebody pass, and not more than the largest one. -/
theorem postCount_mem {count : Nat} (h : count ≤ countMax) :
    0 < postCount count ∧ postCount count ≤ countMax := by
  rcases Nat.lt_or_eq_of_le h with hlt | rfl
  · rw [postCount_of_lt hlt]
    exact ⟨Nat.succ_pos count, hlt⟩
  · rw [postCount, if_pos rfl]
    exact ⟨by decide, Nat.le_refl _⟩

namespace Waiter

variable {me : Pid} {alive : Pid → Bool} {retries steps late : Nat} {w w' w'' : LockWord}
  {p p' : Waiter}

/-! ## Single steps -/

/-- One step of a waiter, with the number of timed waits that have expired so far. -/
def advance (me : Pid) (alive : Pid → Bool) (retries : Nat) (x : Waiter × Attempt) :
    Waiter × Attempt :=
  let (p, word) := x.1.step me alive retries x.2.word
  let late := match p with
    | .expired _ => 1
    | _ => 0
  (p, ⟨word, x.2.expired + late⟩)

/-- Who holds the lock stays where it is. -/
theorem advance_holding (a : Attempt) :
    advance me alive retries (.holding, a) = (.holding, a) := rfl

/-- The protocol run to its end takes single steps, as many as it is allowed. -/
theorem run_eq_iterate (fuel : Nat) (p : Waiter) (a : Attempt) :
    run me alive retries fuel p a = ((advance me alive retries)^[fuel] (p, a)).2 := by
  induction fuel generalizing p a with
  | zero => rfl
  | succ fuel ih =>
    rw [Function.iterate_succ_apply]
    -- A process that holds the lock stands still, so that fuel left over changes nothing.
    by_cases hp : p = .holding
    · rw [hp, advance_holding, Function.iterate_fixed (advance_holding a), run]
    · rw [run]
      · exact ih (p.step me alive retries a.word).1 _
      · exact hp

/-- No step of a waiter drives the count beyond the largest one. -/
theorem count_step_le (p : Waiter) (h : w.count ≤ countMax) :
    (p.step me alive retries w).2.count ≤ countMax := by
  -- Only a forced release raises the count, and that stops at the greatest one.
  cases p with
  | waiting trials =>
    rw [step]
    split
    next => exact Nat.le_trans (Nat.sub_le w.count 1) h
    next => exact h
  | expired trials =>
    rw [step]
    split <;> exact h
  | recovering claimUnowned =>
    show (if claimUnowned ∧ w.owner = 0 then { w with owner := me } else w).count ≤ countMax
    split <;> exact h
  | deciding =>
    rw [step]
    split <;> exact h
  | forcing => exact (postCount_mem h).2
  | acquired => exact h
  | holding => exact h

/-! ## Coming to hold the lock -/

/-- From how far it has come and from a lock word a waiter that nobody disturbs comes to hold the
lock in so many steps. So many of its timed waits expire on the way, and it leaves the lock word as
given. -/
def Obtains (me : Pid) (alive : Pid → Bool) (retries steps : Nat) (p : Waiter) (w : LockWord)
    (late : Nat) (w' : LockWord) : Prop :=
  ∀ n, (advance me alive retries)^[steps] (p, ⟨w, n⟩) = (.holding, ⟨w', n + late⟩)

namespace Obtains

/-- Whoever holds the lock has nothing left to do. -/
theorem holding : Obtains me alive retries 0 .holding w 0 w := fun _ => rfl

/-- One step comes before the others. -/
theorem of_advance {k : Nat} (hstep : ∀ n, advance me alive retries (p, ⟨w, n⟩) = (p', ⟨w', n + k⟩))
    (h : Obtains me alive retries steps p' w' late w'') :
    Obtains me alive retries (steps + 1) p w (k + late) w'' := by
  intro n
  rw [Function.iterate_succ_apply, hstep, h, Nat.add_assoc]

/-- More steps than are needed lead nowhere else. -/
theorem mono {more : Nat} (h : Obtains me alive retries steps p w late w') (hle : steps ≤ more) :
    Obtains me alive retries more p w late w' := by
  intro n
  rw [← Nat.sub_add_cancel hle, Function.iterate_add_apply, h,
    Function.iterate_fixed (advance_holding _)]

/-- So the protocol run to its end ends where the waiter holds the lock. -/
theorem acquire_eq (h : Obtains me alive retries steps (.waiting 0) w late w')
    (hle : steps ≤ 2 * retries + 12) : w.acquire me alive retries = ⟨w', late⟩ := by
  rw [LockWord.acquire, run_eq_iterate, h.mono hle, Nat.zero_add]

end Obtains

/-! ### The ways there -/

/-- A wait expires where the semaphore lets nobody pass. -/
theorem advance_waiting (hcount : w.count = 0) (trials n : Nat) :
    advance me alive retries (.waiting trials, ⟨w, n⟩) =
      (.expired (min (trials + 1) trialsMax), ⟨w, n + 1⟩) := by
  simp [advance, step, hcount]

/-- The counter of the trials rises until it is full. -/
theorem advance_waiting_of_lt {trials : Nat} (hcount : w.count = 0) (hlt : trials < trialsMax)
    (n : Nat) : advance me alive retries (.waiting trials, ⟨w, n⟩) =
      (.expired (trials + 1), ⟨w, n + 1⟩) := by
  rw [advance_waiting hcount, Nat.min_eq_left hlt]

/-- Whoever recovers without a claim looks again at the word as it is. -/
theorem advance_recovering (n : Nat) :
    advance me alive retries (.recovering false, ⟨w, n⟩) = (.deciding, ⟨w, n + 0⟩) := by
  simp [advance, step]

/-- A semaphore that lets somebody pass is passed at once. -/
theorem obtains_of_pos (hpos : 0 < w.count) (trials : Nat) :
    Obtains me alive retries 2 (.waiting trials) w 0 ⟨w.count - 1, me⟩ := by
  have hpass : ∀ n, advance me alive retries (.waiting trials, ⟨w, n⟩) =
      (.acquired, ⟨{ w with count := w.count - 1 }, n + 0⟩) := by
    intro n
    simp [advance, step, hpos]
  have hstore : ∀ n, advance me alive retries (.acquired, ⟨{ w with count := w.count - 1 }, n⟩) =
      (.holding, ⟨⟨w.count - 1, me⟩, n + 0⟩) := fun _ => rfl
  exact .of_advance hpass (.of_advance hstore .holding)

/-- A lock that belongs to the waiter or to a dead process is taken over when its turn has come. -/
theorem obtains_of_deciding (hstale : takeoverAllowed w.holder? me alive = true) :
    Obtains me alive retries 1 .deciding w 0 { w with owner := me } := by
  have htake : ∀ n, advance me alive retries (.deciding, ⟨w, n⟩) =
      (.holding, ⟨{ w with owner := me }, n + 0⟩) := by
    intro n
    simp [advance, step, hstale]
  exact .of_advance htake .holding

/-- An own or dead owner is found out when the first wait has expired. -/
theorem obtains_of_stale (hcount : w.count = 0)
    (hstale : takeoverAllowed w.holder? me alive = true) (trials : Nat) :
    Obtains me alive retries 4 (.waiting trials) w 1 { w with owner := me } := by
  -- The first wait that expires goes straight to recovery, as the holder is gone.
  have hrecover : ∀ n, advance me alive retries (.expired (min (trials + 1) trialsMax), ⟨w, n⟩) =
      (.recovering false, ⟨w, n + 0⟩) := by
    intro n
    simp [advance, step, onTimeout, hstale]
  exact .of_advance (advance_waiting hcount trials)
    (.of_advance hrecover (.of_advance advance_recovering (obtains_of_deciding hstale)))

/-- Where there is nobody to take over from, the whole budget is spent before the waiter goes on. -/
theorem obtains_of_budget (hcount : w.count = 0)
    (hkept : takeoverAllowed w.holder? me alive = false) (hretries : retries < trialsMax)
    (h : Obtains me alive retries steps (.expired (retries + 1)) w late w') :
    Obtains me alive retries (2 * retries + 1 + steps) (.waiting 0) w (retries + 1 + late) w' := by
  -- By induction on what is left of the budget.
  have hleft : ∀ left trials, trials + left = retries →
      Obtains me alive retries (2 * left + 1 + steps) (.waiting trials) w (left + 1 + late) w' := by
    intro left
    induction left with
    | zero =>
      rintro trials rfl
      have hsteps : 2 * 0 + 1 + steps = steps + 1 := by omega
      rw [hsteps, Nat.zero_add]
      exact .of_advance (advance_waiting_of_lt hcount hretries) h
    | succ left ih =>
      intro trials hsum
      have hwait : ∀ n, advance me alive retries (.expired (trials + 1), ⟨w, n⟩) =
          (.waiting (trials + 1), ⟨w, n + 0⟩) := by
        intro n
        have hwithin : ¬ retries < trials + 1 := by omega
        simp [advance, step, onTimeout, hkept, hwithin]
      have hsteps : 2 * (left + 1) + 1 + steps = 2 * left + 1 + steps + 1 + 1 := by omega
      have hlate : left + 1 + 1 + late = 1 + (0 + (left + 1 + late)) := by omega
      rw [hsteps, hlate]
      exact .of_advance (advance_waiting_of_lt hcount (by omega))
        (.of_advance hwait (ih (trials + 1) (by omega)))
  exact hleft retries 0 (Nat.zero_add _)

/-- With the budget spent a lock that nobody owns is claimed and taken over. -/
theorem obtains_of_unowned (hme : me ≠ 0) (hcount : w.count = 0) (howner : w.owner = 0)
    (hretries : retries < trialsMax) :
    Obtains me alive retries (2 * retries + 4) (.waiting 0) w (retries + 1)
      { w with owner := me } := by
  -- Nobody is noted as the owner, so the process notes itself when its budget is spent, and then
  -- passes.
  have hnobody : w.holder? = none := if_pos howner
  have hkept : takeoverAllowed w.holder? me alive = false := by
    rw [hnobody, takeoverAllowed]
  have hrecover : ∀ n, advance me alive retries (.expired (retries + 1), ⟨w, n⟩) =
      (.recovering true, ⟨w, n + 0⟩) := by
    intro n
    simp [advance, step, onTimeout, hnobody, takeoverAllowed]
  have hclaim : ∀ n, advance me alive retries (.recovering true, ⟨w, n⟩) =
      (.deciding, ⟨{ w with owner := me }, n + 0⟩) := by
    intro n
    simp [advance, step, howner]
  have hstale : takeoverAllowed ({ w with owner := me } : LockWord).holder? me alive = true := by
    simp [LockWord.holder?, takeoverAllowed, hme]
  exact obtains_of_budget hcount hkept hretries
    (.of_advance hrecover (.of_advance hclaim (obtains_of_deciding hstale)))

/-- With the budget spent the lock of a living owner is released by force, and then passed like a
free one. -/
theorem obtains_of_living (hcount : w.count = 0) (howner : w.owner ≠ 0)
    (hkept : takeoverAllowed w.holder? me alive = false) (hretries : retries < trialsMax) :
    Obtains me alive retries (2 * retries + 7) (.waiting 0) w (retries + 1)
      { w with owner := me } := by
  -- The holder lives, so that the whole budget is spent before recovery; that declines, posts, and
  -- waits once more.
  have hrecover : ∀ n, advance me alive retries (.expired (retries + 1), ⟨w, n⟩) =
      (.recovering false, ⟨w, n + 0⟩) := by
    intro n
    simp [advance, step, onTimeout, LockWord.holder?, howner]
  have hdecline : ∀ n, advance me alive retries (.deciding, ⟨w, n⟩) = (.forcing, ⟨w, n + 0⟩) := by
    intro n
    simp [advance, step, hkept]
  have hforce : ∀ n, advance me alive retries (.forcing, ⟨w, n⟩) =
      (.waiting 0, ⟨{ w with count := 1 }, n + 0⟩) := by
    intro n
    simp [advance, step, hcount, postCount, countMax]
  have hpass : Obtains me alive retries 2 (.waiting 0) { w with count := 1 } 0 ⟨1 - 1, me⟩ :=
    obtains_of_pos Nat.one_pos 0
  have hword : (⟨1 - 1, me⟩ : LockWord) = { w with owner := me } := by rw [hcount]
  rw [hword] at hpass
  exact obtains_of_budget hcount hkept hretries (.of_advance hrecover
    (.of_advance advance_recovering (.of_advance hdecline (.of_advance hforce hpass))))

/-! ### Budgets that cannot be spent -/

/-- A waiter whose budget is beyond what it counts never gets past a living owner. -/
theorem not_obtains (hcount : w.count = 0) (hkept : takeoverAllowed w.holder? me alive = false)
    (hretries : trialsMax ≤ retries) : ¬ Obtains me alive retries steps (.waiting 0) w late w' := by
  -- It goes back and forth between the two states in which it waits and looks at the owner.
  have hturns : ∀ steps n, ∃ trials, trials ≤ trialsMax ∧ ∃ n',
      (advance me alive retries)^[steps] (.waiting 0, ⟨w, n⟩) = (.waiting trials, ⟨w, n'⟩) ∨
      (advance me alive retries)^[steps] (.waiting 0, ⟨w, n⟩) = (.expired trials, ⟨w, n'⟩) := by
    intro steps n
    induction steps with
    | zero => exact ⟨0, Nat.zero_le _, n, .inl rfl⟩
    | succ steps ih =>
      obtain ⟨trials, htrials, n', hwaiting | hexpired⟩ := ih
      · refine ⟨min (trials + 1) trialsMax, Nat.min_le_right _ _, n' + 1, .inr ?_⟩
        rw [Function.iterate_succ_apply', hwaiting, advance_waiting hcount]
      · refine ⟨trials, htrials, n', .inl ?_⟩
        have hwithin : ¬ retries < trials := by omega
        rw [Function.iterate_succ_apply', hexpired]
        simp [advance, step, onTimeout, hkept, hwithin]
  intro h
  obtain ⟨trials, -, n', hwaiting | hexpired⟩ := hturns steps 0
  · rw [h] at hwaiting
    cases hwaiting
  · rw [h] at hexpired
    cases hexpired

end Waiter

/-! ## How long it takes -/

namespace LockWord

variable {w : LockWord} {me : Pid} {alive : Pid → Bool}

/-- An attempt to take the lock leaves the count in its range. -/
theorem count_acquire_le (retries : Nat) (h : w.count ≤ countMax) :
    (w.acquire me alive retries).word.count ≤ countMax := by
  rw [acquire, Waiter.run_eq_iterate]
  exact Function.Iterate.rec (fun x : Waiter × Attempt => x.2.word.count ≤ countMax)
    h (fun x hx => x.1.count_step_le hx) _

/-- A process takes over from itself and from the dead. -/
theorem takeoverAllowed_iff :
    takeoverAllowed w.holder? me alive = true ↔
      w.owner ≠ 0 ∧ (w.owner = me ∨ alive w.owner = false) := by
  rw [holder?]
  split
  next hzero => simp [takeoverAllowed, hzero]
  next hzero => simp [takeoverAllowed, hzero]

/-- How many timed waits expire before a process that nobody disturbs gets the lock. -/
def delay (w : LockWord) (me : Pid) (alive : Pid → Bool) (retries : Nat) : Nat :=
  if 0 < w.count then 0
  else if takeoverAllowed w.holder? me alive then 1
  else retries + 1

variable (retries : Nat)

theorem delay_of_pos (hpos : 0 < w.count) : w.delay me alive retries = 0 := if_pos hpos

/-- An own owner, or one that is gone, costs one wait. -/
theorem delay_of_stale (hme : me ≠ 0) (hcount : w.count = 0)
    (h : w.owner = me ∨ w.owner ≠ 0 ∧ alive w.owner = false) : w.delay me alive retries = 1 := by
  have hstale : takeoverAllowed w.holder? me alive = true := by
    rw [takeoverAllowed_iff]
    rcases h with hown | ⟨howner, hdead⟩
    · exact ⟨hown ▸ hme, .inl hown⟩
    · exact ⟨howner, .inr hdead⟩
  rw [delay, if_neg (by omega), if_pos hstale]

/-- No owner, or another one that lives, costs the whole budget. -/
theorem delay_of_kept (hcount : w.count = 0)
    (h : w.owner = 0 ∨ w.owner ≠ me ∧ alive w.owner = true) :
    w.delay me alive retries = retries + 1 := by
  -- With nobody noted or a living holder there is no takeover before the budget is spent.
  have hkept : ¬ takeoverAllowed w.holder? me alive = true := by
    rw [takeoverAllowed_iff]
    rintro ⟨howner, hgone⟩
    rcases h with hnobody | ⟨hother, halive⟩
    · exact howner hnobody
    · rcases hgone with hown | hdead
      · exact hother hown
      · rw [halive] at hdead
        cases hdead
  rw [delay, if_neg (by omega), if_neg hkept]

/-- Whatever is in the lock word, a process that nobody disturbs obtains the lock, after as many
expired waits as that takes. -/
theorem exists_obtains (w : LockWord) (alive : Pid → Bool) (hme : me ≠ 0)
    (hretries : retries < trialsMax) :
    ∃ steps ≤ 2 * retries + 12, Waiter.Obtains me alive retries steps (.waiting 0) w
      (w.delay me alive retries) ⟨w.count - 1, me⟩ := by
  rcases Nat.eq_zero_or_pos w.count with hzero | hpos
  · -- Who is noted decides how long the wait is: a dead holder, nobody, or a living one.
    have hword : (⟨w.count - 1, me⟩ : LockWord) = { w with owner := me } := by rw [hzero]
    rw [hword, delay, if_neg (by omega)]
    by_cases hstale : takeoverAllowed w.holder? me alive = true
    · rw [if_pos hstale]
      exact ⟨4, by omega, Waiter.obtains_of_stale hzero hstale 0⟩
    · rw [if_neg hstale]
      by_cases howner : w.owner = 0
      · exact ⟨_, by omega, Waiter.obtains_of_unowned hme hzero howner hretries⟩
      · rw [Bool.not_eq_true] at hstale
        exact ⟨_, by omega, Waiter.obtains_of_living hzero howner hstale hretries⟩
  · rw [delay_of_pos retries hpos]
    exact ⟨2, by omega, Waiter.obtains_of_pos hpos 0⟩

end LockWord

/-! ## Members -/

namespace Member

/-- A process that nobody disturbs gets the lock, whatever is in the lock word and whoever it takes
for alive. No timed wait expires if the semaphore lets it pass, one does if the owner is the process
itself or dead, and otherwise one more than its budget. Under the lock the process is the owner;
when it gives the lock back nobody is, and the semaphore lets one more process pass. -/
theorem lock_obtained (m : Member) (s : Seat) (hpid : m.pid ≠ 0)
    (hcount : s.region.lock.count ≤ countMax) (hretries : m.settings.lock.retries < trialsMax) :
    let w := s.region.lock
    let retries := m.settings.lock.retries
    ∃ late steps,
      (Waiter.advance m.pid m.alive retries)^[steps] (.waiting 0, ⟨w, s.expired⟩) =
        (.holding, ⟨⟨w.count - 1, m.pid⟩, s.expired + late⟩) ∧
      (0 < w.count → late = 0) ∧
      (w.count = 0 → w.owner = m.pid ∨ w.owner ≠ 0 ∧ m.alive w.owner = false → late = 1) ∧
      (w.count = 0 → w.owner = 0 ∨ w.owner ≠ m.pid ∧ m.alive w.owner = true →
        late = retries + 1) ∧
      m.locked (fun r => (r.lock, r)) s =
        (⟨w.count - 1, m.pid⟩,
          { s with
            region := { s.region with lock := ⟨w.count - 1 + 1, 0⟩ }
            expired := s.expired + late }) := by
  intro w retries
  obtain ⟨steps, hle, hobtains⟩ := w.exists_obtains retries m.alive hpid hretries
  refine ⟨_, steps, hobtains s.expired, LockWord.delay_of_pos retries,
    LockWord.delay_of_stale retries hpid, LockWord.delay_of_kept retries, ?_⟩
  -- The count is one less now, so that the post goes through.
  have hpost : postCount (s.region.lock.count - 1) = s.region.lock.count - 1 + 1 :=
    postCount_of_lt (by simp only [countMax] at hcount ⊢; omega)
  have hacquire : s.region.lock.acquire m.pid m.alive m.settings.lock.retries = _ :=
    hobtains.acquire_eq hle
  unfold locked
  rw [hacquire]
  dsimp only
  rw [LockWord.release, hpost]

/-- A process waits for a lock that a living process keeps: after 31 expired waits it is released by
force, and taken. -/
theorem lock_obtained_of_living :
    let m : Member := ⟨7, .standard, fun _ => true⟩
    let s : Seat := { region := { Region.zero with lock := ⟨0, 9⟩ } }
    s.region.lock.count = 0 ∧ s.region.lock.owner ≠ m.pid ∧
      ∃ steps, (Waiter.advance 7 m.alive 30)^[steps] (.waiting 0, ⟨⟨0, 9⟩, 0⟩) =
        (.holding, ⟨⟨0, 7⟩, 31⟩) := by
  intro m s
  refine ⟨rfl, by decide, ?_⟩
  obtain ⟨late, steps, hsteps, -, -, hlate, -⟩ :=
    m.lock_obtained s (by decide) (by decide) (by decide)
  -- The holder is another process that lives, so the wait is the longest one.
  rw [hlate rfl (.inr ⟨by decide, rfl⟩)] at hsteps
  exact ⟨steps, hsteps⟩

end Member

end GpuQuota
