import GpuQuota.Slot

/-!
# The region lock

A counting semaphore guards the region, and beside it stands the process identifier of the holder,
which the semaphore itself cannot tell. A waiter whose timed wait expires looks at that owner. If
it is the waiter itself or dead, the waiter takes the lock over. Otherwise it waits again, until
its budget of retries is spent; then it recovers anyway: an unowned lock is claimed and taken
over, a lock of another living owner is released by force and waited for again.

The module introduces:

* `postCount` — what a post makes of a semaphore count.
* `LockWord` — semaphore count and owner.
* `TimeoutAction`, `onTimeout`, `takeoverAllowed` — what a waiter may do.
* `Waiter`, `Waiter.step` — the protocol as single steps of one process.
* `LockWord.acquire` — the protocol run to its end while nobody else moves, with the number of
  timed waits that expired on the way.
-/

namespace GpuQuota

/-- The count that a post does not pass. -/
def countMax : Nat := 0x7FFFFFFF

/-- A semaphore count after a post. At the largest count a post fails and changes nothing. A count
that was written beyond it goes on as a 32-bit word. -/
def postCount (count : Nat) : Nat := if count = countMax then count else (count + 1) % 0x100000000

/-- Below the largest count a post adds one. -/
theorem postCount_of_lt {count : Nat} (h : count < countMax) : postCount count = count + 1 := by
  simp only [countMax] at h
  have : count + 1 < 0x100000000 := by omega
  simp only [postCount, countMax, if_neg (show count ≠ 0x7FFFFFFF by omega),
    Nat.mod_eq_of_lt this]

/-- The region lock: a semaphore and the owner that its holder stores. -/
structure LockWord where
  /-- The semaphore count, as an unsigned word. -/
  count : Nat := 0
  /-- The holder; zero if the lock is not owned. -/
  owner : Pid := 0
  deriving DecidableEq, Repr, Inhabited

/-- The owner of a lock word, if there is one. -/
def LockWord.holder? (w : LockWord) : Option Pid := if w.owner = 0 then none else some w.owner

/-- How the owner of a lock is shown. -/
def holderText : Option Pid → String
  | none => "unlocked"
  | some pid => s!"locked by {pid}"

/-- What a waiter does after a timed wait has expired. -/
inductive TimeoutAction
  /-- Waits again. -/
  | keepWaiting
  /-- Recovers the lock, first claiming it if nobody owns it. -/
  | recover (claimUnowned : Bool)
  deriving DecidableEq, Repr

/-- The lock belongs to the caller or to a dead process. -/
def takeoverAllowed (holder : Option Pid) (me : Pid) (alive : Pid → Bool) : Bool :=
  match holder with
  | none => false
  | some owner => owner == me || !alive owner

/-- Decides after a timed wait: recover from an own or dead holder at once, from anybody once the
expired waits pass the budget. -/
def onTimeout (holder : Option Pid) (me : Pid) (alive : Pid → Bool) (trials retries : Nat) :
    TimeoutAction :=
  if takeoverAllowed holder me alive then .recover false
  else if trials > retries then .recover holder.isNone
  else .keepWaiting

/-! ## The protocol in steps -/

/-- Expired waits are counted up to here and no further. -/
def trialsMax : Nat := 0xFFFFFFFF

/-- How far one process has come in taking the lock. -/
inductive Waiter
  /-- About to wait, after some expired waits. -/
  | waiting (trials : Nat)
  /-- A timed wait has expired. -/
  | expired (trials : Nat)
  /-- Has decided to recover. -/
  | recovering (claimUnowned : Bool)
  /-- About to look again, alone among the recovering. -/
  | deciding
  /-- Declined; about to release the lock by force. -/
  | forcing
  /-- Has passed the semaphore, not yet stored as owner. -/
  | acquired
  /-- Holds the lock. -/
  | holding
  deriving DecidableEq, Repr

/-- One step of a process that wants the lock. A timed wait succeeds if the count is positive and
expires otherwise. -/
def Waiter.step (me : Pid) (alive : Pid → Bool) (retries : Nat) (w : LockWord) :
    Waiter → Waiter × LockWord
  | .waiting trials =>
    if 0 < w.count then (.acquired, { w with count := w.count - 1 })
    else (.expired (min (trials + 1) trialsMax), w)
  | .expired trials =>
    match onTimeout w.holder? me alive trials retries with
    | .keepWaiting => (.waiting trials, w)
    | .recover claimUnowned => (.recovering claimUnowned, w)
  | .recovering claimUnowned =>
    -- Claiming is a compare-and-swap: somebody else may have become the owner meanwhile.
    (.deciding, if claimUnowned ∧ w.owner = 0 then { w with owner := me } else w)
  | .deciding =>
    if takeoverAllowed w.holder? me alive then (.holding, { w with owner := me })
    else (.forcing, w)
  -- A lock released by force is waited for like any other.
  | .forcing => (.waiting 0, { w with count := postCount w.count })
  | .acquired => (.holding, { w with owner := me })
  | .holding => (.holding, w)

/-! ## The protocol without others -/

/-- A lock word after an attempt to take it, with the number of timed waits that expired. -/
structure Attempt where
  /-- The lock word afterwards. -/
  word : LockWord
  /-- The timed waits that expired. -/
  expired : Nat
  deriving DecidableEq, Repr

/-- Steps a process on, at most `fuel` times, until it holds the lock. -/
def Waiter.run (me : Pid) (alive : Pid → Bool) (retries : Nat) :
    (fuel : Nat) → Waiter → Attempt → Attempt
  | 0, _, a => a
  | fuel + 1, p, a =>
    match p with
    | .holding => a
    | p =>
      let (p', word) := p.step me alive retries a.word
      let late := match p' with
        | .expired _ => 1
        | _ => 0
      Waiter.run me alive retries fuel p' ⟨word, a.expired + late⟩

namespace LockWord

/-- Takes the lock while no other process moves. Two steps for each expired wait and a few for the
recovery are enough, if the budget of retries is one that the count of expired waits can pass. -/
def acquire (w : LockWord) (me : Pid) (alive : Pid → Bool) (retries : Nat) : Attempt :=
  Waiter.run me alive retries (2 * retries + 12) (.waiting 0) ⟨w, 0⟩

/-- Tries once: the lock word with the caller as owner, if the semaphore lets it pass. -/
def tryAcquire (w : LockWord) (me : Pid) : Option LockWord :=
  if 0 < w.count then some { count := w.count - 1, owner := me } else none

/-- Gives the lock back. -/
def release (w : LockWord) : LockWord := { count := postCount w.count, owner := 0 }

/-- A free lock is taken without an expired wait. -/
theorem acquire_of_pos {w : LockWord} (me : Pid) (alive : Pid → Bool) (retries : Nat)
    (h : 0 < w.count) :
    w.acquire me alive retries = ⟨{ count := w.count - 1, owner := me }, 0⟩ := by
  simp [acquire, Waiter.run, Waiter.step, h]

end LockWord

end GpuQuota
