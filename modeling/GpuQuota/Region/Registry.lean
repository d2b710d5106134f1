import GpuQuota.Region

/-!
# The process table

What the operations of the registry do to the table while the lock is held: claiming a slot for a
process, reaping the slots of dead ones, giving a slot back, and finding slots.

The module introduces:

* `Region.claim` — a slot for a process: its old one, a free one, or one won by reaping.
* `Region.reap` — clears the slots of dead processes and lowers the high-water mark.
* `Region.unregister` — gives the slot of a process back.
* `Region.ownSlot?`, `Region.slotOf?`, `Region.slotOfHost?` — look-ups.
-/

namespace GpuQuota

namespace Region

/-- The slot belongs to a process other than the caller that is no longer alive. -/
def isDeadSlot (me : Pid) (alive : Pid → Bool) (s : Slot) : Bool :=
  !(s.isFree || s.pid == me || alive s.pid)

/-- One past the last occupied slot of a list. -/
def occupiedLength (slots : List Slot) : Nat :=
  (slots.reverse.dropWhile (·.isFree)).length

/-- Clears the slots of dead processes that a scan sees, and lowers the high-water mark to one past
the last slot still in use. Gives the number of slots cleared. -/
def reap (r : Region) (me : Pid) (alive : Pid → Bool) : Nat × Region :=
  let dead := isDeadSlot me alive
  let reaped := r.scanned.countP dead
  -- The scan goes by the mark as it was found.
  let mark := r.mark
  let r := if reaped = 0 then r else
    { r with
      slots := r.slots.mapIdx fun i s => if i < mark && dead s then s.clear else s
      procNum := wrap32 (r.procNum - reaped) }
  (reaped, { r with highWater := occupiedLength r.scanned })

/-- Hands the first free slot to a process: one that a scan sees, or else the one at the
high-water mark, which then rises. -/
def occupy (r : Region) (pid : Pid) : Option (Nat × Region) :=
  -- A slot below the mark is reused before the table grows.
  let i := (r.findSlot? (·.isFree)).getD r.mark
  if i < maxProcesses then
    some (i,
      { r.modifySlot i (·.resetFor pid) with
        highWater := if r.mark ≤ i then i + 1 else r.highWater
        procNum := wrap32 (r.procNum + 1) })
  else none

/-- A slot for a process: the one it has, started afresh; else a free one; else one that reaping
makes free. -/
def claim (r : Region) (me : Pid) (alive : Pid → Bool) (pid : Pid) : Option Nat × Region :=
  match r.findSlot? (·.pid == pid) with
  | some i => (some i, r.modifySlot i (·.resetFor pid))
  | none =>
    match r.occupy pid with
    | some (i, r) => (some i, r)
    | none =>
      -- The table is full: only the slot of a dead process can be had.
      let (reaped, r) := r.reap me alive
      if reaped = 0 then (none, r)
      else
        match r.occupy pid with
        | some (i, r) => (some i, r)
        | none => (none, r)

/-- Registers a process: claims a slot and reaps. Without a slot to claim nothing follows. -/
def register (r : Region) (me : Pid) (alive : Pid → Bool) (pid : Pid) : Option Nat × Region :=
  match r.claim me alive pid with
  | (some i, r) => (some i, (r.reap me alive).2)
  | (none, r) => (none, r)

/-- Gives back the slot of a process; whether it had one. -/
def unregister (r : Region) (pid : Pid) : Bool × Region :=
  match r.findSlot? (·.pid == pid) with
  -- The mark stays where it is; the next reaping lowers it.
  | some i => (true, { r.modifySlot i (·.clear) with procNum := wrap32 (r.procNum - 1) })
  | none => (false, r)

/-- The slot of the caller, by a remembered index if it still holds and by a scan otherwise. -/
def ownSlot? (r : Region) (me : Pid) (remembered : Option Nat) : Option Nat :=
  match remembered with
  | some i => if (r.slot? i).any (·.pid == me) then some i else r.findSlot? (·.pid == me)
  | none => r.findSlot? (·.pid == me)

/-- The first registered slot with a host identity. -/
def slotOfHost? (r : Region) (hostPid : Pid) : Option Nat :=
  if hostPid = 0 then none
  else r.findSlot? fun s => !s.isFree && s.hostPid == hostPid

/-- Forgets what was observed of the registered processes. -/
def resetObserved (r : Region) : Region :=
  let mark := r.mark
  { r with slots := r.slots.mapIdx fun i s =>
      if i < mark && !s.isFree then s.resetObserved else s }

/-- Every other registered process has the status. -/
def othersIn (r : Region) (me : Pid) (status : ProcStatus) : Bool :=
  (r.scanned.filter fun s => !s.isFree && s.pid != me).all (·.status == status)

/-- The processes that a signal to all goes to. -/
def signalTargets (r : Region) (me : Pid) : List Pid :=
  (r.scanned.map (·.pid)).filter fun pid => 0 < pid && pid != me

end Region

end GpuQuota
