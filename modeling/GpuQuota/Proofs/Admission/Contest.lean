import GpuQuota.Proofs.Registry.Consistent
import Mathlib.Logic.Relation

/-!
# Reservations in single steps

Processes reserve memory of one device without a lock. A reservation charges its process, then
reads the slots of the table one after the other, and keeps the charge if the sum that it has read
does not exceed the limit. Between any two of its steps others charge, read, give up and free, and
processes die and have their slots cleared.

The module introduces:

* `Stage`, `Reservation` — how far a reservation has come.
* `Contest` — a region with the processes alive and the reservations that are charged.
* `Contest.Step` — one step of one process.
* `Contest.Start`, `Contest.Reachable` — where contests start and where they lead.
* `Contest.granted` — the bytes that are granted and not yet freed.
-/

namespace GpuQuota

/-- How far a reservation has come that is charged. -/
inductive Stage
  /-- Nothing has been read yet. -/
  | charged
  /-- The slots before the next one have been read, up to the mark that was seen at first. -/
  | reading (mark next : Nat) (sum : UsageSum)
  /-- The sum was within the limit. -/
  | granted
  deriving DecidableEq, Repr

/-- A reservation that is charged. -/
structure Reservation where
  /-- The slot of its process. -/
  slot : Fin maxProcesses
  /-- What is charged. -/
  bytes : UInt64
  /-- What it is charged as. -/
  kind : UsageKind
  /-- How far it has come. -/
  stage : Stage
  deriving DecidableEq, Repr

/-- The sum after one more slot has been read; free slots are passed over. -/
def Region.readSlot (r : Region) (d : DeviceIndex) (i : Fin maxProcesses) (sum : UsageSum) :
    UsageSum :=
  if (r.slotAt i).isFree then sum else sum.add ((r.slotAt i).total d)

/-- A region that processes charge on one device. -/
structure Contest where
  /-- The region. -/
  region : Region
  /-- The processes alive. -/
  alive : Pid → Bool
  /-- The reservations of living processes that are charged, the oldest first. -/
  reservations : List Reservation

namespace Contest

/-- The slot belongs to a living process. -/
def Live (s : Contest) (i : Fin maxProcesses) : Prop :=
  (s.region.slotAt i).pid ≠ 0 ∧ s.alive (s.region.slotAt i).pid = true

/-- The bytes that living processes have been granted and have not freed. -/
def granted (s : Contest) : Nat :=
  ((s.reservations.filter (·.stage = .granted)).map (·.bytes.toNat)).sum

/-- One step of one process. A process has at most one reservation under way, and may start the
next one whenever the last one was granted or given up; so it may also try again after it was
refused, with or without clearing slots of dead processes first. -/
inductive Step (d : DeviceIndex) (limit : UInt64) : Contest → Contest → Prop
  /-- A process charges a request. -/
  | charge (s : Contest) (i : Fin maxProcesses) (bytes : UInt64) (kind : UsageKind)
    (hlive : s.Live i) (hidle : ∀ x ∈ s.reservations, x.slot = i → x.stage = .granted)
    (hfit : limit.toNat + bytes.toNat < 2 ^ 64) :
    Step d limit s { s with
      region := s.region.modifySlot i (·.addUsage d kind bytes)
      reservations := s.reservations ++ [⟨i, bytes, kind, .charged⟩] }
  /-- Without a limit a request is granted at once. -/
  | grantUnlimited (s : Contest) (older newer : List Reservation) (x : Reservation)
    (hs : s.reservations = older ++ x :: newer) (hx : x.stage = .charged) (hlimit : limit = 0) :
    Step d limit s { s with reservations := older ++ { x with stage := .granted } :: newer }
  /-- A process looks how far it has to read. -/
  | begin (s : Contest) (older newer : List Reservation) (x : Reservation)
    (hs : s.reservations = older ++ x :: newer) (hx : x.stage = .charged) (hlimit : limit ≠ 0) :
    Step d limit s { s with
      reservations := older ++ { x with stage := .reading s.region.mark 0 {} } :: newer }
  /-- A process reads the total of one slot. -/
  | read (s : Contest) (older newer : List Reservation) (x : Reservation) (mark : Nat)
    (i : Fin maxProcesses) (sum : UsageSum) (hs : s.reservations = older ++ x :: newer)
    (hx : x.stage = .reading mark i sum) (hi : i < mark) :
    Step d limit s { s with
      reservations := older ++
        { x with stage := .reading mark (i + 1) (s.region.readSlot d i sum) } :: newer }
  /-- A process has read all slots and the sum is within the limit. -/
  | grant (s : Contest) (older newer : List Reservation) (x : Reservation) (mark : Nat)
    (sum : UsageSum) (hs : s.reservations = older ++ x :: newer)
    (hx : x.stage = .reading mark mark sum) (hsum : sum.bytes ≤ limit) :
    Step d limit s { s with reservations := older ++ { x with stage := .granted } :: newer }
  /-- A process has read all slots, and the sum exceeds the limit; it takes the charge back. -/
  | rollBack (s : Contest) (older newer : List Reservation) (x : Reservation) (mark : Nat)
    (sum : UsageSum) (hs : s.reservations = older ++ x :: newer)
    (hx : x.stage = .reading mark mark sum) (hsum : ¬ sum.bytes ≤ limit) :
    Step d limit s { s with
      region := s.region.modifySlot x.slot (·.removeUsage d x.kind x.bytes)
      reservations := older ++ newer }
  /-- A process frees what it was granted. -/
  | free (s : Contest) (older newer : List Reservation) (x : Reservation)
    (hs : s.reservations = older ++ x :: newer) (hx : x.stage = .granted) :
    Step d limit s { s with
      region := s.region.modifySlot x.slot (·.removeUsage d x.kind x.bytes)
      reservations := older ++ newer }
  /-- A process dies, with whatever it has charged. -/
  | die (s : Contest) (pid : Pid) :
    Step d limit s { s with
      alive := fun p => p != pid && s.alive p
      reservations := s.reservations.filter fun x => (s.region.slotAt x.slot).pid ≠ pid }
  /-- The slot of a dead process is cleared. -/
  | clear (s : Contest) (i : Fin maxProcesses) (me : Pid)
    (hdead : Region.isDeadSlot me s.alive (s.region.slotAt i) = true) :
    Step d limit s { s with region := s.region.modifySlot i (·.clear) }
  /-- The mark is lowered after slots have been cleared. -/
  | trim (s : Contest) : Step d limit s { s with region := s.region.trim }
  /-- Anything happens to the region but for owners, the mark, and totals on the device. -/
  | elsewhere (s : Contest) (r : Region)
    (hpid : ∀ i, (r.slotAt i).pid = (s.region.slotAt i).pid)
    (htotal : ∀ i, (r.usageAt i d).total = (s.region.usageAt i d).total)
    (hmark : r.mark = s.region.mark) :
    Step d limit s { s with region := r }

/-- Processes are registered, and those alive have nothing charged on the device. -/
structure Start (d : DeviceIndex) (s : Contest) : Prop where
  consistent : s.region.Consistent
  total_eq_zero : ∀ i, s.Live i → (s.region.usageAt i d).total = 0
  reservations_eq_nil : s.reservations = []

/-- What comes about by steps from a start. -/
def Reachable (d : DeviceIndex) (limit : UInt64) (s : Contest) : Prop :=
  ∃ start, Start d start ∧ Relation.ReflTransGen (Step d limit) start s

end Contest

end GpuQuota
