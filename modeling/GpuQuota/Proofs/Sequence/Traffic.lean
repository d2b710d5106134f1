import GpuQuota.Slot
import Mathlib.Logic.Function.Iterate

/-!
# Writers and readers of one slot

Any number of writers change the counters of a slot under its sequence number, and any number of
readers read them. Each goes its own way, one access of the shared memory at a time, and between
any two of its accesses others move, and writers die. Who moves next is arbitrary, so a run is a
list of events.

The module introduces:

* `Update` — a charge or the end of one, as two changes of single counters.
* `Writer`, `Reader` — how far a writer or reader has come, and its next access.
* `Traffic` — the slot, the writers alive, and how far each writer and reader has come.
* `Traffic.Event`, `Traffic.allows`, `Traffic.next` — one access by one of them.
* `Traffic.after`, `Traffic.trace`, `Traffic.runs` — runs, where they lead, and what they pass.
* `Traffic.claims`, `.takesOver`, `.leaves` — the accesses that begin and end a write.
* `Traffic.exists_leads_write`, `Traffic.exists_leads_breakdown` — writers and readers that nobody
  disturbs do what `Slot.addUsage`, `Slot.removeUsage` and `Slot.breakdown` say.
* `Traffic.exists_leads_stick` — a writer that enters and dies does what `Slot.stick` says.
-/

namespace GpuQuota

/-! ## Writers -/

/-- A charge of a slot, or the end of one. -/
structure Update where
  /-- The device. -/
  device : DeviceIndex
  /-- What the charge is for. -/
  kind : UsageKind
  /-- The bytes charged. -/
  bytes : UInt64
  /-- The charge is taken back. -/
  back : Bool
  deriving DecidableEq, Repr

namespace Update

/-- The change of one counter. -/
def shift (u : Update) (n : UInt64) : UInt64 := if u.back then n - u.bytes else n + u.bytes

/-- The change of the usage as a whole. -/
def change (u : Update) (usage : Usage) : Usage :=
  if u.back then usage.release u.kind u.bytes else usage.charge u.kind u.bytes

/-- The update as an operation of the slot. -/
def run (u : Update) (s : Slot) : Slot :=
  if u.back then s.removeUsage u.device u.kind u.bytes else s.addUsage u.device u.kind u.bytes

/-- An update, made at once, changes the usage of its device under the sequence. -/
theorem run_eq (u : Update) (s : Slot) : u.run s = s.writeUsage u.device u.change := by
  obtain ⟨d, kind, bytes, back⟩ := u
  cases back <;> rfl

/-- The counter of the kind changes. -/
def countKind (u : Update) (s : Slot) : Slot :=
  s.modifyDevice u.device fun r => { r with usage := r.usage.modify u.kind u.shift }

/-- The total changes. -/
def countTotal (u : Update) (s : Slot) : Slot :=
  s.modifyDevice u.device fun r =>
    { r with usage := { r.usage with total := u.shift r.usage.total } }

/-- One counter after the other, the usage changes as a whole. -/
theorem countTotal_countKind (u : Update) (s : Slot) :
    u.countTotal (u.countKind s) =
      s.modifyDevice u.device fun r => { r with usage := u.change r.usage } := by
  -- For each kind and direction the two writes make up one change of the usage.
  have husage : ∀ usage : Usage,
      { usage.modify u.kind u.shift with total := u.shift (usage.modify u.kind u.shift).total } =
        u.change usage := by
    obtain ⟨d, kind, bytes, back⟩ := u
    intro usage
    cases kind <;> cases back <;> rfl
  simp only [countTotal, countKind, Slot.modifyDevice, Fin.getElem_fin, Vector.getElem_set_self,
    Vector.set_set, husage]

end Update

/-- How far a writer has come. -/
inductive Writer
  /-- It looks at the sequence number next, and has looked some number of times. -/
  | looking (spins : UInt32)
  /-- It has seen an even number and is about to make it odd. -/
  | claiming (seen : { seq : Sequence // seq.isWriting = false }) (spins : UInt32)
  /-- It is about to change the counter of the kind. -/
  | counting
  /-- It is about to change the total. -/
  | totalling
  /-- It is about to make the number even. -/
  | leaving
  deriving DecidableEq

namespace Writer

/-- The writer has entered the section that the sequence number guards. -/
def inside : Writer → Bool
  | .counting | .totalling | .leaving => true
  | _ => false

/-- The writer is about to make the number odd. -/
def isClaiming : Writer → Bool
  | .claiming .. => true
  | _ => false

/-- The next access of a writer; nothing is left of it when it has left the section. A number that
stays odd is taken over once the writer has looked often enough, without an access of its own. -/
def step (budget : UInt32) (u : Update) (s : Slot) : Writer → Option Writer × Slot
  | .looking spins =>
    if h : s.seq.isWriting = false then (some (.claiming ⟨s.seq, h⟩ spins), s)
    else if budget ≤ spins then (some .counting, s)
    else (some (.looking (spins + 1)), s)
  | .claiming seen spins =>
    if s.seq = seen.1 then (some .counting, { s with seq := s.seq + 1 })
    else (some (.looking (spins + 1)), s)
  | .counting => (some .totalling, u.countKind s)
  | .totalling => (some .leaving, u.countTotal s)
  | .leaving => (none, { s with seq := s.seq.leave })

end Writer

/-! ## Readers -/

/-- The usage that has been seen, after one more counter has been loaded. -/
def Usage.load (usage : Usage) : Nat → Usage → Usage
  | 0, seen => { seen with context := usage.context }
  | 1, seen => { seen with module := usage.module }
  | 2, seen => { seen with data := usage.data }
  | _, seen => { seen with total := usage.total }

/-- How far a reader has come. -/
inductive Reader
  /-- It loads the sequence number next, and has failed some number of times. -/
  | starting (tries : Nat)
  /-- It has found an even number and loads the counters one after the other. -/
  | loading (tries : Nat) (before : Sequence) (loaded : Nat) (seen : Usage)
  /-- It is about to load the sequence number again. -/
  | checking (tries : Nat) (before : Sequence) (seen : Usage)
  /-- It has given up and takes the counters as they are. -/
  | guessing (loaded : Nat) (seen : Usage)
  /-- It has returned. -/
  | returned (reading : Reading Usage)
  deriving DecidableEq

namespace Reader

/-- The reader is between its two loads of the sequence number. -/
def midway : Reader → Bool
  | .loading .. | .checking .. => true
  | _ => false

/-- The reader has returned. -/
def isDone : Reader → Bool
  | .returned _ => true
  | _ => false

/-- Another attempt, if one is left. -/
def again (tries : Nat) : Reader :=
  if tries + 1 < Sequence.readAttempts then .starting (tries + 1) else .guessing 0 {}

/-- The next access of a reader. -/
def step (usage : Usage) (seq : Sequence) : Reader → Reader
  | .starting tries => if seq.isWriting then again tries else .loading tries seq 0 {}
  | .loading tries before loaded seen =>
    let seen := usage.load loaded seen
    if loaded < 3 then .loading tries before (loaded + 1) seen else .checking tries before seen
  | .checking tries before seen =>
    if seq = before then .returned ⟨seen, true⟩ else again tries
  | .guessing loaded seen =>
    let seen := usage.load loaded seen
    if loaded < 3 then .guessing (loaded + 1) seen else .returned ⟨seen, false⟩
  | .returned reading => .returned reading

end Reader

/-! ## All of them together -/

/-- Writers and readers of a slot. -/
structure Traffic where
  /-- The slot. -/
  slot : Slot
  /-- The writers alive. -/
  alive : Nat → Bool
  /-- What each writer writes, and how far it has come; nothing for those that do not write. -/
  writer : Nat → Option (Update × Writer)
  /-- What each reader reads, and how far it has come; nothing for those that never read. -/
  reader : Nat → Option (DeviceIndex × Reader)

namespace Traffic

/-- Who moves next. -/
inductive Event
  /-- A writer begins. -/
  | begin (p : Nat) (u : Update)
  /-- A writer makes its next access. -/
  | write (p : Nat)
  /-- A writer fails to make the number odd although nobody has changed it. -/
  | slip (p : Nat)
  /-- A writer dies. -/
  | die (p : Nat)
  /-- A reader begins. -/
  | ask (q : Nat) (d : DeviceIndex)
  /-- A reader makes its next access. -/
  | read (q : Nat)
  deriving DecidableEq

/-- A writer and the slot after one of its accesses. -/
def put (s : Traffic) (p : Nat) (w : Option (Update × Writer)) (slot : Slot) : Traffic :=
  { s with slot, writer := fun q => if q = p then w else s.writer q }

/-- A reader after one of its accesses. -/
def putReader (s : Traffic) (q : Nat) (r : DeviceIndex × Reader) : Traffic :=
  { s with reader := fun q' => if q' = q then some r else s.reader q' }

/-- Whether an event can come next. -/
def allows (s : Traffic) : Event → Bool
  | .begin p _ => s.alive p && (s.writer p).isNone
  | .write p => s.alive p && (s.writer p).isSome
  | .slip p => s.alive p && (s.writer p).any (·.2.isClaiming)
  | .die _ => true
  | .ask q _ => (s.reader q).all (·.2.isDone)
  | .read q => (s.reader q).isSome

/-- What an event leads to. -/
def next (budget : UInt32) (s : Traffic) : Event → Traffic
  | .begin p u => s.put p (some (u, .looking 0)) s.slot
  | .write p =>
    match s.writer p with
    | none => s
    | some (u, w) =>
      let (w', slot) := w.step budget u s.slot
      s.put p (w'.map (u, ·)) slot
  | .slip p =>
    match s.writer p with
    | some (u, .claiming _ spins) => s.put p (some (u, .looking (spins + 1))) s.slot
    | _ => s
  | .die p => { s with alive := fun q => q != p && s.alive q }
  | .ask q d => s.putReader q (d, .starting 0)
  | .read q =>
    match s.reader q with
    | none => s
    | some (d, r) => s.putReader q (d, r.step (s.slot.device d).usage s.slot.seq)

/-- What events lead to. -/
def after (budget : UInt32) (s : Traffic) (events : List Event) : Traffic :=
  events.foldl (next budget) s

/-- The states that a run passes, each with the event that comes next. -/
def trace (budget : UInt32) (s : Traffic) : List Event → List (Traffic × Event)
  | [] => []
  | e :: events => (s, e) :: (s.next budget e).trace budget events

/-- Each event can come when its turn has come. -/
def runs (budget : UInt32) (s : Traffic) (events : List Event) : Prop :=
  ∀ x ∈ s.trace budget events, x.1.allows x.2

/-- A living writer is inside the section that the sequence number guards. -/
def inside (s : Traffic) (p : Nat) : Bool := s.alive p && (s.writer p).any (·.2.inside)

/-- A writer makes the number odd. -/
def claims (s : Traffic) : Event → Bool
  | .write p =>
    match s.writer p with
    | some (_, .claiming seen _) => s.slot.seq == seen.1
    | _ => false
  | _ => false

/-- A writer that has looked often enough enters under an odd number. -/
def takesOver (budget : UInt32) (s : Traffic) : Event → Bool
  | .write p =>
    match s.writer p with
    | some (_, .looking spins) => s.slot.seq.isWriting && budget ≤ spins
    | _ => false
  | _ => false

/-- A writer makes the number even. -/
def leaves (s : Traffic) : Event → Bool
  | .write p => (s.writer p).any fun w => w.2 == .leaving
  | _ => false

/-- How many writes a run begins, by either way into the section. -/
def entries (budget : UInt32) (s : Traffic) (events : List Event) : Nat :=
  (s.trace budget events).countP fun x => x.1.claims x.2 || x.1.takesOver budget x.2

/-! ## One access at a time -/

variable {budget : UInt32} {s : Traffic} {p q : Nat} {u : Update} {w : Option (Update × Writer)}
  {slot : Slot}

@[simp] theorem slot_put : (s.put p w slot).slot = slot := rfl

@[simp] theorem alive_put : (s.put p w slot).alive = s.alive := rfl

@[simp] theorem reader_put : (s.put p w slot).reader = s.reader := rfl

@[simp] theorem writer_put_self : (s.put p w slot).writer p = w := if_pos rfl

/-- Other writers stay where they are. -/
theorem writer_put_of_ne (h : q ≠ p) : (s.put p w slot).writer q = s.writer q := if_neg h

/-- Of two accesses of one writer the second one is seen. -/
theorem put_put (w' : Option (Update × Writer)) (slot' : Slot) :
    (s.put p w slot).put p w' slot' = s.put p w' slot' := by
  simp only [put, Traffic.mk.injEq, true_and, and_true]
  funext q
  split <;> rfl

/-- Putting a writer where it stands changes nothing. -/
theorem put_self (h : s.writer p = w) : s.put p w s.slot = s := by
  have hwriter : (fun q => if q = p then w else s.writer q) = s.writer := by
    funext q
    split
    next hq => rw [hq, h]
    next => rfl
  rw [put, hwriter]

section

variable {r r' : DeviceIndex × Reader}

@[simp] theorem slot_putReader : (s.putReader q r).slot = s.slot := rfl

@[simp] theorem alive_putReader : (s.putReader q r).alive = s.alive := rfl

@[simp] theorem writer_putReader : (s.putReader q r).writer = s.writer := rfl

@[simp] theorem reader_putReader_self : (s.putReader q r).reader q = some r := if_pos rfl

/-- Other readers stay where they are. -/
theorem reader_putReader_of_ne (h : p ≠ q) : (s.putReader q r).reader p = s.reader p := if_neg h

/-- Putting a reader where it stands changes nothing. -/
theorem putReader_self (h : s.reader q = some r) : s.putReader q r = s := by
  have hreader : (fun q' => if q' = q then some r else s.reader q') = s.reader := by
    funext q'
    split
    next hq => rw [hq, h]
    next => rfl
  rw [putReader, hreader]

/-- Of two places for one reader the later one counts. -/
theorem putReader_putReader : (s.putReader q r).putReader q r' = s.putReader q r' := by
  simp only [putReader, Traffic.mk.injEq, true_and]
  funext q'
  split <;> rfl

end

/-- A writer takes its step on the slot as it stands. -/
theorem next_write {w : Writer} (h : s.writer p = some (u, w)) :
    s.next budget (.write p) =
      s.put p ((w.step budget u s.slot).1.map (u, ·)) (w.step budget u s.slot).2 := by
  simp only [next, h]

/-- A reader takes its step on the usage and the sequence number as they stand. -/
theorem next_read {d : DeviceIndex} {r : Reader} (h : s.reader q = some (d, r)) :
    s.next budget (.read q) = s.putReader q (d, r.step (s.slot.device d).usage s.slot.seq) := by
  simp only [next, h]

/-! ## Runs -/

/-- The trace of two runs, one after the other. -/
theorem trace_append (events events' : List Event) :
    s.trace budget (events ++ events') =
      s.trace budget events ++ (s.after budget events).trace budget events' := by
  induction events generalizing s with
  | nil => rfl
  | cons e events ih => exact congrArg (_ :: ·) ih

/-- Two runs lead where the second one leads from the end of the first one. -/
theorem after_append (events events' : List Event) :
    s.after budget (events ++ events') = (s.after budget events).after budget events' :=
  List.foldl_append

theorem runs_nil : s.runs budget [] := List.forall_mem_nil _

/-- A run begins with an event that can come. -/
theorem runs_cons {e : Event} {events : List Event} :
    s.runs budget (e :: events) ↔ s.allows e ∧ (s.next budget e).runs budget events :=
  List.forall_mem_cons

/-- Two runs make one if the second can come after the first. -/
theorem runs_append {events events' : List Event} :
    s.runs budget (events ++ events') ↔
      s.runs budget events ∧ (s.after budget events).runs budget events' := by
  rw [runs, trace_append]
  exact List.forall_mem_append

/-! ## A writer that nobody disturbs -/

/-- Events lead from one state to another. -/
def Leads (budget : UInt32) (s : Traffic) (events : List Event) (t : Traffic) : Prop :=
  s.runs budget events ∧ s.after budget events = t

/-- Runs that lead from one state to the next make up one. -/
theorem Leads.append {t v : Traffic} {events events' : List Event}
    (h : s.Leads budget events t) (h' : t.Leads budget events' v) :
    s.Leads budget (events ++ events') v := by
  obtain ⟨hruns, rfl⟩ := h
  obtain ⟨hruns', rfl⟩ := h'
  exact ⟨runs_append.2 ⟨hruns, hruns'⟩, after_append events events'⟩

theorem leads_nil : s.Leads budget [] s := ⟨runs_nil, rfl⟩

/-- An event before a run. -/
theorem Leads.cons {t : Traffic} {e : Event} {events : List Event} (he : s.allows e)
    (h : (s.next budget e).Leads budget events t) : s.Leads budget (e :: events) t :=
  ⟨runs_cons.2 ⟨he, h.1⟩, h.2⟩

section

variable (budget) (hlive : s.alive p)

include hlive

/-- A writer begins. -/
theorem leads_begin (hnone : s.writer p = none) (u : Update) :
    s.Leads budget [.begin p u] (s.put p (some (u, .looking 0)) s.slot) := by
  refine .cons ?_ ⟨runs_nil, rfl⟩
  rw [allows, hlive, hnone]
  rfl

/-- One access of a writer. -/
theorem leads_step (w : Writer) (slot : Slot) :
    (s.put p (some (u, w)) slot).Leads budget [.write p]
      (s.put p ((w.step budget u slot).1.map (u, ·)) (w.step budget u slot).2) := by
  refine .cons ?_ ⟨runs_nil, ?_⟩
  · rw [allows, alive_put, hlive, writer_put_self]
    rfl
  · exact (next_write writer_put_self).trans (put_put ..)

/-- While the number stays odd a writer looks again and again. -/
theorem leads_look {spins : UInt32} (hodd : slot.seq.isWriting) (n : Nat)
    (hn : spins.toNat + n ≤ budget.toNat) :
    (s.put p (some (u, .looking spins)) slot).Leads budget (.replicate n (.write p))
      (s.put p (some (u, .looking (spins + .ofNat n))) slot) := by
  -- The induction is on the looks that are left; the budget keeps the count of spins from wrapping.
  induction n generalizing spins with
  | zero =>
    have hzero : spins + .ofNat 0 = spins := UInt32.add_zero spins
    rw [hzero]
    exact leads_nil
  | succ n ih =>
    have hstep := leads_step budget (u := u) hlive (.looking spins) slot
    have hspins : ¬ budget ≤ spins := by
      rw [UInt32.le_iff_toNat_le]
      omega
    have hsucc : (spins + 1).toNat = spins.toNat + 1 := by
      rw [UInt32.toNat_add]
      have := budget.toNat_lt
      have : (1 : UInt32).toNat = 1 := rfl
      omega
    have hsum : spins + 1 + UInt32.ofNat n = spins + UInt32.ofNat (n + 1) := by
      rw [UInt32.ofNat_add, UInt32.add_assoc, UInt32.add_comm 1]
      rfl
    rw [Writer.step, dif_neg (by simp [hodd]), if_neg hspins] at hstep
    rw [List.replicate_succ, ← hsum]
    exact hstep.append (ih (by omega))

/-- A writer enters, at an even number or by a takeover. -/
theorem exists_leads_enter (slot : Slot) :
    ∃ events, events.length ≤ budget.toNat + 2 ∧
      (s.put p (some (u, .looking 0)) slot).Leads budget events
        (s.put p (some (u, .counting)) { slot with seq := slot.seq.enter }) := by
  by_cases hodd : slot.seq.isWriting
  · -- The writer looks as often as it has to, and then once more.
    have hzero : (0 : UInt32).toNat + budget.toNat ≤ budget.toNat := by simp
    have hlook := leads_look budget (u := u) hlive hodd budget.toNat hzero
    have hstep := leads_step budget (u := u) hlive (.looking budget) slot
    rw [Writer.step, dif_neg (by simp [hodd]), if_pos (UInt32.le_refl budget)] at hstep
    rw [UInt32.zero_add, UInt32.ofNat_toNat] at hlook
    rw [Sequence.enter, if_pos hodd]
    exact ⟨_, by simp, hlook.append hstep⟩
  · have heven : slot.seq.isWriting = false := by simpa using hodd
    have hlook := leads_step budget (u := u) hlive (.looking 0) slot
    rw [Writer.step, dif_pos heven] at hlook
    have hclaim := leads_step budget (u := u) hlive (.claiming ⟨_, heven⟩ 0) slot
    rw [Writer.step, if_pos rfl] at hclaim
    rw [Sequence.enter, if_neg hodd]
    exact ⟨_, by simp, hlook.append hclaim⟩

/-- A writer that nobody disturbs carries out its update. -/
theorem exists_leads_write (hnone : s.writer p = none) (u : Update) :
    ∃ events, s.Leads budget events (s.put p none (u.run s.slot)) := by
  have hbegin := leads_begin budget hlive hnone u
  obtain ⟨events, -, henter⟩ := exists_leads_enter budget (u := u) hlive s.slot
  let entered : Slot := { s.slot with seq := s.slot.seq.enter }
  have hkind := leads_step budget (u := u) hlive .counting entered
  have htotal := leads_step budget (u := u) hlive .totalling (u.countKind entered)
  have hleave := leads_step budget (u := u) hlive .leaving
    (u.countTotal (u.countKind entered))
  -- The two changes of single counters are the change of the usage.
  have hslot : u.run s.slot =
      { u.countTotal (u.countKind entered) with seq := s.slot.seq.enter.leave } := by
    rw [u.run_eq, u.countTotal_countKind]
    rfl
  rw [hslot]
  exact ⟨_, (((hbegin.append henter).append hkind).append htotal).append hleave⟩

/-- A writer that dies as soon as it has entered leaves the slot stuck. -/
theorem exists_leads_stick (hnone : s.writer p = none) (u : Update) :
    ∃ events t, s.Leads budget events t ∧ t.slot = s.slot.stick ∧ t.alive p = false := by
  have hbegin := leads_begin budget hlive hnone u
  obtain ⟨events, -, henter⟩ := exists_leads_enter budget (u := u) hlive s.slot
  let entered := s.put p (some (u, .counting)) s.slot.stick
  have hdie : entered.Leads budget [.die p] (entered.next budget (.die p)) :=
    .cons rfl leads_nil
  exact ⟨_, _, (hbegin.append henter).append hdie, rfl, by simp [next]⟩

end

/-! ## A reader that nobody disturbs -/

/-- While nobody else moves a reader goes on by its accesses. -/
theorem leads_read (budget : UInt32) {d : DeviceIndex} {r : Reader}
    (hr : s.reader q = some (d, r)) (n : Nat) :
    s.Leads budget (.replicate n (.read q))
      (s.putReader q (d, (Reader.step (s.slot.device d).usage s.slot.seq)^[n] r)) := by
  -- The induction is on the steps of the reader, which never change the slot.
  induction n generalizing s r with
  | zero => exact ⟨runs_nil, (putReader_self hr).symm⟩
  | succ n ih =>
    have hallows : s.allows (.read q) := by
      rw [allows, hr]
      rfl
    have hrest := ih (s := s.putReader q (d, r.step (s.slot.device d).usage s.slot.seq))
      reader_putReader_self
    rw [putReader_putReader, slot_putReader] at hrest
    rw [List.replicate_succ]
    exact .cons hallows (by rwa [next_read hr])

/-- Under an odd number a reader fails until it gives up. -/
private theorem iterate_step_of_isWriting {usage : Usage} {seq : Sequence} (hodd : seq.isWriting)
    (n tries : Nat) (hn : tries + n + 1 = Sequence.readAttempts) :
    (Reader.step usage seq)^[n + 1] (.starting tries) = .guessing 0 {} := by
  -- The induction is on the attempts that are left; each one is a single step while the number is
  -- odd.
  induction n generalizing tries with
  | zero =>
    have hlast : ¬ tries + 1 < Sequence.readAttempts := by omega
    simp [Reader.step, Reader.again, hodd, hlast]
  | succ n ih =>
    have hmore : tries + 1 < Sequence.readAttempts := by omega
    rw [Function.iterate_succ_apply, Reader.step, if_pos hodd, Reader.again, if_pos hmore]
    exact ih (tries + 1) (by omega)

/-- A reader that nobody disturbs returns the usage as a whole, marked by the parity of the
number. -/
theorem exists_leads_breakdown (budget : UInt32) (hidle : (s.reader q).all (·.2.isDone))
    (d : DeviceIndex) :
    ∃ events, s.Leads budget events (s.putReader q (d, .returned (s.slot.breakdown d))) := by
  let usage := (s.slot.device d).usage
  have hask : s.Leads budget [.ask q d] (s.putReader q (d, .starting 0)) :=
    .cons hidle ⟨runs_nil, rfl⟩
  have hreader : ∃ n, (Reader.step usage s.slot.seq)^[n] (.starting 0) =
      .returned (s.slot.breakdown d) := by
    -- With an odd number the reader tries a hundred times and returns what it read last.
    by_cases hodd : s.slot.seq.isWriting
    · refine ⟨4 + 100, ?_⟩
      rw [Function.iterate_add_apply, iterate_step_of_isWriting hodd 99 0 rfl]
      simp [Reader.step, Usage.load, Slot.breakdown, Slot.read, hodd, usage]
    · refine ⟨6, ?_⟩
      simp [Reader.step, Usage.load, Slot.breakdown, Slot.read, hodd, usage]
  obtain ⟨n, hn⟩ := hreader
  have hread := leads_read budget (s := s.putReader q (d, .starting 0))
    reader_putReader_self n
  rw [slot_putReader, putReader_putReader, hn] at hread
  exact ⟨_, hask.append hread⟩

end Traffic

end GpuQuota
