import GpuQuota.Proofs.Sequence.Traffic
import Mathlib.Algebra.Group.Nat.Defs
import Mathlib.Order.Basic

/-!
# Reads that are not torn

A reader that finds the same even sequence number before and after trusts what it has read. It may
do so as long as at most one living writer is inside at a time, and only under an odd number. A
takeover keeps it so if it finds the section orphaned. Two writers that give up waiting for the
same dead one are both inside; the first of them makes the number even when it leaves.

The module introduces:

* `Traffic.Guarded`, `Traffic.Orphaned` — states of the section.
* `Traffic.guarded_next_iff` — when a step keeps the section guarded.
* `Traffic.bumps`, `Traffic.bumps_le` — how often the number moves in a run.
* `Traffic.quiet` — where the number does not move, nothing is written.
* `Traffic.Passes` — a state between the two loads of a read that is marked consistent.
* `Traffic.untorn_of_guarded` — what holds in such a state.
* `Traffic.untorn_iff_takeovers_orphaned` — the exact condition for untorn reads.
* `Traffic.not_untorn` — two writers that take over from the same dead one.
-/

namespace GpuQuota

namespace Traffic

variable {budget spins : UInt32} {s t : Traffic} {p q : Nat} {u : Update}
  {w : Option (Update × Writer)} {slot : Slot} {e : Event} {events : List Event}

/-! ## Who is inside -/

/-- Nobody writes and nobody reads. -/
structure Start (s : Traffic) : Prop where
  writer_eq_none : ∀ p, s.writer p = none
  reader_eq_none : ∀ q, s.reader q = none

/-- No living writer is inside. -/
def Orphaned (s : Traffic) : Prop := ∀ p, ¬ s.inside p

/-- At most one living writer is inside, and only under an odd number. -/
structure Guarded (s : Traffic) : Prop where
  eq_of_inside : ∀ p q, s.inside p → s.inside q → p = q
  isWriting_of_inside : ∀ p, s.inside p → s.slot.seq.isWriting

/-- The section is guarded in every state of a run. -/
def GuardedAlong (budget : UInt32) (s : Traffic) (events : List Event) : Prop :=
  (∀ x ∈ s.trace budget events, x.1.Guarded) ∧ (s.after budget events).Guarded

/-- Moving a writer takes no other one into the section or out of it. -/
theorem inside_put_of_ne (h : q ≠ p) : (s.put p w slot).inside q = s.inside q := by
  rw [inside, inside, writer_put_of_ne h, alive_put]

/-- A writer that is moved is inside if it is alive and its new place is inside. -/
theorem inside_put_self : (s.put p w slot).inside p = (s.alive p && w.any (·.2.inside)) := by
  rw [inside, writer_put_self, alive_put]

/-- Whether a living writer is inside, by the place where it stands. -/
theorem inside_iff_of_writer {w : Writer} (hlive : s.alive p) (h : s.writer p = some (u, w)) :
    s.inside p ↔ w.inside := by
  rw [inside, hlive, h, Option.any_some, Bool.true_and]

/-- A writer that is not inside after its access leaves those inside that were. -/
private theorem inside_of_inside_put (hw : w.any (·.2.inside) = false)
    (h : (s.put p w slot).inside q) : s.inside q := by
  by_cases hq : q = p
  · rw [hq, inside_put_self, hw, Bool.and_false] at h
    cases h
  · rwa [inside_put_of_ne hq] at h

/-- So does a writer that has been inside before. -/
private theorem inside_of_inside_put_of_inside (hp : s.inside p)
    (h : (s.put p w slot).inside q) : s.inside q := by
  by_cases hq : q = p
  · rwa [hq]
  · rwa [inside_put_of_ne hq] at h

/-- A guarded slot stays guarded while its number stays and nobody enters. -/
theorem Guarded.mono (hs : s.Guarded) (hseq : t.slot.seq = s.slot.seq)
    (hin : ∀ q, t.inside q → s.inside q) : t.Guarded where
  eq_of_inside p q hp hq := hs.eq_of_inside p q (hin p hp) (hin q hq)
  isWriting_of_inside p hp := hseq ▸ hs.isWriting_of_inside p (hin p hp)

/-- A slot that nobody is inside of is guarded. -/
theorem Guarded.of_orphaned (h : s.Orphaned) : s.Guarded where
  eq_of_inside p _ hp := absurd hp (h p)
  isWriting_of_inside p hp := absurd hp (h p)

/-- A slot with an odd number and at most one writer inside is guarded. -/
theorem Guarded.of_only (p : Nat) (hseq : s.slot.seq.isWriting) (h : ∀ q, s.inside q → q = p) :
    s.Guarded where
  eq_of_inside q q' hq hq' := (h q hq).trans (h q' hq').symm
  isWriting_of_inside _ _ := hseq

/-- Under an even number nobody is inside. -/
theorem Guarded.orphaned (hs : s.Guarded) (heven : s.slot.seq.isWriting = false) :
    s.Orphaned := fun p hp => by
  have hodd := hs.isWriting_of_inside p hp
  rw [heven] at hodd
  cases hodd

/-- At the start nobody is inside. -/
theorem Start.guarded (h : s.Start) : s.Guarded :=
  .of_orphaned fun p hp => by simp [inside, h.writer_eq_none p] at hp

/-! ## Steps that keep the section guarded -/

/-- A writer that makes an access is alive and has begun. -/
theorem exists_of_allows_write (h : s.allows (.write p)) :
    ∃ u w, s.alive p ∧ s.writer p = some (u, w) := by
  rw [allows, Bool.and_eq_true, Option.isSome_iff_exists] at h
  obtain ⟨hlive, ⟨u, w⟩, hw⟩ := h
  exact ⟨u, w, hlive, hw⟩

/-- A writer that comes in under an odd number is the only one if nobody was inside. -/
private theorem guarded_put_of_orphaned (h : s.Orphaned) (hodd : slot.seq.isWriting) :
    (s.put p w slot).Guarded := by
  refine .of_only p hodd fun q hq => ?_
  by_contra hne
  rw [inside_put_of_ne hne] at hq
  exact h q hq

/-- A writer that was inside leaves nobody behind. -/
private theorem Guarded.orphaned_put (hs : s.Guarded) (hp : s.inside p)
    (hw : w.any (·.2.inside) = false) : (s.put p w slot).Orphaned := by
  intro q hq
  have hne : q ≠ p := by
    rintro rfl
    rw [inside_put_self, hw, Bool.and_false] at hq
    cases hq
  -- Whoever is inside afterwards was inside before, together with the one that left.
  rw [inside_put_of_ne hne] at hq
  exact hne (hs.eq_of_inside q p hq hp)

/-- A takeover keeps the section guarded if it finds it orphaned, and only then. -/
private theorem guarded_takeover_iff (hlive : s.alive p)
    (hw : s.writer p = some (u, .looking spins)) (hodd : s.slot.seq.isWriting) :
    (s.put p (some (u, .counting)) s.slot).Guarded ↔ s.Orphaned := by
  constructor
  · intro h q hq
    -- The writer is inside now, so nobody else can have been.
    have hp : (s.put p (some (u, .counting)) s.slot).inside p := by
      rw [inside_put_self, hlive]
      rfl
    have hne : q ≠ p := by
      rintro rfl
      cases (inside_iff_of_writer hlive hw).1 hq
    exact hne (h.eq_of_inside q p (by rwa [inside_put_of_ne hne]) hp)
  · intro h
    exact guarded_put_of_orphaned h hodd

/-- An access of a writer keeps the section guarded, unless it takes over a section that is not
orphaned. -/
private theorem guarded_write_iff (hs : s.Guarded) (he : s.allows (.write p)) :
    (s.next budget (.write p)).Guarded ↔ (s.takesOver budget (.write p) → s.Orphaned) := by
  obtain ⟨u, w, hlive, hw⟩ := exists_of_allows_write he
  have hinside := (inside_iff_of_writer hlive hw).2
  have hnone : false → s.Orphaned := (absurd · Bool.false_ne_true)
  rw [next_write hw, takesOver, hw]
  cases w with
  | looking spins =>
    dsimp only
    rw [Writer.step, Bool.and_eq_true, decide_eq_true_iff]
    split
    next heven =>
      refine iff_of_true (hs.mono rfl fun q => inside_of_inside_put rfl) fun h => ?_
      rw [heven] at h
      cases h.1
    next hodd =>
      have hodd : s.slot.seq.isWriting := by simpa using hodd
      split
      next hspins =>
        rw [forall_prop_of_true ⟨hodd, hspins⟩]
        exact guarded_takeover_iff hlive hw hodd
      next hspins =>
        exact iff_of_true (hs.mono rfl fun q => inside_of_inside_put rfl)
          fun h => absurd h.2 hspins
  | claiming seen spins =>
    refine iff_of_true ?_ hnone
    rw [Writer.step]
    split
    next hseen =>
      -- Under an even number nobody was inside, and now the number is odd.
      have heven : s.slot.seq.isWriting = false := hseen ▸ seen.2
      have hodd := Sequence.isWriting_enter s.slot.seq
      rw [Sequence.enter, if_neg (by simp [heven])] at hodd
      exact guarded_put_of_orphaned (hs.orphaned heven) hodd
    next => exact hs.mono rfl fun q => inside_of_inside_put rfl
  | counting =>
    exact iff_of_true (hs.mono rfl fun q => inside_of_inside_put_of_inside (hinside rfl)) hnone
  | totalling =>
    exact iff_of_true (hs.mono rfl fun q => inside_of_inside_put_of_inside (hinside rfl)) hnone
  | leaving =>
    exact iff_of_true (.of_orphaned (hs.orphaned_put (hinside rfl) rfl)) hnone

/-- A step keeps the section guarded, unless it is a takeover that does not find it orphaned. -/
theorem guarded_next_iff (hs : s.Guarded) (he : s.allows e) :
    (s.next budget e).Guarded ↔ (s.takesOver budget e → s.Orphaned) := by
  -- Only an access of a writer can be a takeover.
  have hnone : false → s.Orphaned := (absurd · Bool.false_ne_true)
  cases e with
  | begin p u =>
    exact iff_of_true (hs.mono rfl fun q => inside_of_inside_put rfl) hnone
  | slip p =>
    refine iff_of_true ?_ hnone
    rw [next]
    split
    next => exact hs.mono rfl fun q => inside_of_inside_put rfl
    next => exact hs
  | die p =>
    refine iff_of_true (hs.mono rfl fun q hq => ?_) hnone
    simp only [inside, next, Bool.and_eq_true] at hq ⊢
    exact ⟨hq.1.2, hq.2⟩
  | ask q d => exact iff_of_true (hs.mono rfl fun _ hq => hq) hnone
  | read q =>
    refine iff_of_true ?_ hnone
    rw [next]
    split
    next => exact hs
    next => exact hs.mono rfl fun _ hq => hq
  | write p => exact guarded_write_iff hs he

/-- The section is guarded throughout a run exactly if each takeover finds it orphaned. -/
theorem guardedAlong_iff (hs : s.Guarded) (hruns : s.runs budget events) :
    s.GuardedAlong budget events ↔
      ∀ x ∈ s.trace budget events, x.1.takesOver budget x.2 → x.1.Orphaned := by
  induction events generalizing s with
  | nil => exact iff_of_true ⟨List.forall_mem_nil _, hs⟩ (List.forall_mem_nil _)
  | cons e events ih =>
    obtain ⟨he, hruns⟩ := runs_cons.1 hruns
    have hnext : (s.next budget e).Guarded ↔ _ := guarded_next_iff hs he
    simp only [GuardedAlong, trace, List.forall_mem_cons] at ih ⊢
    -- A takeover from somebody inside is what ends the guard, at the very step that it happens.
    constructor
    · rintro ⟨⟨-, hall⟩, hlast⟩
      have hguarded : (s.next budget e).Guarded := by
        cases events with
        | nil => exact hlast
        | cons => exact hall _ List.mem_cons_self
      exact ⟨hnext.1 hguarded, (ih hguarded hruns).1 ⟨hall, hlast⟩⟩
    · rintro ⟨hfirst, hrest⟩
      obtain ⟨hall, hlast⟩ := (ih (hnext.2 hfirst) hruns).2 hrest
      exact ⟨⟨hs, hall⟩, hlast⟩

/-! ## How often the number moves -/

/-- How often the sequence number moves in a run. -/
def bumps (budget : UInt32) (s : Traffic) (events : List Event) : Nat :=
  (s.trace budget events).countP fun x => x.1.claims x.2 || x.1.leaves x.2

/-- The bumps of a run, counted from its first event. -/
theorem bumps_cons :
    s.bumps budget (e :: events) =
      (s.next budget e).bumps budget events + if s.claims e || s.leaves e then 1 else 0 :=
  List.countP_cons

/-- The entries of a run, counted from its first event. -/
theorem entries_cons :
    s.entries budget (e :: events) = (s.next budget e).entries budget events +
      if s.claims e || s.takesOver budget e then 1 else 0 :=
  List.countP_cons

/-- Only an access of a writer changes the slot. -/
theorem slot_next_of_ne_write (h : ∀ p, e ≠ .write p) : (s.next budget e).slot = s.slot := by
  cases e with
  | write p => exact absurd rfl (h p)
  | slip p =>
    rw [next]
    split <;> rfl
  | read q =>
    rw [next]
    split <;> rfl
  | begin | die | ask => rfl

/-- The number moves where a writer claims it or leaves. -/
theorem seq_next :
    (s.next budget e).slot.seq =
      if s.claims e || s.leaves e then s.slot.seq + 1 else s.slot.seq := by
  -- Only the writes move the number, and of those only entering and leaving.
  cases e with
  | begin | slip | die | ask | read => exact congrArg Slot.seq (slot_next_of_ne_write nofun)
  | write p =>
    cases hw : s.writer p with
    | none => simp [next, claims, leaves, hw]
    | some x =>
      obtain ⟨u, w⟩ := x
      rw [next_write hw, slot_put, claims, leaves, hw]
      cases w with
      | looking spins =>
        rw [Writer.step]
        split
        next => rfl
        next => split <;> rfl
      | claiming seen spins =>
        rw [Writer.step]
        by_cases hseen : s.slot.seq = seen.1
        · simp [hseen]
        · simp [hseen]
      | counting => rfl
      | totalling => rfl
      | leaving => rfl

/-- The sequence number counts the bumps, up to wrapping around. -/
theorem toNat_seq_after :
    (s.after budget events).slot.seq.toNat =
      (s.slot.seq.toNat + s.bumps budget events) % 2 ^ 64 := by
  -- The induction is on the events; each one adds one or nothing, modulo the size of a word.
  induction events generalizing s with
  | nil => exact (Nat.mod_eq_of_lt s.slot.seq.toNat_lt).symm
  | cons e events ih =>
    have hone : (1 : UInt64).toNat = 1 := rfl
    refine ih.trans ?_
    rw [seq_next, bumps_cons]
    split
    next => rw [UInt64.toNat_add, hone]; omega
    next => rfl

/-- A number that has come back to what it was has not moved, as long as it has moved fewer than
`2 ^ 64` times. -/
theorem bumps_eq_zero (hseq : (s.after budget events).slot.seq = s.slot.seq)
    (hfew : s.bumps budget events < 2 ^ 64) : s.bumps budget events = 0 := by
  have hafter : (s.after budget events).slot.seq.toNat = _ := toNat_seq_after
  have hlt := s.slot.seq.toNat_lt
  rw [hseq] at hafter
  omega

/-- A claim finds an even number. -/
private theorem even_of_claims (h : s.claims e) : s.slot.seq.toNat % 2 = 0 := by
  unfold claims at h
  split at h
  next p =>
    split at h
    next seen spins hw =>
      have heven := seen.2
      rw [← beq_iff_eq.1 h, ← Bool.not_eq_true, Sequence.isWriting_iff] at heven
      omega
    next => cases h
  next => cases h

/-- A writer that leaves was inside. -/
private theorem inside_of_leaves (he : s.allows e) (h : s.leaves e) : ∃ p, s.inside p := by
  unfold leaves at h
  split at h
  next p =>
    obtain ⟨u, w, hlive, hw⟩ := exists_of_allows_write he
    -- Whoever leaves has been inside, and is alive to do so.
    refine ⟨p, (inside_iff_of_writer hlive hw).2 ?_⟩
    rw [hw, Option.any_some, beq_iff_eq] at h
    rw [show w = .leaving from h]
    rfl
  next => cases h

/-- In a guarded run the number moves at most twice for each write, and once more for a write that
was under way at the start. -/
theorem bumps_le (hs : s.GuardedAlong budget events) (hruns : s.runs budget events) :
    s.bumps budget events + (s.after budget events).slot.seq.toNat % 2 ≤
      2 * s.entries budget events + s.slot.seq.toNat % 2 := by
  induction events generalizing s with
  | nil => simp [bumps, trace, after]
  | cons e events ih =>
    obtain ⟨he, hruns⟩ := runs_cons.1 hruns
    obtain ⟨hall, hlast⟩ := hs
    rw [trace, List.forall_mem_cons] at hall
    have hrest := ih ⟨hall.2, hlast⟩ hruns
    have hone : (1 : UInt64).toNat = 1 := rfl
    -- The parity of the number accounts for the write that is under way.
    rw [seq_next] at hrest
    rw [bumps_cons, entries_cons]
    show _ + ((s.next budget e).after budget events).slot.seq.toNat % 2 ≤ _
    by_cases hclaims : s.claims e
    · have heven := even_of_claims hclaims
      simp only [hclaims, Bool.true_or, if_true, UInt64.toNat_add, hone] at hrest ⊢
      omega
    · by_cases hleaves : s.leaves e
      · -- Who leaves does so under an odd number.
        obtain ⟨p, hp⟩ := inside_of_leaves he hleaves
        have hodd : s.slot.seq.toNat % 2 = 1 :=
          (Sequence.isWriting_iff _).1 (hall.1.isWriting_of_inside p hp)
        simp only [hleaves, Bool.or_true, if_true, UInt64.toNat_add, hone] at hrest ⊢
        omega
      · simp only [hclaims, hleaves, Bool.or_self, Bool.false_eq_true, if_false] at hrest ⊢
        omega

/-- While nobody is inside and nobody claims the number the slot stays as it is. -/
theorem slot_next_of_orphaned (he : s.allows e) (h : s.Orphaned) (hclaims : ¬ s.claims e) :
    (s.next budget e).slot = s.slot := by
  cases e with
  | begin | slip | die | ask | read => exact slot_next_of_ne_write nofun
  | write p =>
    obtain ⟨u, w, hlive, hw⟩ := exists_of_allows_write he
    have hinside := (inside_iff_of_writer hlive hw).2
    rw [next_write hw, slot_put]
    -- Nobody alive is inside, so the writer looks or claims, and neither touches the slot.
    cases w with
    | looking spins =>
      rw [Writer.step]
      split
      next => rfl
      next => split <;> rfl
    | claiming seen spins =>
      rw [claims, hw] at hclaims
      rw [Writer.step, if_neg (by simpa using hclaims)]
    | counting => exact absurd (hinside rfl) (h p)
    | totalling => exact absurd (hinside rfl) (h p)
    | leaving => exact absurd (hinside rfl) (h p)

/-- Where an even number does not move, nobody is inside and the slot stays as it is. -/
theorem quiet (hs : s.GuardedAlong budget events) (hruns : s.runs budget events)
    (heven : s.slot.seq.isWriting = false) (hbumps : s.bumps budget events = 0) :
    (∀ x ∈ s.trace budget events, x.1.Orphaned ∧ x.1.slot = s.slot) ∧
      (s.after budget events).slot = s.slot := by
  induction events generalizing s with
  | nil => exact ⟨List.forall_mem_nil _, rfl⟩
  | cons e events ih =>
    obtain ⟨he, hruns⟩ := runs_cons.1 hruns
    obtain ⟨hall, hlast⟩ := hs
    rw [trace, List.forall_mem_cons] at hall
    rw [bumps_cons] at hbumps
    have horphaned := hall.1.orphaned heven
    have hclaims : ¬ s.claims e := fun h => by simp [h] at hbumps
    -- Whoever changed the slot now would have to be inside, or to claim the number.
    have hslot : (s.next budget e).slot = s.slot := slot_next_of_orphaned he horphaned hclaims
    obtain ⟨htrace, hafter⟩ := ih ⟨hall.2, hlast⟩ hruns (by rw [hslot, heven]) (by omega)
    rw [hslot] at htrace hafter
    refine ⟨?_, hafter⟩
    rw [trace, List.forall_mem_cons]
    exact ⟨⟨horphaned, rfl⟩, htrace⟩

end Traffic

/-! ## What a reader has found -/

/-- The counters that come first have been loaded as they are. -/
def Usage.AgreesUpTo (seen : Usage) (loaded : Nat) (usage : Usage) : Prop :=
  (0 < loaded → seen.context = usage.context) ∧ (1 < loaded → seen.module = usage.module) ∧
    (2 < loaded → seen.data = usage.data) ∧ (3 < loaded → seen.total = usage.total)

/-- Loading one more counter carries the agreement one counter further. -/
theorem Usage.AgreesUpTo.load {seen usage : Usage} {loaded : Nat}
    (h : seen.AgreesUpTo loaded usage) :
    (usage.load loaded seen).AgreesUpTo (loaded + 1) usage := by
  obtain ⟨hcontext, hmodule, hdata, htotal⟩ := h
  -- One case for each of the four words that are loaded one after the other.
  rcases loaded with _ | _ | _ | n
  · exact ⟨fun _ => rfl, fun h => absurd h (by omega), fun h => absurd h (by omega),
      fun h => absurd h (by omega)⟩
  · exact ⟨fun _ => hcontext (by omega), fun _ => rfl, fun h => absurd h (by omega),
      fun h => absurd h (by omega)⟩
  · exact ⟨fun _ => hcontext (by omega), fun _ => hmodule (by omega), fun _ => rfl,
      fun h => absurd h (by omega)⟩
  · exact ⟨fun _ => hcontext (by omega), fun _ => hmodule (by omega), fun _ => hdata (by omega),
      fun _ => rfl⟩

/-- An agreement on all four counters is equality. -/
theorem Usage.AgreesUpTo.eq {seen usage : Usage} {loaded : Nat} (h : seen.AgreesUpTo loaded usage)
    (hloaded : 3 < loaded) : seen = usage := by
  obtain ⟨hcontext, hmodule, hdata, htotal⟩ := h
  obtain ⟨context, module, data, total⟩ := seen
  rw [Usage.mk.injEq]
  exact ⟨hcontext (by omega), hmodule (by omega), hdata (by omega), htotal hloaded⟩

namespace Reader

/-- The number that a reader between its two loads has found. -/
def found? : Reader → Option Sequence
  | .loading _ before _ _ | .checking _ before _ => some before
  | _ => none

/-- What a reader between its two loads has seen is the usage. -/
def Agrees (usage : Usage) : Reader → Prop
  | .loading _ _ loaded seen => seen.AgreesUpTo loaded usage
  | .checking _ _ seen => seen = usage
  | _ => True

variable {usage value : Usage} {seq : Sequence} {r : Reader}

/-- On its way a reader keeps the number that it found at first. -/
theorem found_step (hr : r.midway) (hstep : (r.step usage seq).midway) :
    (r.step usage seq).found? = r.found? := by
  cases r with
  | loading tries before loaded seen =>
    rw [step]
    split <;> rfl
  | checking tries before seen =>
    -- After the second load the reader has returned or starts anew.
    rw [step] at hstep
    split at hstep
    next => cases hstep
    next =>
      rw [again] at hstep
      split at hstep <;> cases hstep
  | _ => cases hr

/-- On its way a reader agrees with a usage that does not change. -/
theorem agrees_step (hr : r.midway) (h : r.Agrees usage) (hstep : (r.step usage seq).midway) :
    (r.step usage seq).Agrees usage := by
  -- Only a load stays midway; a check ends the attempt or begins a new one.
  cases r with
  | loading tries before loaded seen =>
    rw [step]
    split
    next => exact h.load
    next hloaded => exact h.load.eq (by omega)
  | checking tries before seen =>
    rw [step] at hstep
    split at hstep
    next => cases hstep
    next =>
      rw [again] at hstep
      split at hstep <;> cases hstep
  | _ => cases hr

/-- A reader that returns what it marks consistent has found the same number again. -/
theorem eq_of_step_eq_returned (hr : r.midway)
    (hstep : r.step usage seq = .returned ⟨value, true⟩) :
    r.found? = some seq ∧ ∀ usage', r.Agrees usage' → usage' = value := by
  -- A reader returns untorn only from the check, and only if the number is the one it began with.
  cases r with
  | loading tries before loaded seen =>
    rw [step] at hstep
    split at hstep <;> cases hstep
  | checking tries before seen =>
    rw [step] at hstep
    split at hstep
    next hseq =>
      cases hstep
      exact ⟨congrArg some hseq.symm, fun _ h => Eq.symm h⟩
    next =>
      rw [again] at hstep
      split at hstep <;> cases hstep
  | _ => cases hr

end Reader

namespace Traffic

variable {budget : UInt32} {s t : Traffic} {p p' q : Nat} {u : Update} {d : DeviceIndex}
  {usage : Usage} {e : Event} {events : List Event} {r : Reader}

/-- A reader on its way goes on by its own accesses only. -/
theorem reader_next (he : s.allows e) (hr : s.reader q = some (d, r)) (hmidway : r.midway) :
    (s.next budget e).reader q = some (d, r) ∨
      (s.next budget e).reader q = some (d, r.step (s.slot.device d).usage s.slot.seq) := by
  cases e with
  | begin p u => exact .inl hr
  | write p =>
    rw [next]
    split <;> exact .inl hr
  | slip p =>
    rw [next]
    split <;> exact .inl hr
  | die p => exact .inl hr
  | ask q' d' =>
    -- A reader on its way does not begin anew.
    by_cases hq : q = q'
    · subst hq
      rw [allows, hr, Option.all_some] at he
      cases r with
      | returned => cases hmidway
      | _ => cases he
    · exact .inl ((reader_putReader_of_ne hq).trans hr)
  | read q' =>
    by_cases hq : q = q'
    · subst hq
      rw [next_read hr, reader_putReader_self]
      exact .inr rfl
    · rw [next]
      split
      next => exact .inl hr
      next => exact .inl ((reader_putReader_of_ne hq).trans hr)

/-- What the accesses of a reader keep while it is on its way holds until its last access. -/
theorem reader_after {P : Reader → Prop} (hr : s.reader q = some (d, r)) (hP : P r)
    (hruns : s.runs budget events)
    (hmidway : ∀ x ∈ s.trace budget (events ++ [.read q]), (x.1.reader q).any (·.2.midway))
    (hstep : ∀ x ∈ s.trace budget events, ∀ r : Reader, r.midway → P r →
      (r.step (x.1.slot.device d).usage x.1.slot.seq).midway →
      P (r.step (x.1.slot.device d).usage x.1.slot.seq)) :
    ∃ r', (s.after budget events).reader q = some (d, r') ∧ P r' ∧ r'.midway := by
  induction events generalizing s r with
  | nil =>
    have hnow := hmidway _ List.mem_cons_self
    rw [hr] at hnow
    exact ⟨r, hr, hP, hnow⟩
  | cons e events ih =>
    obtain ⟨he, hruns⟩ := runs_cons.1 hruns
    rw [List.cons_append, trace, List.forall_mem_cons] at hmidway
    rw [trace, List.forall_mem_cons] at hstep
    obtain ⟨hnow, hlater⟩ := hmidway
    rw [hr] at hnow
    -- The next state is the first one of the rest, so the reader is still on its way there.
    have hnext : ((s.next budget e).reader q).any (·.2.midway) := by
      cases events with
      | nil => exact hlater _ List.mem_cons_self
      | cons => exact hlater _ List.mem_cons_self
    have hreader : (s.next budget e).reader q = _ ∨ _ := reader_next he hr hnow
    rcases hreader with hkept | hmoved
    · exact ih hkept hP hruns hlater hstep.2
    · rw [hmoved] at hnext
      exact ih hmoved (hstep.1 r hnow hP hnext) hruns hlater hstep.2

/-! ## Reads that are marked consistent -/

/-- A reader loads the number, goes on between other events, loads the number again, and returns
the usage, marked consistent. -/
structure Reads (budget : UInt32) (s : Traffic) (q : Nat) (d : DeviceIndex) (span : List Event)
    (usage : Usage) : Prop where
  starting : ∃ tries, s.reader q = some (d, .starting tries)
  midway : ∀ x ∈ (s.next budget (.read q)).trace budget (span ++ [.read q]),
    (x.1.reader q).any (·.2.midway)
  returned : ((s.next budget (.read q)).after budget (span ++ [.read q])).reader q =
    some (d, .returned ⟨usage, true⟩)

/-- In a run a state lies between the two loads of a read that is marked consistent. -/
def Passes (budget : UInt32) (s : Traffic) (events : List Event) (d : DeviceIndex) (usage : Usage)
    (t : Traffic) : Prop :=
  ∃ before span later q, events = before ++ .read q :: (span ++ .read q :: later) ∧
    (s.after budget before).Reads budget q d span usage ∧
    ∃ e, (t, e) ∈ ((s.after budget before).next budget (.read q)).trace budget (span ++ [.read q])

/-- A run that is guarded all along begins guarded. -/
theorem GuardedAlong.guarded (h : s.GuardedAlong budget events) : s.Guarded := by
  cases events with
  | nil => exact h.2
  | cons => exact h.1 _ List.mem_cons_self

/-- Guarded all along is guarded in both parts. -/
theorem guardedAlong_append {events' : List Event} (h : s.GuardedAlong budget (events ++ events')) :
    s.GuardedAlong budget events ∧ (s.after budget events).GuardedAlong budget events' := by
  obtain ⟨hall, hlast⟩ := h
  rw [trace_append, List.forall_mem_append] at hall
  rw [after_append] at hlast
  have hrest : (s.after budget events).GuardedAlong budget events' := ⟨hall.2, hlast⟩
  exact ⟨⟨hall.1, hrest.guarded⟩, hrest⟩

/-- The entries of two runs add up. -/
theorem entries_append (events' : List Event) :
    s.entries budget (events ++ events') =
      s.entries budget events + (s.after budget events).entries budget events' := by
  rw [entries, trace_append, List.countP_append, ← entries, ← entries]

/-- What an access of a reader at the end of a run leads to. -/
theorem after_read (hr : (s.after budget events).reader q = some (d, r)) :
    s.after budget (events ++ [.read q]) =
      (s.after budget events).putReader q
        (d, r.step ((s.after budget events).slot.device d).usage
          (s.after budget events).slot.seq) := by
  rw [after_append]
  show (s.after budget events).next budget (.read q) = _
  exact next_read hr

/-- The first load of a read that is marked consistent found an even number, and kept it. -/
theorem Reads.loading {span : List Event} (h : s.Reads budget q d span usage)
    (ht : t = s.next budget (.read q)) :
    t.slot.seq.isWriting = false ∧
      ∃ tries, t.reader q = some (d, .loading tries t.slot.seq 0 {}) := by
  obtain ⟨tries, hstarting⟩ := h.starting
  have hfirst : s.next budget (.read q) = _ := next_read hstarting
  have hmidway := h.midway
  rw [← ht] at hfirst hmidway
  have hnow : (t.reader q).any (·.2.midway) := by
    cases span with
    | nil => exact hmidway _ List.mem_cons_self
    | cons => exact hmidway _ List.mem_cons_self
  have hslot : t.slot = s.slot := by rw [hfirst, slot_putReader]
  rw [hfirst, reader_putReader_self, Reader.step] at hnow
  rw [hslot, hfirst, reader_putReader_self, Reader.step]
  split at hnow
  next =>
    -- An odd number sends the reader back to the start, or ends its read.
    rw [Reader.again] at hnow
    split at hnow <;> cases hnow
  next heven => exact ⟨by simpa using heven, tries, by rw [if_neg heven]⟩

/-- A read that is marked consistent saw the number at rest. -/
theorem Reads.at_rest {span : List Event} (h : s.Reads budget q d span usage)
    (hruns : (s.next budget (.read q)).runs budget (span ++ [.read q]))
    (hguarded : (s.next budget (.read q)).GuardedAlong budget (span ++ [.read q]))
    (hfew : (s.next budget (.read q)).entries budget (span ++ [.read q]) < 2 ^ 63) :
    ∀ x ∈ (s.next budget (.read q)).trace budget (span ++ [.read q]),
      x.1.Orphaned ∧ (x.1.slot.device d).usage = usage := by
  obtain ⟨heven, tries, hreader⟩ := h.loading rfl
  have hmidway := h.midway
  have hreturned := h.returned
  generalize s.next budget (.read q) = t at *
  obtain ⟨hruns', hlast⟩ := runs_append.1 hruns
  -- The second load has found the same number.
  obtain ⟨r, hr, hfound, hr'⟩ := reader_after (P := fun r => r.found? = some t.slot.seq) hreader
    rfl hruns' hmidway fun x _ r hr hP hstep => (Reader.found_step hr hstep).trans hP
  have hsecond := after_read hr
  rw [hsecond, reader_putReader_self, Option.some.injEq, Prod.mk.injEq] at hreturned
  obtain ⟨hseq, hload⟩ := Reader.eq_of_step_eq_returned hr' hreturned.2
  rw [hfound, Option.some.injEq] at hseq
  have hsame : (t.after budget (span ++ [.read q])).slot.seq = t.slot.seq := by
    rw [hsecond, slot_putReader, hseq]
  have hbumps := bumps_le hguarded hruns
  rw [hsame] at hbumps
  obtain ⟨hquiet, -⟩ := quiet hguarded hruns heven (bumps_eq_zero hsame (by omega))
  -- Nothing was written in between, so the counters were loaded from one usage.
  have husage : ∀ x ∈ t.trace budget span, x.1.slot = t.slot := fun x hx => by
    refine (hquiet x ?_).2
    rw [trace_append]
    exact List.mem_append_left _ hx
  obtain ⟨r', hreader', hagrees, -⟩ := reader_after
    (P := Reader.Agrees (t.slot.device d).usage) hreader ⟨nofun, nofun, nofun, nofun⟩ hruns'
    hmidway fun x hx r hr hP hstep => by
      rw [husage x hx] at hstep ⊢
      exact Reader.agrees_step hr hP hstep
  rw [hr, Option.some.injEq, Prod.mk.injEq] at hreader'
  obtain ⟨-, rfl⟩ := hreader'
  exact fun x hx => ⟨(hquiet x hx).1, by rw [(hquiet x hx).2, hload _ hagrees]⟩

/-- In a guarded run of fewer than `2 ^ 63` writes no living writer is inside while a read goes on
that is marked consistent, and the usage returned is the one of the device throughout. -/
theorem untorn_of_guarded (hguarded : s.GuardedAlong budget events)
    (hruns : s.runs budget events) (hfew : s.entries budget events < 2 ^ 63)
    (h : s.Passes budget events d usage t) : t.Orphaned ∧ (t.slot.device d).usage = usage := by
  obtain ⟨before, span, later, q, rfl, hreads, e, hmem⟩ := h
  -- What holds of the whole run holds of the part between the two loads.
  have hsplit : before ++ .read q :: (span ++ .read q :: later) =
      (before ++ [.read q]) ++ ((span ++ [.read q]) ++ later) := by simp
  have hfirst : s.after budget (before ++ [.read q]) =
      (s.after budget before).next budget (.read q) := after_append before [.read q]
  rw [hsplit] at hguarded hruns hfew
  have hguarded := (guardedAlong_append (guardedAlong_append hguarded).2).1
  have hruns := (runs_append.1 (runs_append.1 hruns).2).1
  rw [entries_append, hfirst, entries_append later] at hfew
  rw [hfirst] at hguarded hruns
  exact hreads.at_rest hruns hguarded (by omega) (t, e) hmem

/-! ## What breaks a section that is not guarded -/

/-- A reader returns a usage, marked consistent, while a living writer is inside, and no writer
takes over. -/
def Breaks (budget : UInt32) (s : Traffic) : Prop :=
  ∃ events, s.runs budget events ∧ (∀ x ∈ s.trace budget events, ¬ x.1.takesOver budget x.2) ∧
    s.entries budget events < 2 ^ 63 ∧ ∃ d usage t, s.Passes budget events d usage t ∧ ¬ t.Orphaned

/-- The accesses of a reader that nobody disturbs. -/
def soloRead (q : Nat) (d : DeviceIndex) : List Event :=
  [.ask q d, .read q, .read q, .read q, .read q, .read q, .read q]

/-- Under an even number nothing warns a reader of a writer that is inside. -/
theorem exists_passes_of_even (hq : (s.reader q).all (·.2.isDone))
    (heven : s.slot.seq.isWriting = false) (d : DeviceIndex) :
    s.runs budget (soloRead q d) ∧ (∀ x ∈ s.trace budget (soloRead q d), ∀ p, x.2 ≠ .write p) ∧
      ∃ t, s.Passes budget (soloRead q d) d (s.slot.device d).usage t ∧
        ∀ p, t.inside p = s.inside p := by
  let usage := (s.slot.device d).usage
  have hask : s.next budget (.ask q d) = s.putReader q (d, .starting 0) := rfl
  -- A reader alone: it asks, looks at the number, loads four words, and checks.
  have hread : ∀ r, (s.putReader q (d, r)).next budget (.read q) =
      s.putReader q (d, r.step usage s.slot.seq) := by
    intro r
    rw [next_read reader_putReader_self, slot_putReader, putReader_putReader]
  have hreads : (s.putReader q (d, .starting 0)).Reads budget q d
      [.read q, .read q, .read q, .read q] usage := by
    refine ⟨⟨0, reader_putReader_self⟩, ?_, ?_⟩
    · simp [hread, trace, Reader.step, Reader.midway, heven]
    · simp [hread, after, Reader.step, Usage.load, heven]
  refine ⟨?_, ?_, s.putReader q (d, .loading 0 s.slot.seq 0 {}), ?_, fun p => rfl⟩
  · refine runs_cons.2 ⟨hq, ?_⟩
    simp [runs, trace, hask, hread, allows]
  · simp [soloRead, trace]
  · refine ⟨[.ask q d], [.read q, .read q, .read q, .read q], [], q, rfl, hreads, .read q, ?_⟩
    show _ ∈ trace budget ((s.putReader q (d, .starting 0)).next budget (.read q)) _
    simp [hread, trace, Reader.step, heven]

/-- What a later state passes is passed from an earlier one. -/
theorem Passes.of_append {events' : List Event} {t : Traffic}
    (h : (s.after budget events).Passes budget events' d usage t) :
    s.Passes budget (events ++ events') d usage t := by
  obtain ⟨before, span, later, q, rfl, hreads, e, hmem⟩ := h
  rw [← after_append] at hreads hmem
  exact ⟨events ++ before, span, later, q, (List.append_assoc ..).symm, hreads, e, hmem⟩

/-- Only an access of a writer begins a write. -/
theorem enters_eq_false (h : ∀ p, e ≠ .write p) :
    s.claims e = false ∧ s.takesOver budget e = false := by
  cases e with
  | write p => exact absurd rfl (h p)
  | _ => exact ⟨rfl, rfl⟩

/-- A living writer that is inside under an even number breaks the section. -/
theorem breaks_of_even (hq : (s.reader q).all (·.2.isDone)) (hp : s.inside p)
    (heven : s.slot.seq.isWriting = false) : s.Breaks budget := by
  obtain ⟨hruns, hwrites, t, hpasses, hinside⟩ :=
    exists_passes_of_even hq heven ⟨0, by decide⟩
  -- The reader is alone, so that nobody enters while it reads.
  have hzero : s.entries budget (soloRead q ⟨0, by decide⟩) = 0 := by
    rw [entries, List.countP_eq_zero]
    intro x hx
    obtain ⟨hclaims, htakes⟩ := enters_eq_false (hwrites x hx)
    rw [hclaims, htakes]
    exact Bool.false_ne_true
  refine ⟨_, hruns, fun x hx => ?_, by rw [hzero]; decide, _, _, t, hpasses, fun h => h p ?_⟩
  · rw [(enters_eq_false (hwrites x hx)).2]
    exact Bool.false_ne_true
  · rwa [hinside p]

/-- A writer that is inside goes on, and what breaks then breaks now. -/
theorem breaks_of_write {w : Writer} (hlive : s.alive p) (hw : s.writer p = some (u, w))
    (hinside : w.inside) (h : (s.next budget (.write p)).Breaks budget) : s.Breaks budget := by
  obtain ⟨events, hruns, hnone, hfew, d, usage, t, hpasses, ht⟩ := h
  have hallows : s.allows (.write p) := by
    rw [allows, hlive, hw]
    rfl
  -- The first event is a write of somebody inside, which neither claims nor takes over.
  have hclaims : s.claims (.write p) = false := by
    rw [claims, hw]
    cases w <;> first | rfl | cases hinside
  have htakes : s.takesOver budget (.write p) = false := by
    rw [takesOver, hw]
    cases w <;> first | rfl | cases hinside
  refine ⟨.write p :: events, runs_cons.2 ⟨hallows, hruns⟩, ?_, ?_, d, usage, t, ?_, ht⟩
  · rw [trace, List.forall_mem_cons]
    exact ⟨by simp [htakes], hnone⟩
  · rw [entries_cons, hclaims, htakes]
    exact hfew
  · have hafter : s.after budget [.write p] = s.next budget (.write p) := rfl
    rw [← hafter] at hpasses
    exact hpasses.of_append

/-- Of two writers that are inside under an odd number one leaves, and the other one is inside
under an even number. -/
theorem breaks_of_two (hq : (s.reader q).all (·.2.isDone)) (hne : p' ≠ p) (hp : s.inside p)
    (hp' : s.inside p') (hodd : s.slot.seq.isWriting) : s.Breaks budget := by
  obtain ⟨hlive, x, hx, hinside⟩ : s.alive p ∧ ∃ x, s.writer p = some x ∧ x.2.inside := by
    rw [inside, Bool.and_eq_true, Option.any_eq_true] at hp
    exact hp
  obtain ⟨u, w⟩ := x
  -- Backwards from the access with which the writer leaves.
  have hleaving : ∀ slot : Slot, slot.seq.isWriting →
      (s.put p (some (u, .leaving)) slot).Breaks budget := by
    intro slot hodd
    refine breaks_of_write hlive writer_put_self rfl ?_
    rw [next_write writer_put_self, put_put]
    refine breaks_of_even (q := q) (p := p') hq ?_ ?_
    · rwa [inside_put_of_ne hne]
    · rw [slot_put, ← Bool.not_eq_true, Sequence.isWriting_iff]
      rw [Sequence.isWriting_iff] at hodd
      show ¬ (slot.seq + 1).toNat % 2 = 1
      have : (1 : UInt64).toNat = 1 := rfl
      rw [UInt64.toNat_add]
      omega
  have htotalling : ∀ slot : Slot, slot.seq.isWriting →
      (s.put p (some (u, .totalling)) slot).Breaks budget := by
    intro slot hodd
    refine breaks_of_write hlive writer_put_self rfl ?_
    rw [next_write writer_put_self, put_put]
    exact hleaving _ hodd
  have hself := put_self hx
  cases w with
  | counting =>
    refine breaks_of_write hlive hx rfl ?_
    rw [next_write hx]
    exact htotalling _ hodd
  | totalling => exact hself ▸ htotalling _ hodd
  | leaving => exact hself ▸ hleaving _ hodd
  | _ => cases hinside

/-- A section breaks exactly if it is not guarded. -/
theorem breaks_iff (hq : (s.reader q).all (·.2.isDone)) : s.Breaks budget ↔ ¬ s.Guarded := by
  constructor
  · -- Without a takeover a guarded section stays guarded.
    rintro ⟨events, hruns, hnone, hfew, d, usage, t, hpasses, ht⟩ hs
    have hguarded := (guardedAlong_iff hs hruns).2 fun x hx htakes => absurd htakes (hnone x hx)
    exact ht (untorn_of_guarded hguarded hruns hfew hpasses).1
  · intro hs
    by_contra hbreaks
    have hodd : ∀ p, s.inside p → s.slot.seq.isWriting := by
      intro p hp
      by_contra heven
      exact hbreaks (breaks_of_even hq hp (by simpa using heven))
    refine hs ⟨fun p p' hp hp' => ?_, hodd⟩
    by_contra hne
    exact hbreaks (breaks_of_two hq (Ne.symm hne) hp hp' (hodd p hp))

/-! ## Untorn reads -/

/-- The section is guarded throughout a run exactly if each takeover finds it orphaned. In a guarded
run of fewer than `2 ^ 63` writes a read that is marked consistent returns the usage of the device
as it is from its first load of the number to its second, and no living writer is inside in
between. Where the section is not guarded, such a read can come to pass a living writer that is
inside without any further takeover; where it is guarded, it cannot. -/
theorem untorn_iff_takeovers_orphaned (hs : s.Start) (hruns : s.runs budget events)
    (hfew : s.entries budget events < 2 ^ 63) :
    (s.GuardedAlong budget events ↔
      ∀ x ∈ s.trace budget events, x.1.takesOver budget x.2 → x.1.Orphaned) ∧
    (s.GuardedAlong budget events → ∀ d usage t, s.Passes budget events d usage t →
      t.Orphaned ∧ (t.slot.device d).usage = usage) ∧
    ∀ q, ((s.after budget events).reader q).all (·.2.isDone) →
      ((s.after budget events).Breaks budget ↔ ¬ (s.after budget events).Guarded) :=
  ⟨guardedAlong_iff hs.guarded hruns,
    fun hguarded _ _ _ hpasses => untorn_of_guarded hguarded hruns hfew hpasses,
    fun _ hq => breaks_iff hq⟩

/-! ## Three writers -/

/-- Writers 0, 1 and 2 and a reader at a slot that was never used. -/
def three : Traffic where
  slot := .empty
  alive p := p < 3
  writer _ := none
  reader _ := none

/-- A charge of one byte. -/
def oneByte : Update := ⟨⟨0, Nat.zero_lt_succ 15⟩, .data, 1, false⟩

/-- Writer 0 enters and dies. -/
def death : List Event := [.begin 0 oneByte, .write 0, .write 0, .die 0]

/-- Writer 1 takes over from writer 0 and charges. -/
def recovery : List Event :=
  death ++ [.begin 1 oneByte, .write 1, .write 1, .write 1, .write 1, .write 1]

/-- Then the reader reads. -/
def crash : List Event := recovery ++ soloRead 0 oneByte.device

/-- It is a start. -/
theorem start_three : three.Start := ⟨fun _ => rfl, fun _ => rfl⟩

/-- Nobody comes back to life. -/
theorem alive_of_alive_next (h : (s.next budget e).alive p) : s.alive p := by
  -- Nobody is brought back to life; only a death changes who is alive.
  cases e with
  | begin p u => exact h
  | write p =>
    rw [next] at h
    split at h <;> exact h
  | slip p =>
    rw [next] at h
    split at h <;> exact h
  | die p =>
    simp only [next, Bool.and_eq_true] at h
    exact h.2
  | ask q d => exact h
  | read q =>
    rw [next] at h
    split at h <;> exact h

/-- Who is alive at some point of a run was alive at its start. -/
theorem alive_of_mem_trace {x : Traffic × Event} (hx : x ∈ s.trace budget events)
    (h : x.1.alive p) : s.alive p := by
  induction events generalizing s with
  | nil => cases hx
  | cons e events ih =>
    rw [trace, List.mem_cons] at hx
    rcases hx with rfl | hx
    · exact h
    · exact alive_of_alive_next (ih hx)

/-- In a run of the three nobody else is inside. -/
private theorem orphaned_of_mem_trace {x : Traffic × Event} (hx : x ∈ three.trace budget events)
    (h : ¬ x.1.inside 0 ∧ ¬ x.1.inside 1 ∧ ¬ x.1.inside 2) : x.1.Orphaned := by
  intro p hp
  -- Only three writers were ever alive.
  have hlive : p < 3 := by
    have := alive_of_mem_trace hx (Bool.and_eq_true_iff.1 hp).1
    simpa [three] using this
  obtain rfl | rfl | rfl : p = 0 ∨ p = 1 ∨ p = 2 := by omega
  · exact h.1 hp
  · exact h.2.1 hp
  · exact h.2.2 hp

/-- One writer takes over from a dead one, and the reader sees its charge. To keep the run short the
spin budget is one here, so that the writer takes over when it has looked once; with the budget
`Sequence.writeSpins` it would look that many times in the same state. -/
theorem untorn_iff_takeovers_orphaned_of_crash :
    three.Start ∧ three.runs 1 crash ∧ three.entries 1 crash < 2 ^ 63 ∧
      three.GuardedAlong 1 crash ∧
      ∃ t, three.Passes 1 crash oneByte.device ⟨0, 0, 1, 1⟩ t ∧ t.Orphaned := by
  have hruns : three.runs 1 crash := by
    unfold runs
    decide +kernel
  have hfew : three.entries 1 crash < 2 ^ 63 := by decide +kernel
  obtain ⟨hiff, huntorn, -⟩ := untorn_iff_takeovers_orphaned start_three hruns hfew
  -- One writer dies inside, and nobody else is inside when another one takes over.
  have htakes : ∀ x ∈ three.trace 1 crash, x.1.takesOver 1 x.2 →
      ¬ x.1.inside 0 ∧ ¬ x.1.inside 1 ∧ ¬ x.1.inside 2 := by decide +kernel
  have hguarded := hiff.2 fun x hx h => orphaned_of_mem_trace hx (htakes x hx h)
  have hidle : ((three.after 1 recovery).reader 0).all (·.2.isDone) := by decide +kernel
  have heven : (three.after 1 recovery).slot.seq.isWriting = false := by decide +kernel
  have husage : ((three.after 1 recovery).slot.device oneByte.device).usage = ⟨0, 0, 1, 1⟩ := by
    decide +kernel
  obtain ⟨-, -, t, hpasses, -⟩ := exists_passes_of_even hidle heven oneByte.device
  rw [husage] at hpasses
  exact ⟨start_three, hruns, hfew, hguarded, t, hpasses.of_append,
    (huntorn hguarded _ _ t hpasses.of_append).1⟩

/-- A dead writer stays where it is. -/
theorem dead_next (he : s.allows e) (hdead : s.alive p = false) :
    (s.next budget e).alive p = false ∧ (s.next budget e).writer p = s.writer p := by
  have hne : ∀ q, s.alive q → p ≠ q := by
    rintro q hlive rfl
    rw [hdead] at hlive
    cases hlive
  -- Every access of a writer is one of a living writer, and so not of this one.
  cases e with
  | begin q u =>
    rw [allows, Bool.and_eq_true] at he
    exact ⟨hdead, writer_put_of_ne (hne q he.1)⟩
  | write q =>
    obtain ⟨u, w, hlive, hw⟩ := exists_of_allows_write he
    rw [next_write hw]
    exact ⟨hdead, writer_put_of_ne (hne q hlive)⟩
  | slip q =>
    rw [allows, Bool.and_eq_true] at he
    rw [next]
    split
    next => exact ⟨hdead, writer_put_of_ne (hne q he.1)⟩
    next => exact ⟨hdead, rfl⟩
  | die q => exact ⟨by simp [next, hdead], rfl⟩
  | ask q d => exact ⟨hdead, rfl⟩
  | read q =>
    rw [next]
    split <;> exact ⟨hdead, rfl⟩

/-- All along a run a dead writer stays where it was. -/
theorem dead_of_mem_trace (hruns : s.runs budget events) (hdead : s.alive p = false)
    {x : Traffic × Event} (hx : x ∈ s.trace budget events) :
    x.1.alive p = false ∧ x.1.writer p = s.writer p := by
  -- The induction is on the events; the dead neither write nor come back.
  induction events generalizing s with
  | nil => cases hx
  | cons e events ih =>
    obtain ⟨he, hruns⟩ := runs_cons.1 hruns
    obtain ⟨hdead', hwriter⟩ : (s.next budget e).alive p = false ∧ _ := dead_next he hdead
    rw [trace, List.mem_cons] at hx
    rcases hx with rfl | hx
    · exact ⟨hdead, rfl⟩
    · rw [← hwriter]
      exact ih hruns hdead' hx

/-- Of two writers that go for the section one after the other, the first one to enter may leave
after the second one has given up waiting, which is then inside under an even number. -/
theorem exists_leads_two (budget : UInt32) (hne : p' ≠ p) (hlive : s.alive p) (hlive' : s.alive p')
    (hw : s.writer p = none) (hw' : s.writer p' = none) (u : Update) :
    ∃ events t, events.length ≤ 2 * budget.toNat + 9 ∧ s.Leads budget events t ∧ t.inside p' ∧
      t.slot.seq.isWriting = false ∧ t.reader = s.reader := by
  obtain ⟨enter, hlength, henter⟩ := exists_leads_enter budget (u := u) hlive s.slot
  have hfirst := (leads_begin budget hlive hw u).append henter
  let entered : Slot := { s.slot with seq := s.slot.seq.enter }
  let v := s.put p (some (u, .counting)) entered
  -- The other one finds an odd number and takes over.
  have hnone : v.writer p' = none := (writer_put_of_ne hne).trans hw'
  obtain ⟨enter', hlength', henter'⟩ := exists_leads_enter budget (s := v) (u := u) hlive' entered
  have hsecond := (leads_begin budget (s := v) hlive' hnone u).append henter'
  let entered' : Slot := { entered with seq := entered.seq.enter }
  let v' := v.put p' (some (u, .counting)) entered'
  have hself : v'.put p (some (u, .counting)) entered' = v' := by
    refine put_self ?_
    rw [writer_put_of_ne hne.symm, writer_put_self]
  -- The first one goes on and leaves.
  have hkind := leads_step budget (s := v') (u := u) hlive .counting entered'
  have htotal := leads_step budget (s := v') (u := u) hlive .totalling (u.countKind entered')
  have hleave := leads_step budget (s := v') (u := u) hlive .leaving
    (u.countTotal (u.countKind entered'))
  rw [hself] at hkind
  refine ⟨_, _, ?_, (((hfirst.append hsecond).append hkind).append htotal).append hleave, ?_, ?_,
    rfl⟩
  · simp only [List.length_append, List.length_cons, List.length_nil]
    omega
  · rw [inside_put_of_ne hne, inside_put_self, Bool.and_eq_true]
    exact ⟨hlive', rfl⟩
  · exact Sequence.isWriting_write entered.seq

/-- There are no more entries than events. -/
theorem entries_le_length : s.entries budget events ≤ events.length := by
  have hlength : (s.trace budget events).length = events.length := by
    induction events generalizing s with
    | nil => rfl
    | cons e events ih => exact congrArg (· + 1) ih
  exact hlength ▸ List.countP_le_length

/-- It is not enough for untorn reads that a takeover happens only after some writer has died
inside: two writers take over from the same dead one. -/
theorem not_untorn : ¬ ∀ (s : Traffic) (events : List Event), s.Start →
    s.runs (.ofNat Sequence.writeSpins) events →
    s.entries (.ofNat Sequence.writeSpins) events < 2 ^ 63 →
    (∀ x ∈ s.trace (.ofNat Sequence.writeSpins) events,
      x.1.takesOver (.ofNat Sequence.writeSpins) x.2 →
      ∃ p, x.1.alive p = false ∧ (x.1.writer p).any (·.2.inside)) →
    ∀ d usage t, s.Passes (.ofNat Sequence.writeSpins) events d usage t → t.Orphaned := by
  intro huntorn
  let budget : UInt32 := .ofNat Sequence.writeSpins
  have hbudget : budget.toNat = 0x100000 := by decide
  -- Writer 0 is dead inside, and the other two go for the section.
  have hdeath : three.runs budget death := by
    unfold runs
    decide +kernel
  have hdead : (three.after budget death).alive 0 = false := by decide +kernel
  have hinside : ((three.after budget death).writer 0).any (·.2.inside) := by decide +kernel
  have hnone : ∀ x ∈ three.trace budget death, ¬ x.1.takesOver budget x.2 := by decide +kernel
  obtain ⟨events, t, hlength, hleads, hother, heven, hreader⟩ :=
    exists_leads_two (s := three.after budget death) budget (show 2 ≠ 1 by decide)
      (by decide +kernel) (by decide +kernel) (by decide +kernel) (by decide +kernel) oneByte
  have hidle : (t.reader 0).all (·.2.isDone) := by
    rw [hreader]
    decide +kernel
  obtain ⟨hread, -, v, hpasses, hv⟩ : t.runs budget _ ∧ _ :=
    exists_passes_of_even hidle heven oneByte.device
  have hrest : (three.after budget death).runs budget (events ++ soloRead 0 oneByte.device) := by
    rw [runs_append, hleads.2]
    exact ⟨hleads.1, hread⟩
  rw [← hleads.2] at hpasses
  have horphaned : v.Orphaned := by
    refine huntorn three (death ++ (events ++ soloRead 0 oneByte.device)) start_three
      (runs_append.2 ⟨hdeath, hrest⟩) ?_ ?_ _ _ v hpasses.of_append.of_append
    · refine Nat.lt_of_le_of_lt entries_le_length ?_
      have hlast : (soloRead 0 oneByte.device).length = 7 := rfl
      have hfirst : death.length = 4 := rfl
      rw [List.length_append, List.length_append]
      omega
    · intro x hx htakes
      rw [trace_append, List.mem_append] at hx
      rcases hx with hx | hx
      · exact absurd htakes (hnone x hx)
      · -- From now on writer 0 is dead inside.
        obtain ⟨hdead', hwriter⟩ := dead_of_mem_trace hrest hdead hx
        exact ⟨0, hdead', by rwa [hwriter]⟩
  exact horphaned 2 (by rwa [hv])

end Traffic

end GpuQuota
