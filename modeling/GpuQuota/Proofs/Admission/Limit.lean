import GpuQuota.Proofs.Admission.Contest
import GpuQuota.Proofs.Registry.Reachable
import GpuQuota.Proofs.Registry.Registration
import Mathlib.Algebra.BigOperators.Pi
import Mathlib.Algebra.Order.BigOperators.Group.Finset

/-!
# Grants stay within the limit

What a process has read while it sums up the table is out of date by the time that it decides. The
reservations are ordered by the time at which they were charged. Whatever a reservation has read
covers all older reservations in the slots that it has read: they were charged when it began to
read, and what has been taken back since only makes the sum read too large. So the newest grant
has covered all others.

The module introduces:

* `Reservation.load`, `loads` — the bytes of reservations, slot by slot.
* `Reservation.Sound`, `Covered` — what a reservation has read covers the older ones.
* `Contest.Invariant` — the invariant, and `Contest.Step.invariant`, its step lemma.
* `Contest.granted_le_limit` — grants stay within the limit in every reachable state.
* `Contest.Start.register` — contests start with processes that have registered;
  `Contest.granted_le_limit_of_race` is one of two processes that charge before either has read.
-/

namespace GpuQuota

/-! ## Loads -/

/-- The bytes of a reservation, slot by slot. -/
def Reservation.load (x : Reservation) : Fin maxProcesses → Nat := Pi.single x.slot x.bytes.toNat

/-- The bytes of reservations, slot by slot. -/
def loads (l : List Reservation) : Fin maxProcesses → Nat := (l.map (·.load)).sum

@[simp] theorem loads_nil : loads [] = 0 := rfl

@[simp] theorem loads_cons (x : Reservation) (l : List Reservation) :
    loads (x :: l) = x.load + loads l := by
  rw [loads, List.map_cons, List.sum_cons, loads]

@[simp] theorem loads_append (l l' : List Reservation) : loads (l ++ l') = loads l + loads l' := by
  rw [loads, List.map_append, List.sum_append, loads, loads]

/-- A slot without reservations bears no load. -/
theorem loads_eq_zero {l : List Reservation} {i : Fin maxProcesses}
    (h : ∀ x ∈ l, x.slot ≠ i) : loads l i = 0 := by
  induction l with
  | nil => rfl
  | cons x l ih =>
    rw [loads_cons, Pi.add_apply, ih fun y hy => h y (List.mem_cons_of_mem _ hy), add_zero,
      Reservation.load, Pi.single_eq_of_ne (h x List.mem_cons_self).symm]

/-- The loads of all slots together are the bytes of all reservations. -/
theorem sum_loads (l : List Reservation) : ∑ i, loads l i = (l.map (·.bytes.toNat)).sum := by
  induction l with
  | nil => simp
  | cons x l ih =>
    simp only [loads_cons, Pi.add_apply]
    rw [Finset.sum_add_distrib, ih, List.map_cons, List.sum_cons, Reservation.load,
      Finset.sum_pi_single' ]
    simp

/-- What a slot bears does not depend on the reservations of other slots. -/
theorem loads_filter {l : List Reservation} {p : Reservation → Bool} {i : Fin maxProcesses}
    (h : ∀ x ∈ l, x.slot = i → p x = true) : loads (l.filter p) i = loads l i := by
  induction l with
  | nil => rfl
  | cons x l ih =>
    have hl := ih fun y hy => h y (List.mem_cons_of_mem _ hy)
    -- What is filtered out is in another slot, where it puts no load on this one.
    by_cases hp : p x = true
    · rw [List.filter_cons_of_pos hp, loads_cons, loads_cons, Pi.add_apply, Pi.add_apply, hl]
    · have hx : x.slot ≠ i := fun hxi => hp (h x List.mem_cons_self hxi)
      rw [List.filter_cons_of_neg hp, loads_cons, Pi.add_apply, Reservation.load,
        Pi.single_eq_of_ne hx.symm, zero_add, hl]

/-- A slot bears no more than all slots together. -/
theorem loads_le_sum (l : List Reservation) (i : Fin maxProcesses) :
    loads l i ≤ (l.map (·.bytes.toNat)).sum := by
  rw [← sum_loads]
  exact Finset.single_le_sum (fun _ _ => Nat.zero_le _) (Finset.mem_univ i)

/-! ## What has been read -/

/-- The load of the slots before a position. -/
def loadBelow (load : Fin maxProcesses → Nat) (n : Nat) : Nat :=
  ∑ i, if i.val < n then load i else 0

section LoadBelow

variable (load : Fin maxProcesses → Nat)

theorem loadBelow_zero : loadBelow load 0 = 0 := by simp [loadBelow]

theorem loadBelow_succ (i : Fin maxProcesses) :
    loadBelow load (i + 1) = loadBelow load i + load i := by
  -- One more slot: what stood before it, and the slot itself.
  have hsplit : ∀ j : Fin maxProcesses, (if j.val < i + 1 then load j else 0) =
      (if j.val < i then load j else 0) + if j = i then load j else 0 := by
    intro j
    by_cases hji : j = i
    · simp [hji]
    · have hne : j.val ≠ i.val := fun hval => hji (Fin.ext hval)
      have hiff : j.val < i + 1 ↔ j.val < i := by omega
      simp [hji, hiff]
  rw [loadBelow, Finset.sum_congr rfl fun j _ => hsplit j, Finset.sum_add_distrib,
    Finset.sum_ite_eq', if_pos (Finset.mem_univ i), loadBelow]

/-- Before a position beyond which there is no load there is all of it. -/
theorem loadBelow_eq_sum {n : Nat} (h : ∀ i : Fin maxProcesses, n ≤ i.val → load i = 0) :
    loadBelow load n = ∑ i, load i := by
  refine Finset.sum_congr rfl fun i _ => ?_
  split
  next => rfl
  next hi => exact (h i (Nat.le_of_not_lt hi)).symm

theorem loadBelow_mono {load load' : Fin maxProcesses → Nat} (h : load' ≤ load) (n : Nat) :
    loadBelow load' n ≤ loadBelow load n := by
  refine Finset.sum_le_sum fun i _ => ?_
  split
  next => exact h i
  next => exact le_rfl

end LoadBelow

/-- With the load of a reservation and of all older ones: what has been read covers the load of
the slots read, there is no load beyond the mark, and a grant leaves the load within the limit. -/
def Reservation.Sound (limit : UInt64) (load : Fin maxProcesses → Nat) (x : Reservation) : Prop :=
  match x.stage with
  | .charged => True
  | .reading mark next sum =>
    (∀ i, mark ≤ i.val → load i = 0) ∧ min (loadBelow load next) wordMax ≤ sum.bytes.toNat
  | .granted => ∑ i, load i ≤ limit.toNat

/-- What each reservation has read covers the ones before it and a load that is older than all. -/
def Covered (limit : UInt64) (base : Fin maxProcesses → Nat) : List Reservation → Prop
  | [] => True
  | x :: newer => x.Sound limit (base + x.load) ∧ Covered limit (base + x.load) newer

section Covered

variable {limit : UInt64} {base base' : Fin maxProcesses → Nat}

/-- The less load there is, the better it is covered. -/
theorem Reservation.Sound.mono {x : Reservation} (h : x.Sound limit base) (hle : base' ≤ base) :
    x.Sound limit base' := by
  unfold Sound at h ⊢
  -- Only a reservation that reads or has been granted says anything of the load.
  split
  next => trivial
  next mark next sum hx =>
    rw [hx] at h
    refine ⟨fun i hi => Nat.le_zero.1 ((hle i).trans_eq (h.1 i hi)), le_trans ?_ h.2⟩
    exact min_le_min_right _ (loadBelow_mono hle next)
  next hx =>
    rw [hx] at h
    exact (Finset.sum_le_sum fun i _ => hle i).trans h

/-- The less load there is, the better it is covered. -/
theorem Covered.mono {l : List Reservation} (h : Covered limit base l) (hle : base' ≤ base) :
    Covered limit base' l := by
  induction l generalizing base base' with
  | nil => trivial
  | cons x newer ih =>
    have hle' : base' + x.load ≤ base + x.load := fun i => Nat.add_le_add_right (hle i) _
    exact ⟨h.1.mono hle', ih h.2 hle'⟩

/-- Reservations may be taken away. -/
theorem Covered.sublist {l l' : List Reservation} (h : Covered limit base l)
    (hsub : l'.Sublist l) : Covered limit base l' := by
  induction hsub generalizing base with
  | slnil => trivial
  | cons x _ ih => exact ih (h.2.mono fun i => Nat.le_add_right _ _)
  | cons_cons x _ ih => exact ⟨h.1, ih h.2⟩

theorem covered_append {l l' : List Reservation} :
    Covered limit base (l ++ l') ↔ Covered limit base l ∧ Covered limit (base + loads l) l' := by
  induction l generalizing base with
  | nil => simp [Covered]
  | cons x l ih =>
    rw [List.cons_append, Covered, ih, Covered, loads_cons, add_assoc, and_assoc]

/-- The newest grant has covered all others, so that all grants together are within the limit. -/
theorem Covered.granted_le {l : List Reservation} (h : Covered limit 0 l) :
    ((l.filter (·.stage = .granted)).map (·.bytes.toNat)).sum ≤ limit.toNat := by
  induction l using List.reverseRecOn with
  | nil => exact Nat.zero_le _
  | append_singleton l x ih =>
    -- The newest reservation is a grant, which covers all, or does not count.
    obtain ⟨hl, hx, -⟩ := covered_append.1 h
    by_cases hgranted : x.stage = .granted
    · rw [zero_add, Reservation.Sound, hgranted] at hx
      have hall : ∑ i, (loads l + x.load) i = ((l ++ [x]).map (·.bytes.toNat)).sum := by
        rw [← sum_loads, loads_append, loads_cons, loads_nil, add_zero]
      rw [hall] at hx
      exact (List.Sublist.sum_le_sum (List.filter_sublist.map _) fun _ _ => Nat.zero_le _).trans hx
    · rw [List.filter_append, List.filter_singleton, decide_eq_false hgranted, cond_false,
        List.append_nil]
      exact ih hl

end Covered

/-! ## The invariant -/

namespace Contest

variable {d : DeviceIndex} {limit : UInt64} {s s' : Contest}

/-- The invariant of a contest. -/
structure Invariant (d : DeviceIndex) (limit : UInt64) (s : Contest) : Prop where
  /-- Whoever reads sees the slots of the living. -/
  lt_mark : ∀ i, s.Live i → i.val < s.region.mark
  /-- Only the living have reservations. -/
  live : ∀ x ∈ s.reservations, s.Live x.slot
  /-- A request fits beside the limit. -/
  fits : ∀ x ∈ s.reservations, limit.toNat + x.bytes.toNat < 2 ^ 64
  /-- The living are charged their reservations, which do not wrap around. -/
  total_eq : ∀ i, s.Live i → (s.region.usageAt i d).total.toNat = loads s.reservations i
  /-- What has been read covers older reservations. -/
  covered : Covered limit 0 s.reservations

/-- The invariant holds at the start. -/
theorem Start.invariant (h : Start d s) : s.Invariant d limit where
  lt_mark i hi := h.consistent.lt_mark hi.1
  -- Nothing is reserved yet, and nothing is charged.
  live x hx := by
    rw [h.reservations_eq_nil] at hx
    cases hx
  fits x hx := by
    rw [h.reservations_eq_nil] at hx
    cases hx
  total_eq i hi := by
    rw [h.total_eq_zero i hi, h.reservations_eq_nil]
    rfl
  covered := by
    rw [h.reservations_eq_nil]
    trivial

namespace Invariant

/-- A reservation that moves on must be covered in its new stage. -/
theorem restage (h : s.Invariant d limit) {older newer : List Reservation} {x : Reservation}
    (hs : s.reservations = older ++ x :: newer) (stage : Stage)
    (hsound : ({ x with stage } : Reservation).Sound limit (loads older + x.load)) :
    { s with reservations := older ++ { x with stage } :: newer }.Invariant d limit := by
  -- The reservations stand in the same slots with the same bytes as before.
  have hsame : ∀ y ∈ older ++ { x with stage } :: newer,
      ∃ z ∈ s.reservations, z.slot = y.slot ∧ z.bytes = y.bytes := by
    intro y hy
    rw [List.mem_append, List.mem_cons] at hy
    rw [hs]
    rcases hy with hy | rfl | hy
    · exact ⟨y, List.mem_append_left _ hy, rfl, rfl⟩
    · exact ⟨x, List.mem_append_right _ List.mem_cons_self, rfl, rfl⟩
    · exact ⟨y, List.mem_append_right _ (List.mem_cons_of_mem _ hy), rfl, rfl⟩
  have hloads : loads (older ++ { x with stage } :: newer) = loads s.reservations := by
    rw [hs, loads_append, loads_append, loads_cons, loads_cons]
    rfl
  have hcovered := h.covered
  rw [hs, covered_append] at hcovered
  constructor
  case lt_mark => exact h.lt_mark
  case live =>
    intro y hy
    obtain ⟨z, hz, hslot, -⟩ := hsame y hy
    exact hslot ▸ h.live z hz
  case fits =>
    intro y hy
    obtain ⟨z, hz, -, hbytes⟩ := hsame y hy
    exact hbytes ▸ h.fits z hz
  case total_eq =>
    intro i hi
    rw [hloads]
    exact h.total_eq i hi
  case covered =>
    rw [zero_add] at hcovered
    rw [covered_append, zero_add]
    exact ⟨hcovered.1, hsound, hcovered.2.2⟩

/-- A change of the region that concerns the living in neither slots nor totals keeps the
invariant, as long as readers still see them. -/
theorem congr (h : s.Invariant d limit) (r : Region)
    (hlive : ∀ i, Live { s with region := r } i ↔ s.Live i)
    (htotal : ∀ i, s.Live i → (r.usageAt i d).total = (s.region.usageAt i d).total)
    (hmark : ∀ i, s.Live i → i.val < r.mark) : { s with region := r }.Invariant d limit := by
  -- The ledger stays, so only what is said of the region is translated, slot by slot.
  constructor
  case lt_mark => exact fun i hi => hmark i ((hlive i).1 hi)
  case live => exact fun x hx => (hlive x.slot).2 (h.live x hx)
  case fits => exact h.fits
  case total_eq =>
    intro i hi
    rw [hlive] at hi
    exact (congrArg UInt64.toNat (htotal i hi)).trans (h.total_eq i hi)
  case covered => exact h.covered

/-- A reservation may be taken back. -/
theorem takeBack (h : s.Invariant d limit) {older newer : List Reservation} {x : Reservation}
    (hs : s.reservations = older ++ x :: newer) :
    { s with
      region := s.region.modifySlot x.slot (·.removeUsage d x.kind x.bytes)
      reservations := older ++ newer }.Invariant d limit := by
  have hsub : (older ++ newer).Sublist s.reservations := by
    rw [hs]
    exact (List.sublist_cons_self x newer).append_left older
  have hx : x ∈ s.reservations := by
    rw [hs]
    exact List.mem_append_right _ List.mem_cons_self
  have hpid : ∀ i, ((s.region.modifySlot x.slot (·.removeUsage d x.kind x.bytes)).slotAt i).pid =
      (s.region.slotAt i).pid :=
    fun i => s.region.pid_modifySlot x.slot i fun _ => rfl
  have hloads : loads s.reservations = loads (older ++ newer) + x.load := by
    rw [hs, loads_append, loads_append, loads_cons, add_assoc, add_comm x.load]
  constructor
  case lt_mark =>
    intro i hi
    rw [Live, hpid] at hi
    rw [Region.mark_modifySlot]
    exact h.lt_mark i hi
  case live =>
    intro y hy
    rw [Live, hpid]
    exact h.live y (hsub.subset hy)
  case fits => exact fun y hy => h.fits y (hsub.subset hy)
  case total_eq =>
    intro i hi
    rw [Live, hpid] at hi
    have htotal := h.total_eq i hi
    rw [hloads, Pi.add_apply, Reservation.load] at htotal
    by_cases hix : i = x.slot
    · subst hix
      rw [Pi.single_eq_same] at htotal
      -- The reservation is charged, so that taking it back does not wrap around.
      have hle : x.bytes ≤ (s.region.usageAt x.slot d).total := by
        rw [UInt64.le_iff_toNat_le]
        omega
      rw [Region.total_removeUsage, UInt64.toNat_sub_of_le _ _ hle, htotal]
      exact Nat.add_sub_cancel _ _
    · rw [Pi.single_eq_of_ne hix, add_zero] at htotal
      show ((s.region.modifySlot x.slot _).usageAt i d).total.toNat = _
      rw [Region.usageAt_modifySlot_of_ne _ hix, htotal]
  case covered => exact h.covered.sublist hsub

/-- A process whose reservations are all granted may charge another request. -/
theorem charge (h : s.Invariant d limit) {i : Fin maxProcesses} (bytes : UInt64) (kind : UsageKind)
    (hlive : s.Live i) (hidle : ∀ x ∈ s.reservations, x.slot = i → x.stage = .granted)
    (hfit : limit.toNat + bytes.toNat < 2 ^ 64) :
    { s with
      region := s.region.modifySlot i (·.addUsage d kind bytes)
      reservations := s.reservations ++ [(⟨i, bytes, kind, .charged⟩ : Reservation)]
      }.Invariant d limit := by
  have hpid : ∀ j, ((s.region.modifySlot i (·.addUsage d kind bytes)).slotAt j).pid =
      (s.region.slotAt j).pid :=
    fun j => s.region.pid_modifySlot i j fun _ => rfl
  -- What the process holds is granted and so within the limit; hence the charge does not wrap.
  have hload : loads s.reservations i ≤ limit.toNat := by
    rw [← loads_filter fun x hx hxi => decide_eq_true (hidle x hx hxi)]
    exact (loads_le_sum _ i).trans h.covered.granted_le
  constructor
  case lt_mark =>
    intro j hj
    rw [Live, hpid] at hj
    rw [Region.mark_modifySlot]
    exact h.lt_mark j hj
  case live =>
    intro y hy
    rw [Live, hpid]
    rw [List.mem_append, List.mem_singleton] at hy
    rcases hy with hy | rfl
    · exact h.live y hy
    · exact hlive
  case fits =>
    intro y hy
    rw [List.mem_append, List.mem_singleton] at hy
    rcases hy with hy | rfl
    · exact h.fits y hy
    · exact hfit
  case total_eq =>
    intro j hj
    rw [Live, hpid] at hj
    have htotal := h.total_eq j hj
    rw [loads_append, loads_cons, loads_nil, add_zero, Pi.add_apply, Reservation.load]
    by_cases hji : j = i
    · subst hji
      rw [Region.total_addUsage, UInt64.toNat_add, Pi.single_eq_same, htotal,
        Nat.mod_eq_of_lt (by omega)]
    · rw [Pi.single_eq_of_ne hji, add_zero]
      show ((s.region.modifySlot i _).usageAt j d).total.toNat = _
      rw [Region.usageAt_modifySlot_of_ne _ hji, htotal]
  case covered =>
    rw [covered_append]
    exact ⟨h.covered, trivial, trivial⟩

/-- A process that dies takes its reservations with it; its charges stay in its slot. -/
theorem die (h : s.Invariant d limit) (pid : Pid) :
    { s with
      alive := fun p => p != pid && s.alive p
      reservations := s.reservations.filter fun x =>
        (s.region.slotAt x.slot).pid ≠ pid }.Invariant d limit := by
  -- Whoever is alive afterwards was alive before and is not the one that died.
  have hsurvivor : ∀ i, (s.region.slotAt i).pid ≠ 0 ∧
      ((s.region.slotAt i).pid != pid && s.alive (s.region.slotAt i).pid) = true →
      s.Live i ∧ (s.region.slotAt i).pid ≠ pid := by
    intro i hi
    rw [Bool.and_eq_true, bne_iff_ne] at hi
    exact ⟨⟨hi.1, hi.2.2⟩, hi.2.1⟩
  constructor
  case lt_mark => exact fun i hi => h.lt_mark i (hsurvivor i hi).1
  case live =>
    intro x hx
    rw [List.mem_filter, decide_eq_true_iff] at hx
    have hlive := h.live x hx.1
    exact ⟨hlive.1, by simp [hx.2, hlive.2]⟩
  case fits => exact fun x hx => h.fits x (List.mem_of_mem_filter hx)
  case total_eq =>
    intro i hi
    obtain ⟨hlive, hne⟩ := hsurvivor i hi
    refine (h.total_eq i hlive).trans (loads_filter fun x _ hx => ?_).symm
    rw [hx, decide_eq_true_iff]
    exact hne
  case covered => exact h.covered.sublist List.filter_sublist

/-- The slots of the living are not cleared. -/
theorem clear (h : s.Invariant d limit) {i : Fin maxProcesses} {me : Pid}
    (hdead : Region.isDeadSlot me s.alive (s.region.slotAt i) = true) :
    { s with region := s.region.modifySlot i (·.clear) }.Invariant d limit := by
  -- The owner of the slot is dead.
  have hne : ∀ j, s.Live j → j ≠ i := by
    rintro j ⟨-, halive⟩ rfl
    rw [((Region.isDeadSlot_iff me s.alive).1 hdead).2.2] at halive
    cases halive
  refine h.congr _ (fun j => ?_) (fun j hj => ?_) (fun j hj => ?_)
  · have hslot := s.region.slotAt_modifySlot i j (·.clear)
    rw [Live, Live, hslot]
    by_cases hji : j = i
    · rw [if_pos hji]
      exact ⟨fun hj => absurd rfl hj.1, fun hj => absurd hji (hne j hj)⟩
    · rw [if_neg hji]
  · rw [Region.usageAt_modifySlot_of_ne _ (hne j hj)]
  · rw [Region.mark_modifySlot]
    exact h.lt_mark j hj

/-- The mark is not lowered below a slot in use. -/
theorem trim (h : s.Invariant d limit) : { s with region := s.region.trim }.Invariant d limit :=
  h.congr s.region.trim (fun _ => Iff.rfl) (fun _ _ => rfl) fun i hi =>
    Region.lt_mark_trim hi.1 (h.lt_mark i hi)

/-- The load of a reservation and of all older ones. -/
private theorem loads_upTo (older : List Reservation) (x : Reservation) :
    loads older + x.load = loads (older ++ [x]) := by
  rw [loads_append, loads_cons, loads_nil, add_zero]

/-- A reservation and all older ones are reservations of the contest. -/
private theorem mem_of_mem_upTo {older newer : List Reservation} {x y : Reservation}
    (hs : s.reservations = older ++ x :: newer) (hy : y ∈ older ++ [x]) : y ∈ s.reservations := by
  rw [hs]
  exact ((List.singleton_sublist.2 List.mem_cons_self).append_left older).subset hy

/-- What has been read by a reservation covers it and the ones before it. -/
private theorem sound (h : s.Invariant d limit) {older newer : List Reservation} {x : Reservation}
    (hs : s.reservations = older ++ x :: newer) : x.Sound limit (loads older + x.load) := by
  have hcovered := h.covered
  rw [hs, covered_append, zero_add] at hcovered
  exact hcovered.2.1

/-- A reservation that begins to read has read nothing yet. -/
theorem begin (h : s.Invariant d limit) {older newer : List Reservation} {x : Reservation}
    (hs : s.reservations = older ++ x :: newer) :
    { s with
      reservations := older ++ { x with stage := .reading s.region.mark 0 {} } :: newer
      }.Invariant d limit := by
  refine h.restage hs _ ⟨fun i hi => ?_, ?_⟩
  · -- Whoever has reserved is alive, and the living are below the mark.
    rw [loads_upTo]
    refine loads_eq_zero ?_
    rintro y hy rfl
    have hlt := h.lt_mark y.slot (h.live y (mem_of_mem_upTo hs hy))
    omega
  · rw [loadBelow_zero]
    exact Nat.zero_le _

/-- What a reservation has read covers one more slot after reading it. -/
theorem read (h : s.Invariant d limit) {older newer : List Reservation} {x : Reservation}
    {mark : Nat} {i : Fin maxProcesses} {sum : UsageSum} (hs : s.reservations = older ++ x :: newer)
    (hx : x.stage = .reading mark i sum) :
    { s with
      reservations := older ++
        { x with stage := .reading mark (i + 1) (s.region.readSlot d i sum) } :: newer
      }.Invariant d limit := by
  have hsound := h.sound hs
  rw [Reservation.Sound, hx] at hsound
  refine h.restage hs _ ⟨hsound.1, ?_⟩
  have hsum := hsound.2
  rw [loadBelow_succ]
  generalize loadBelow (loads older + x.load) i = below at hsum ⊢
  -- Newer reservations only add to what is read.
  have hslot : (loads older + x.load) i ≤ loads s.reservations i := by
    rw [hs, loads_append, loads_cons, ← add_assoc]
    exact Nat.le_add_right _ _
  -- The living are charged their reservations, and nobody else has any.
  have htotal : (loads older + x.load) i ≤
      if (s.region.slotAt i).isFree then 0 else (s.region.usageAt i d).total.toNat := by
    by_cases hlive : s.Live i
    · rw [if_neg fun hfree => hlive.1 (Slot.isFree_iff.1 hfree), h.total_eq i hlive]
      exact hslot
    · have hnone : loads s.reservations i = 0 := by
        refine loads_eq_zero ?_
        rintro y hy rfl
        exact hlive (h.live y hy)
      omega
  -- The sum saturates, which is why it only covers the load up to the largest word.
  show min (below + _) wordMax ≤ (s.region.readSlot d i sum).bytes.toNat
  unfold Region.readSlot
  split at htotal
  next hfree =>
    rw [if_pos hfree]
    omega
  next hfree =>
    rw [if_neg hfree]
    show _ ≤ (satAdd sum.bytes (s.region.usageAt i d).total).toNat
    rw [toNat_satAdd]
    omega

/-- A sum within the limit that covers all older reservations leaves all of them within it. -/
theorem grant (h : s.Invariant d limit) {older newer : List Reservation} {x : Reservation}
    {mark : Nat} {sum : UsageSum} (hs : s.reservations = older ++ x :: newer)
    (hx : x.stage = .reading mark mark sum) (hsum : sum.bytes ≤ limit) :
    { s with reservations := older ++ { x with stage := .granted } :: newer
      }.Invariant d limit := by
  have hsound := h.sound hs
  rw [Reservation.Sound, hx] at hsound
  refine h.restage hs _ ?_
  show ∑ i, (loads older + x.load) i ≤ limit.toNat
  -- Beyond the mark there is no load, so the sum read up to the mark covers all of it.
  have hsum := UInt64.le_iff_toNat_le.1 hsum
  rw [← loadBelow_eq_sum _ hsound.1]
  have hcover := hsound.2
  by_cases hmax : limit.toNat < wordMax
  · omega
  · -- Beside the largest limit there is room for empty requests only.
    have hempty : ∑ i, (loads older + x.load) i = 0 := by
      rw [loads_upTo, sum_loads]
      refine List.sum_eq_zero fun n hn => ?_
      obtain ⟨y, hy, rfl⟩ := List.mem_map.1 hn
      have hfits := h.fits y (mem_of_mem_upTo hs hy)
      have hword : wordMax = 2 ^ 64 - 1 := rfl
      omega
    rw [loadBelow_eq_sum _ hsound.1, hempty]
    exact Nat.zero_le _

end Invariant

/-- Every step keeps the invariant. -/
theorem Step.invariant (hlimit : limit ≠ 0) (hstep : Step d limit s s')
    (h : s.Invariant d limit) : s'.Invariant d limit := by
  -- One case for each step; taking back and freeing are the same for the region.
  cases hstep with
  | charge i bytes kind hlive hidle hfit => exact h.charge bytes kind hlive hidle hfit
  | grantUnlimited older newer x hs hx hzero => exact absurd hzero hlimit
  | begin older newer x hs hx _ => exact h.begin hs
  | read older newer x mark i sum hs hx hi => exact h.read hs hx
  | grant older newer x mark sum hs hx hsum => exact h.grant hs hx hsum
  | rollBack older newer x mark sum hs hx hsum => exact h.takeBack hs
  | free older newer x hs hx => exact h.takeBack hs
  | die pid => exact h.die pid
  | clear i me hdead => exact h.clear hdead
  | trim => exact h.trim
  | elsewhere r hpid htotal hmark =>
    refine h.congr r (fun i => ?_) (fun i _ => htotal i) fun i hi => hmark ▸ h.lt_mark i hi
    rw [Live, Live, hpid]

/-- The invariant holds in every reachable state. -/
theorem Reachable.invariant (hlimit : limit ≠ 0) (h : Reachable d limit s) :
    s.Invariant d limit := by
  obtain ⟨start, hstart, hsteps⟩ := h
  induction hsteps with
  | refl => exact hstart.invariant
  | tail _ hstep ih => exact hstep.invariant hlimit ih

/-- In every reachable state the living processes have been granted no more than the limit. -/
theorem granted_le_limit (hlimit : limit ≠ 0) (h : Reachable d limit s) :
    s.granted ≤ limit.toNat :=
  (h.invariant hlimit).covered.granted_le

/-! ## A race -/

/-- Where nobody is registered, a contest may start. -/
theorem start_setUp (d : DeviceIndex) (settings : Settings) (now : UInt64) (alive : Pid → Bool) :
    Start d ⟨Region.zero.setUp settings now, alive, []⟩ where
  consistent := Population.consistent_setUp settings now
  total_eq_zero i hi := by
    refine absurd ?_ hi.1
    show ((Region.zero.setUp settings now).slotAt i).pid = 0
    rw [Population.slotAt_setUp]
    rfl
  reservations_eq_nil := rfl

/-- A process that registers first may take part in it. -/
theorem Start.register (h : Start d s) (me : Pid) {pid : Pid} (hpid : pid ≠ 0)
    (halive : s.alive pid) :
    Start d { s with region := (s.region.register me s.alive pid).2 } where
  consistent := h.consistent.register me s.alive hpid
  total_eq_zero j hj := by
    show ((s.region.register me s.alive pid).2.usageAt j d).total = 0
    -- Either the process found no slot and no slot has changed, or it has a new one.
    obtain ⟨-, -, hslot⟩ | ⟨i, -, he⟩ := h.consistent.register_cases hpid (.inr halive)
    · rw [Live, hslot] at hj
      rw [Region.usageAt, hslot]
      exact h.total_eq_zero j hj
    · -- The new slot starts without any charge.
      by_cases hji : j = i
      · rw [hji, Region.usageAt, he.device_eq]
        rfl
      · -- Whoever is alive has kept the slot as it was.
        have hother := he.others j hji
        split at hother
        next => exact absurd (congrArg Slot.pid hother) hj.1
        next =>
          rw [Live, hother] at hj
          rw [Region.usageAt, hother]
          exact h.total_eq_zero j hj
  reservations_eq_nil := h.reservations_eq_nil

/-- The slot of the first of two processes. -/
def one : Fin maxProcesses := ⟨0, by decide⟩

/-- The slot of the second one. -/
def other : Fin maxProcesses := ⟨1, by decide⟩

/-- Two processes are registered. -/
def rivals : Region :=
  let first := ((Region.zero.setUp .standard 0).register 7 (fun _ => true) 7).2
  (first.register 8 (fun _ => true) 8).2

/-- The first one has charged a request. -/
def charged : Region := rivals.modifySlot one (·.addUsage governedDevice .data 60)

/-- Both have charged a request. -/
def contested : Region := charged.modifySlot other (·.addUsage governedDevice .data 60)

/-- The first one has taken its charge back. -/
def yielded : Region := contested.modifySlot one (·.removeUsage governedDevice .data 60)

/-- What is read of the two slots. -/
def readBoth (r : Region) : UsageSum :=
  r.readSlot governedDevice other (r.readSlot governedDevice one {})

/-- They may begin to contend. -/
theorem start_rivals : Start governedDevice ⟨rivals, fun _ => true, []⟩ := by
  have hnone := start_setUp governedDevice .standard 0 fun _ => true
  have hfirst := hnone.register 7 (show (7 : Pid) ≠ 0 by decide) rfl
  exact hfirst.register 8 (show (8 : Pid) ≠ 0 by decide) rfl

/-- Two processes race for a limit that only one of their requests fits in. Both charge, then the
first one sums up both charges and rolls back while the second one is about to read, which does not
see the charge of the first one any more and is granted the request. -/
theorem granted_le_limit_of_race :
    ∃ s t, Reachable governedDevice 100 s ∧ (s.reservations.map (·.bytes)) = [60, 60] ∧
      Relation.ReflTransGen (Step governedDevice 100) s t ∧
      t.granted = 60 ∧ t.granted ≤ (100 : UInt64).toNat := by
  let state (r : Region) (reservations : List Reservation) : Contest :=
    ⟨r, fun _ => true, reservations⟩
  let first (stage : Stage) : Reservation := ⟨one, 60, .data, stage⟩
  let second (stage : Stage) : Reservation := ⟨other, 60, .data, stage⟩
  have hmark : contested.mark = 2 := by decide +kernel
  have hexceeds : ¬ (readBoth contested).bytes ≤ 100 := by decide +kernel
  have hfits : (readBoth yielded).bytes ≤ 100 := by decide +kernel
  -- Whoever looks for the mark finds both processes below it.
  have hlook : ∀ (older newer : List Reservation) (x : Reservation), x.stage = .charged →
      Step governedDevice 100 (state contested (older ++ x :: newer))
        (state contested (older ++ { x with stage := .reading 2 0 {} } :: newer)) := by
    intro older newer x hx
    rw [← hmark]
    exact .begin _ older newer x rfl hx (by decide)
  have hcharge : Step governedDevice 100 (state rivals []) (state charged [first .charged]) :=
    .charge _ one 60 .data ⟨by decide +kernel, rfl⟩ (by simp [state]) (by decide)
  have hcharge' : Step governedDevice 100 (state charged [first .charged])
      (state contested [first .charged, second .charged]) :=
    .charge _ other 60 .data ⟨by decide +kernel, rfl⟩ (by simp [state, first, one, other])
      (by decide)
  have hbegin : Step governedDevice 100 (state contested [first .charged, second .charged])
      (state contested [first (.reading 2 0 {}), second .charged]) :=
    hlook [] [second .charged] (first .charged) rfl
  -- The first one reads its own slot, and then the other one.
  let own := contested.readSlot governedDevice one {}
  have hread : Step governedDevice 100
      (state contested [first (.reading 2 0 {}), second .charged])
      (state contested [first (.reading 2 1 own), second .charged]) :=
    .read _ [] [second .charged] (first _) 2 one {} rfl rfl (by decide)
  have hbegin' : Step governedDevice 100
      (state contested [first (.reading 2 1 own), second .charged])
      (state contested [first (.reading 2 1 own), second (.reading 2 0 {})]) :=
    hlook [first (.reading 2 1 own)] [] (second .charged) rfl
  have hreadBoth : Step governedDevice 100
      (state contested [first (.reading 2 1 own), second (.reading 2 0 {})])
      (state contested [first (.reading 2 2 (readBoth contested)), second (.reading 2 0 {})]) :=
    .read _ [] [second (.reading 2 0 {})] (first _) 2 other own rfl rfl (by decide)
  have hrollBack : Step governedDevice 100
      (state contested [first (.reading 2 2 (readBoth contested)), second (.reading 2 0 {})])
      (state yielded [second (.reading 2 0 {})]) :=
    .rollBack _ [] [second (.reading 2 0 {})] (first _) 2 (readBoth contested) rfl rfl hexceeds
  -- The second one reads only now, when the first charge is gone.
  let left := yielded.readSlot governedDevice one {}
  have hread' : Step governedDevice 100 (state yielded [second (.reading 2 0 {})])
      (state yielded [second (.reading 2 1 left)]) :=
    .read _ [] [] (second _) 2 one {} rfl rfl (by decide)
  have hreadBoth' : Step governedDevice 100 (state yielded [second (.reading 2 1 left)])
      (state yielded [second (.reading 2 2 (readBoth yielded))]) :=
    .read _ [] [] (second _) 2 other left rfl rfl (by decide)
  have hgrant : Step governedDevice 100 (state yielded [second (.reading 2 2 (readBoth yielded))])
      (state yielded [second .granted]) :=
    .grant _ [] [] (second _) 2 (readBoth yielded) rfl rfl hfits
  have hcharged : Relation.ReflTransGen (Step governedDevice 100) (state rivals [])
      (state contested [first .charged, second .charged]) :=
    (Relation.ReflTransGen.single hcharge).tail hcharge'
  have hrace : Relation.ReflTransGen (Step governedDevice 100)
      (state contested [first .charged, second .charged]) (state yielded [second .granted]) :=
    (((((((Relation.ReflTransGen.single hbegin).tail hread).tail hbegin').tail
      hreadBoth).tail hrollBack).tail hread').tail hreadBoth').tail hgrant
  exact ⟨_, _, ⟨_, start_rivals, hcharged⟩, rfl, hrace, rfl,
    granted_le_limit (by decide) ⟨_, start_rivals, hcharged.trans hrace⟩⟩

end Contest

end GpuQuota
