import GpuQuota.Proofs.Registry.Attribution

/-!
# The search for the host identity

A look can tell what the host observes of its process only once the host identity of the process is
noted. As long as none is, each look asks for it, which takes a semaphore that others may hold or
may have died with; and a look that hears nothing is skipped, unless it is the last attempt, on
which the own identifier is noted instead. So the search ends, whatever the host tells and whoever
keeps the semaphore.

The module introduces:

* `Watch.settled?` — the host identity that a look notes if none is noted.
* `Watch.identify_of_noted`, `Watch.identify_of_unknown` — what the search does in one look.
* `Vigil`, `Vigil.Steady` — a watcher that looks again and again, whose process stays registered.
* `Vigil.Steady.look_of_found`, `.look_of_settled`, `.look_of_unsettled` — the three kinds of looks.
* `Vigil.Steady.skipped_iff` — which looks are skipped.
* `Vigil.hostPid_settled` — few looks are skipped, and all others leave the right identity.
-/

namespace GpuQuota

/-! ## The search in one look -/

namespace Watch

variable {σ μ : Type} {m : Member} {i : Fin maxProcesses} {w : Watch σ μ}
  {resolve : Pid → Option Pid}

/-- The host identity that is noted in a slot. -/
def hostPidAt (w : Watch σ μ) (i : Fin maxProcesses) : Pid := (w.seat.region.slotAt i).hostPid

/-- The host identity that a look notes if none is noted: the one that it hears of, or the own
identifier if this is the last attempt. -/
def settled? (m : Member) (resolve : Pid → Option Pid) (w : Watch σ μ) : Option Pid :=
  (answer m resolve w).or
    (if w.watcher.failures + 1 < w.watcher.attempts then none else some m.pid)

/-- The decision after asking; without an identity to note the attempt counts as failed. -/
theorem exists_decideHostPid_eq (m : Member) (resolve : Pid → Option Pid) (w : Watch σ μ)
    (seat : Seat) :
    ∃ failures, (settled? m resolve w = none → failures = w.watcher.failures + 1) ∧
      decideHostPid m (answer m resolve w) { w with seat } =
        (settled? m resolve w, { w with seat, watcher := { w.watcher with failures } }) := by
  rw [settled?]
  cases answer m resolve w with
  | some hostPid => exact ⟨w.watcher.failures, nofun, rfl⟩
  | none => exact ⟨w.watcher.failures + 1, fun _ => rfl, rfl⟩

variable [DeviceDriver σ]

/-- A search that has ended is not taken up again. -/
theorem identify_of_ready (hready : w.watcher.ready = true) :
    identify m resolve w = (true, w) := by
  unfold identify
  rw [Run.get_bind_apply, if_pos hready]
  rfl

/-- Otherwise the process looks into its slot. -/
theorem identify_of_unready (howns : w.seat.region.Owns m.pid i)
    (hready : w.watcher.ready = false) :
    identify m resolve w =
      (if w.hostPidAt i = 0 then do
          match ← decideHostPid m (← lookUp m resolve) with
          | none => return false
          | some hostPid =>
            match ← onSeat (m.setHostPid hostPid) with
            | .error _ => return false
            | .ok _ => querySpec
            modifyWatcher fun w => { w with ready := true }
            return true
        else do
          modifyWatcher fun w => { w with ready := true }
          return true : M σ μ Bool)
        { w with seat := { w.seat with remembered := some i.val } } := by
  unfold identify
  rw [Run.get_bind_apply, if_neg (by simp [hready]), Run.state_bind_apply]
  -- Whatever the process remembers, it finds the slot that it owns, and remembers it from now on.
  simp only [onSeat, m.mySlot?_apply, howns.ownSlot?_eq]
  rw [Run.get_bind_apply, Option.bind_some, Region.slot?_eq_some_slotAt]
  rfl

/-- Where a host identity is noted, the search ends with it. -/
theorem identify_of_noted (m : Member) (resolve : Pid → Option Pid)
    (howns : w.seat.region.Owns m.pid i) (hnoted : w.hostPidAt i ≠ 0) :
    ∃ w', identify m resolve w = (true, w') ∧ w'.hostPidAt i = w.hostPidAt i := by
  cases hready : w.watcher.ready with
  | true => exact ⟨w, identify_of_ready hready, rfl⟩
  | false =>
    rw [identify_of_unready howns hready, if_neg hnoted]
    exact ⟨_, rfl, rfl⟩

/-- Where none is noted, the one that is settled on is noted, and without one the attempt counts as
failed. -/
theorem identify_of_unknown (m : Member) (resolve : Pid → Option Pid)
    (howns : w.seat.region.Owns m.pid i) (hready : w.watcher.ready = false)
    (hunknown : w.hostPidAt i = 0) :
    match settled? m resolve w with
    | some hostPid => ∃ w', identify m resolve w = (true, w') ∧ w'.hostPidAt i = hostPid
    | none => ∃ w', identify m resolve w = (false, w') ∧
        w'.watcher = { w.watcher with failures := w.watcher.failures + 1 } := by
  -- The semaphore is passed with the slot remembered, which changes no slot.
  let seat := (m.passPostinit { w.seat with remembered := some i.val }).2
  have howns' : seat.region.Owns m.pid i := by
    obtain ⟨postinit, expired, hseat⟩ :=
      m.passPostinit_apply { w.seat with remembered := some i.val }
    simp only [seat, hseat]
    exact howns.setPostinit postinit
  have hanswer : answer m resolve { w with seat := { w.seat with remembered := some i.val } } =
      answer m resolve w := rfl
  obtain ⟨failures, hfailures, hdecide⟩ := exists_decideHostPid_eq m resolve w seat
  rw [identify_of_unready howns hready, if_pos hunknown, Run.state_bind_apply, lookUp_apply,
    Run.state_bind_apply, hanswer, hdecide]
  cases hsettled : settled? m resolve w with
  | some hostPid =>
    dsimp only
    rw [Run.state_bind_apply, onSeat, Member.setHostPid_of_owns m howns']
    refine ⟨_, rfl, ?_⟩
    show ((seat.region.modifySlot i (·.setHostPid hostPid)).slotAt i).hostPid = hostPid
    rw [Region.slotAt_modifySlot, if_pos rfl]
    rfl
  | none =>
    refine ⟨_, rfl, ?_⟩
    rw [hfailures hsettled]

/-! ## One look -/

section

variable [Management μ] {count : Nat} {host : μ}

omit [DeviceDriver σ] in
/-- A round at the devices that the host answers is no skipped one, and changes no owner. -/
theorem adjust_of_count (m : Member) (w : Watch σ μ)
    (hcount : Management.deviceCount w.host = (.ok count, host)) :
    (adjust m w).1.skipped = false ∧ w.seat.region.SameOwners (adjust m w).2.seat.region := by
  obtain ⟨before, after, hregion, -⟩ := adjust_apply m hcount
  -- The measurements are reset first, under the lock, and then noted slot by slot.
  have hreset : w.seat.region.SameOwners { w.seat.region.resetObserved with lock := before } :=
    w.seat.region.sameOwners_resetObserved.trans (Region.sameOwners_setLock _ before)
  have hobserved := keeps_observeAll (Region.outlastsObserving_sameOwners w.seat.region)
    w.watcher.map count host hreset
  have hrun := observe_apply (w := { w with seat := (m.resetObserved w.seat).2 }) m hcount
  refine ⟨?_, ?_⟩
  · unfold adjust
    rw [Run.state_bind_apply, Run.state_bind_apply]
    change observe m (onSeat m.resetObserved w).2 = _ at hrun
    rw [hrun]
    rfl
  · rw [hregion]
    exact hobserved.trans (Region.sameOwners_setLock _ after)

/-- A look that knows the host identity is not skipped if the host answers, and leaves the identity
as it is. -/
theorem look_of_identified {w' : Watch σ μ}
    (hcount : Management.deviceCount w.host = (.ok count, host))
    (h : identify m resolve w = (true, w')) :
    (look m resolve w).1.skipped = false ∧ (look m resolve w).2.hostPidAt i = w'.hostPidAt i := by
  have hhost : w'.host = w.host := by
    have houtside := keeps_outside_identify m resolve w.watcher.map w.host w ⟨rfl, rfl⟩
    rw [h] at houtside
    exact houtside.2
  -- Asking for the size of the device concerns neither the seat nor the host.
  let w'' := if w'.limiter.hasSpec then w' else (querySpec w').2
  have hseat : w''.seat = w'.seat ∧ w''.host = w.host := by
    simp only [w'']
    split
    next => exact ⟨rfl, hhost⟩
    next => exact ⟨rfl, hhost⟩
  have hlook : look m resolve w = adjust m w'' := by
    rw [look_apply, h]
  rw [← hseat.2] at hcount
  obtain ⟨hskipped, hsame⟩ := adjust_of_count m w'' hcount
  rw [hlook]
  refine ⟨hskipped, ?_⟩
  rw [hostPidAt, hsame.hostPid_eq, hseat.1, hostPidAt]

/-- A look that does not know it is skipped, and ends there. -/
theorem look_of_unidentified {w' : Watch σ μ} (h : identify m resolve w = (false, w')) :
    look m resolve w = (Report.none, w') := by
  rw [look_apply, h]

/-- No look takes a slot from its owner. -/
theorem owns_look {pid : Pid} (h : w.seat.region.Owns pid i) :
    (look m resolve w).2.seat.region.Owns pid i := by
  have hunmoved := (bearable_unmoved m w.seat.region).look (σ := σ) (μ := μ) resolve w (.refl _)
  have hmark : (look m resolve w).2.seat.region.mark = w.seat.region.mark := by
    rw [Region.mark, Region.mark, hunmoved.highWater_eq]
  exact h.congr hunmoved.pid_eq hmark

end

end Watch

/-! ## Looking again and again -/

/-- A watcher that looks again and again. -/
structure Vigil (σ μ : Type) where
  /-- The process. -/
  pid : Pid
  /-- Its settings. -/
  settings : Settings
  /-- The slot that it owns. -/
  slot : Fin maxProcesses
  /-- The state in which a look begins. -/
  before : ℕ → Watch σ μ
  /-- Which processes are taken for alive during a look. -/
  alive : ℕ → Pid → Bool
  /-- The host identities that the host would tell during a look. -/
  resolve : ℕ → Pid → Option Pid

namespace Vigil

variable {σ μ : Type}

/-- The process during a look. -/
def member (v : Vigil σ μ) (k : ℕ) : Member := ⟨v.pid, v.settings, v.alive k⟩

/-- The attempts that the watcher has. -/
def attempts (v : Vigil σ μ) : ℕ := (v.before 0).watcher.attempts

/-- The host identity that a look finds noted. -/
def found (v : Vigil σ μ) (k : ℕ) : Pid := (v.before k).hostPidAt v.slot

/-- What a look hears if it asks for the host identity. -/
def answer (v : Vigil σ μ) (k : ℕ) : Option Pid := (v.before k).answer (v.member k) (v.resolve k)

/-- The host identity that a look notes if no look has found or noted one so far. -/
def settled? (v : Vigil σ μ) (k : ℕ) : Option Pid :=
  (v.answer k).or (if k + 1 < v.attempts then none else some v.pid)

/-- All that has come of the looks so far are failed attempts. -/
structure Searching (v : Vigil σ μ) (k : ℕ) : Prop where
  ready_eq : (v.before k).watcher.ready = false
  failures_eq : (v.before k).watcher.failures = k
  attempts_eq : (v.before k).watcher.attempts = v.attempts

theorem Searching.settled?_eq {v : Vigil σ μ} {k : ℕ} (h : v.Searching k) :
    (v.before k).settled? (v.member k) (v.resolve k) = v.settled? k := by
  rw [Watch.settled?, h.failures_eq, h.attempts_eq]
  rfl

variable [DeviceDriver σ] [Management μ]

/-- One look. -/
def look (v : Vigil σ μ) (k : ℕ) : Report × Watch σ μ :=
  (v.before k).look (v.member k) (v.resolve k)

/-- The look observes nothing. -/
def skipped (v : Vigil σ μ) (k : ℕ) : Bool := (v.look k).1.skipped

/-- The host identity that is noted after a look. -/
def left (v : Vigil σ μ) (k : ℕ) : Pid := (v.look k).2.hostPidAt v.slot

/-- A new watcher, which nobody else touches, looks again and again, and its process stays
registered. Between the looks anything may happen to the region, as long as the process keeps its
slot and nobody forgets its host identity; and anything to the limiter, the driver and the host, as
long as the host answers. -/
structure Steady (v : Vigil σ μ) : Prop where
  ready_eq : (v.before 0).watcher.ready = false
  failures_eq : (v.before 0).watcher.failures = 0
  watcher_eq : ∀ k, (v.before (k + 1)).watcher = (v.look k).2.watcher
  owns : ∀ k, (v.before k).seat.region.Owns v.pid v.slot
  found_ne_zero : ∀ k, v.left k ≠ 0 → v.found (k + 1) ≠ 0
  resolve_ne_zero : ∀ k, v.resolve k v.pid ≠ some 0
  observable : ∀ k, ∃ count host, Management.deviceCount (v.before k).host = (.ok count, host)

/-! ### Watchers that are left to themselves -/

/-- A watcher that looks again and again, while nobody else does anything. -/
def alone (m : Member) (slot : Fin maxProcesses) (resolve : Pid → Option Pid) (w : Watch σ μ) :
    Vigil σ μ where
  pid := m.pid
  settings := m.settings
  slot
  before k := (fun w => (w.look m resolve).2)^[k] w
  alive _ := m.alive
  resolve _ := resolve

theorem before_alone_succ (m : Member) (slot : Fin maxProcesses) (resolve : Pid → Option Pid)
    (w : Watch σ μ) (k : ℕ) :
    (alone m slot resolve w).before (k + 1) = ((alone m slot resolve w).look k).2 :=
  Function.iterate_succ_apply' ..

theorem steady_alone {m : Member} {slot : Fin maxProcesses} {resolve : Pid → Option Pid}
    {w : Watch σ μ} (hready : w.watcher.ready = false) (hfailures : w.watcher.failures = 0)
    (howns : w.seat.region.Owns m.pid slot) (hresolve : resolve m.pid ≠ some 0)
    (hobservable : ∀ host : μ, ∃ count host', Management.deviceCount host = (.ok count, host')) :
    (alone m slot resolve w).Steady where
  ready_eq := hready
  failures_eq := hfailures
  watcher_eq k := congrArg (·.watcher) (before_alone_succ m slot resolve w k)
  owns k := by
    -- Whoever is alone with the region owns its slot from look to look.
    induction k with
    | zero => exact howns
    | succ k ih =>
      rw [before_alone_succ]
      exact Watch.owns_look ih
  found_ne_zero k hleft := by
    rw [found, before_alone_succ]
    exact hleft
  resolve_ne_zero _ := hresolve
  observable _ := hobservable _

namespace Steady

variable {v : Vigil σ μ} {k : ℕ} (h : v.Steady)

include h

/-- What a look settles on is a host identity. -/
theorem settled?_ne_zero : v.settled? k ≠ some 0 := by
  intro hzero
  rw [settled?, Option.or_eq_some_iff] at hzero
  -- An answer is never zero, and the own identifier that is left at the end is not either.
  rcases hzero with hanswer | ⟨-, hlast⟩
  · unfold answer Watch.answer at hanswer
    split at hanswer
    next => exact h.resolve_ne_zero k hanswer
    next => cases hanswer
  · split at hlast
    next => cases hlast
    next => exact (h.owns 0).pid_ne_zero (Option.some.inj hlast)

/-! ### The three kinds of looks -/

/-- A look that finds a host identity noted is not skipped and leaves it. -/
theorem look_of_found (hfound : v.found k ≠ 0) : v.skipped k = false ∧ v.left k = v.found k := by
  obtain ⟨count, host, hcount⟩ := h.observable k
  obtain ⟨w', hidentify, hleft⟩ :=
    Watch.identify_of_noted (v.member k) (v.resolve k) (h.owns k) hfound
  obtain ⟨hskipped, hsame⟩ := Watch.look_of_identified hcount hidentify
  exact ⟨hskipped, hsame.trans hleft⟩

/-- A look that settles on a host identity is not skipped and notes it. -/
theorem look_of_settled (hsearching : v.Searching k) (hfound : v.found k = 0) {hostPid : Pid}
    (hsettled : v.settled? k = some hostPid) : v.skipped k = false ∧ v.left k = hostPid := by
  obtain ⟨count, host, hcount⟩ := h.observable k
  have hidentify := Watch.identify_of_unknown (v.member k) (v.resolve k) (h.owns k)
    hsearching.ready_eq hfound
  rw [hsearching.settled?_eq, hsettled] at hidentify
  obtain ⟨w', hidentify, hleft⟩ := hidentify
  obtain ⟨hskipped, hsame⟩ := Watch.look_of_identified hcount hidentify
  exact ⟨hskipped, hsame.trans hleft⟩

/-- A look that settles on none is skipped, and the search goes on. -/
theorem look_of_unsettled (hsearching : v.Searching k) (hfound : v.found k = 0)
    (hsettled : v.settled? k = none) : v.skipped k = true ∧ v.Searching (k + 1) := by
  have hidentify := Watch.identify_of_unknown (v.member k) (v.resolve k) (h.owns k)
    hsearching.ready_eq hfound
  rw [hsearching.settled?_eq, hsettled] at hidentify
  obtain ⟨w', hidentify, hwatcher⟩ := hidentify
  have hlook : v.look k = (Report.none, w') := Watch.look_of_unidentified hidentify
  -- The next look begins with the watcher as this one leaves it, one failure later.
  have hnext : (v.before (k + 1)).watcher =
      { (v.before k).watcher with failures := (v.before k).watcher.failures + 1 } := by
    rw [h.watcher_eq, hlook, hwatcher]
  refine ⟨?_, ?_, ?_, ?_⟩
  · rw [skipped, hlook]
    rfl
  · rw [hnext]
    exact hsearching.ready_eq
  · rw [hnext, hsearching.failures_eq]
  · rw [hnext]
    exact hsearching.attempts_eq

/-! ### All looks -/

/-- Where no host identity is noted, the look before found and left none. -/
theorem unnoted_of_succ (hfound : v.found (k + 1) = 0) : v.found k = 0 ∧ v.left k = 0 := by
  have hleft : v.left k = 0 := by
    by_contra hne
    exact h.found_ne_zero k hne hfound
  refine ⟨?_, hleft⟩
  by_contra hne
  rw [(h.look_of_found hne).2] at hleft
  exact hne hleft

/-- As long as no host identity is noted, the search goes on. -/
theorem searching (hfound : v.found k = 0) : v.Searching k := by
  induction k with
  | zero => exact ⟨h.ready_eq, h.failures_eq, rfl⟩
  | succ k ih =>
    obtain ⟨hbefore, hleft⟩ := h.unnoted_of_succ hfound
    cases hsettled : v.settled? k with
    | none => exact (h.look_of_unsettled (ih hbefore) hbefore hsettled).2
    | some hostPid =>
      -- Whatever is settled on would have been left noted.
      obtain ⟨-, hnoted⟩ := h.look_of_settled (ih hbefore) hbefore hsettled
      rw [← hnoted, hleft] at hsettled
      exact absurd hsettled h.settled?_ne_zero

/-- The looks that are skipped are those that neither find a host identity nor settle on one. -/
theorem skipped_iff : v.skipped k = true ↔ v.found k = 0 ∧ v.settled? k = none := by
  by_cases hfound : v.found k = 0
  · have hsearching := h.searching hfound
    cases hsettled : v.settled? k with
    | none => simp [hfound, (h.look_of_unsettled hsearching hfound hsettled).1]
    | some hostPid => simp [(h.look_of_settled hsearching hfound hsettled).1]
  · simp [hfound, (h.look_of_found hfound).1]

/-- So a skipped look heard nothing, and left an attempt for the next one. -/
theorem of_skipped (hskipped : v.skipped k = true) : v.answer k = none ∧ k + 1 < v.attempts := by
  obtain ⟨-, hsettled⟩ := h.skipped_iff.1 hskipped
  rw [settled?, Option.or_eq_none_iff] at hsettled
  refine ⟨hsettled.1, ?_⟩
  by_contra hlast
  rw [if_neg hlast] at hsettled
  exact Option.some_ne_none _ hsettled.2

/-- All looks before one that finds no host identity were skipped. -/
theorem skipped_of_lt {j : ℕ} (hfound : v.found k = 0) (hlt : j < k) : v.skipped j = true := by
  induction k with
  | zero => exact absurd hlt (Nat.not_lt_zero j)
  | succ k ih =>
    obtain ⟨hbefore, hleft⟩ := h.unnoted_of_succ hfound
    rcases Nat.lt_succ_iff_lt_or_eq.1 hlt with hlt' | rfl
    · exact ih hbefore hlt'
    · -- If the look just before had settled on an identity, this one would find it.
      by_contra hskipped
      rw [h.skipped_iff, not_and, ← ne_eq, Option.ne_none_iff_exists'] at hskipped
      obtain ⟨hostPid, hsettled⟩ := hskipped hbefore
      obtain ⟨-, hnoted⟩ := h.look_of_settled (h.searching hbefore) hbefore hsettled
      rw [← hnoted, hleft] at hsettled
      exact h.settled?_ne_zero hsettled

/-- One attempt is left for a look that is not skipped. -/
theorem countP_skipped_le (k : ℕ) : (List.range k).countP v.skipped ≤ max v.attempts 1 - 1 := by
  -- The skipped looks are among the first ones, of which there are no more than that.
  have hsub : ((List.range k).filter v.skipped).toFinset ⊆ Finset.range (v.attempts - 1) := by
    intro j hj
    rw [List.mem_toFinset, List.mem_filter] at hj
    have hlast := (h.of_skipped hj.2).2
    rw [Finset.mem_range]
    omega
  have hcard := Finset.card_le_card hsub
  rw [List.toFinset_card_of_nodup (List.nodup_range.filter _), Finset.card_range] at hcard
  rw [List.countP_eq_length_filter]
  omega

/-- A look that finds no host identity and is not skipped notes the first one that the host told; or
all attempts are spent without an answer, and it notes the own identifier. -/
theorem left_of_unskipped (hfound : v.found k = 0) (hskipped : v.skipped k = false) :
    v.left k ≠ 0 ∧
      ((List.range (k + 1)).findSome? v.answer = some (v.left k) ∨
        (∀ j ≤ k, v.answer j = none) ∧ k + 1 = max v.attempts 1 ∧ v.left k = v.pid) := by
  have hearlier (j : ℕ) (hj : j < k) : v.answer j = none ∧ j + 1 < v.attempts :=
    h.of_skipped (h.skipped_of_lt hfound hj)
  have hsettles : v.settled? k ≠ none := by
    intro hsettled
    rw [h.skipped_iff.2 ⟨hfound, hsettled⟩] at hskipped
    cases hskipped
  obtain ⟨hostPid, hsettled⟩ := Option.ne_none_iff_exists'.1 hsettles
  obtain ⟨-, rfl⟩ := h.look_of_settled (h.searching hfound) hfound hsettled
  refine ⟨fun hzero => h.settled?_ne_zero (hzero ▸ hsettled), ?_⟩
  rw [settled?, Option.or_eq_some_iff] at hsettled
  rcases hsettled with hanswer | ⟨hanswer, hlast⟩
  · -- The earlier looks heard nothing, so this answer is the first one.
    have hnone : (List.range k).findSome? v.answer = none :=
      List.findSome?_eq_none_iff.2 fun j hj => (hearlier j (List.mem_range.1 hj)).1
    refine .inl ?_
    rw [List.range_succ, List.findSome?_append, hnone, Option.none_or, List.findSome?_singleton,
      hanswer]
  · split at hlast
    next => cases hlast
    next hspent =>
      -- The look before left an attempt for this one, unless there is no look before.
      have hfirst : k = 0 ∨ k < v.attempts := by
        cases k with
        | zero => exact .inl rfl
        | succ k => exact .inr (hearlier k (Nat.lt_succ_self k)).2
      refine .inr ⟨fun j hj => ?_, by omega, (Option.some.inj hlast).symm⟩
      rcases Nat.lt_or_eq_of_le hj with hlt | rfl
      · exact (hearlier j hlt).1
      · exact hanswer

end Steady

/-- Whatever the host tells and whoever keeps the semaphore, a watcher skips fewer looks than it has
attempts. Every other look leaves a host identity noted: the one that it finds, or else the first
one that the host told, or else, with all attempts spent, the own identifier. What is noted once is
left as it is. -/
theorem hostPid_settled {v : Vigil σ μ} (h : v.Steady) (k : ℕ) :
    (List.range k).countP v.skipped ≤ max v.attempts 1 - 1 ∧
    (v.skipped k = false → v.left k ≠ 0 ∧
      (v.found k ≠ 0 ∧ v.left k = v.found k ∨
        v.found k = 0 ∧ (List.range (k + 1)).findSome? v.answer = some (v.left k) ∨
        v.found k = 0 ∧ (∀ j ≤ k, v.answer j = none) ∧ k + 1 = max v.attempts 1 ∧
          v.left k = v.pid)) ∧
    (v.found k ≠ 0 → v.left k = v.found k) := by
  refine ⟨h.countP_skipped_le k, fun hskipped => ?_, fun hfound => (h.look_of_found hfound).2⟩
  -- A slot that has a host identifier keeps it; without one the looks so far decide.
  by_cases hfound : v.found k = 0
  · obtain ⟨hne, hfirst | hspent⟩ := h.left_of_unskipped hfound hskipped
    · exact ⟨hne, .inr (.inl ⟨hfound, hfirst⟩)⟩
    · exact ⟨hne, .inr (.inr ⟨hfound, hspent⟩)⟩
  · obtain ⟨-, hleft⟩ := h.look_of_found hfound
    refine ⟨?_, .inl ⟨hfound, hleft⟩⟩
    rw [hleft]
    exact hfound

/-- A process died with the semaphore. Of three attempts two are skipped, and the third look notes
the own identifier. -/
theorem hostPid_settled_of_leaked :
    ∃ v : Vigil SimulatedDevice SimulatedHost, v.Steady ∧ v.attempts = 3 ∧
      v.skipped 0 = true ∧ v.skipped 1 = true ∧ v.skipped 2 = false ∧
      (∀ k, (List.range k).countP v.skipped ≤ 2) ∧ v.left 2 = v.pid := by
  let all : Pid → Bool := fun _ => true
  let registered := ((Region.zero.setUp .standard 0).register 7 all 7).2
  -- The lock that the search waits for is never given back.
  let region := { registered with postinit := 0 }
  let watcher : Watcher := { map := .identity 1, attempts := 3 }
  let w : Watch SimulatedDevice SimulatedHost :=
    ⟨watcher, ⟨region, none, 0⟩, .startingAt 0, {}, { deviceCount := 1 }⟩
  let v := alone ⟨7, .standard, all⟩ ⟨0, by decide⟩ (fun _ => some 70) w
  have howns : region.Owns 7 ⟨0, by decide⟩ := by
    have hc := (Population.consistent_setUp .standard 0).register 7 all
      (show (7 : Pid) ≠ 0 by decide)
    have hpid : (registered.slotAt ⟨0, by decide⟩).pid = 7 := by decide +kernel
    exact (hpid ▸ hc.owns (by rw [hpid]; decide)).setPostinit 0
  have hsteady : v.Steady :=
    steady_alone rfl rfl howns (by decide) fun host => ⟨host.deviceCount, host, rfl⟩
  have hskipped : v.skipped 2 = false := by decide +kernel
  refine ⟨v, hsteady, rfl, by decide +kernel, by decide +kernel, hskipped,
    fun k => (hostPid_settled hsteady k).1, ?_⟩
  -- Nothing had been found, and nobody answered, so it is the process itself that is noted.
  obtain ⟨-, ⟨hfound, -⟩ | ⟨-, htold⟩ | ⟨-, -, -, hown⟩⟩ := (hostPid_settled hsteady 2).2.1 hskipped
  · exact absurd (show v.found 2 = 0 by decide +kernel) hfound
  · have hnone : (List.range 3).findSome? v.answer = none := by decide +kernel
    rw [hnone] at htold
    cases htold
  · exact hown

end Vigil

end GpuQuota
