import GpuQuota.Proofs.Registry.Reachable

/-!
# Looking slots up

A handle remembers where it last saw its slot, and nobody tells it when others clear that slot,
hand it to another process, or register its own process anew. So it looks whether the slot there is
still its own, and otherwise scans the slots below the high-water mark, which others raise and
lower. In a consistent table the answer does not depend on what is remembered: it is the one slot of
the process in the whole table, if there is one.

The module introduces:

* `Region.Locates` — an answer that names the one slot of a process, or says that it has none.
* `Region.Consistent.locates_ownSlot?` — what a process finds, whatever it remembers.
* `Population.lookup_exact` — what every handle finds in every reachable region.
-/

namespace GpuQuota

namespace Region

/-- An index is the answer exactly if its slot is the one slot of the process in the whole table,
and there is no answer exactly if the process has no slot. -/
structure Locates (r : Region) (pid : Pid) (found : Option Nat) : Prop where
  eq_some_iff : ∀ n, found = some n ↔
    ∃ i : Fin maxProcesses, i.val = n ∧ ∀ j, (r.slotAt j).pid = pid ↔ j = i
  eq_none_iff : found = none ↔ ∀ j, (r.slotAt j).pid ≠ pid

variable {r : Region} {pid : Pid} {i : Fin maxProcesses}

/-- The slot that a process owns is the one to find. -/
theorem Owns.locates (h : r.Owns pid i) : r.Locates pid (some i.val) where
  eq_some_iff n := by
    -- There is one slot with the identifier, so whatever locates it is that one.
    have hone : ∀ j, (r.slotAt j).pid = pid ↔ j = i :=
      fun j => ⟨h.unique j, fun hj => hj ▸ h.pid_eq⟩
    constructor
    · intro hn
      exact ⟨i, Option.some.inj hn, hone⟩
    · rintro ⟨k, rfl, hk⟩
      rw [(hk i).1 h.pid_eq]
  eq_none_iff := iff_of_false (Option.some_ne_none _) fun hnone => hnone i h.pid_eq

theorem locates_none (h : ∀ j, (r.slotAt j).pid ≠ pid) : r.Locates pid none where
  eq_some_iff n := by
    refine iff_of_false (Option.some_ne_none n).symm ?_
    rintro ⟨i, -, hi⟩
    exact h i ((hi i).2 rfl)
  eq_none_iff := iff_of_true rfl h

/-- A process finds its slot in the whole table, whatever it remembers. -/
theorem Consistent.locates_ownSlot? (h : r.Consistent) (hpid : pid ≠ 0)
    (remembered : Option Nat) : r.Locates pid (r.ownSlot? pid remembered) := by
  by_cases hsome : ∃ i, (r.slotAt i).pid = pid
  · obtain ⟨i, rfl⟩ := hsome
    have howns := h.owns hpid
    rw [howns.ownSlot?_eq]
    exact howns.locates
  · -- Neither the slot remembered nor one that is scanned can be its own.
    have hnot : ∀ j, (r.slotAt j).pid ≠ pid := not_exists.1 hsome
    cases hfound : r.ownSlot? pid remembered with
    | none => exact locates_none hnot
    | some n =>
      obtain ⟨i, -, hi⟩ := ownSlot?_eq_some hfound
      exact absurd hi (hnot i)

end Region

namespace Member

variable {s : Seat}

theorem locates_mySlot? (m : Member) (hs : s.region.Consistent) (hme : m.pid ≠ 0) :
    s.region.Locates m.pid (m.mySlot? s).1 := by
  have hown := hs.locates_ownSlot? hme s.remembered
  rw [mySlot?_apply]
  cases hfound : s.region.ownSlot? m.pid s.remembered with
  | none => rwa [hfound] at hown
  | some n => rwa [hfound] at hown

/-- The slots of other processes are found by a scan, that of the member itself as it finds it. -/
theorem locates_slotOf? (m : Member) (hs : s.region.Consistent) {pid : Pid} (hpid : pid ≠ 0) :
    s.region.Locates pid (m.slotOf? pid s).1 := by
  rw [slotOf?_apply, if_neg hpid]
  split
  next hme =>
    subst hme
    exact m.locates_mySlot? hs hpid
  next => exact hs.locates_ownSlot? hpid none

end Member

namespace Population

/-- In every reachable region every handle, whatever it remembers, finds the one slot of its process
in the whole table, and finds none exactly if the process has none; and so it does for every other
process. -/
theorem lookup_exact {p : Population} (hp : p.Reachable) (h : Handle) (alive : Pid → Bool) :
    p.region.Locates h.pid ((h.member alive).mySlot? (h.seat p.region)).1 ∧
    ∀ pid, pid ≠ 0 → p.region.Locates pid ((h.member alive).slotOf? pid (h.seat p.region)).1 := by
  have hc : (h.seat p.region).region.Consistent := hp.consistent
  exact ⟨(h.member alive).locates_mySlot? hc h.pid_ne_zero,
    fun _ hpid => (h.member alive).locates_slotOf? hc hpid⟩

/-- A process registers; another one, which takes it for dead, clears its slot, registers a third
one there, and registers the first one anew. The first one still remembers the slot that it had. -/
theorem lookup_exact_after_reuse :
    ∃ (p : Population) (h : Handle) (i j : Fin maxProcesses), p.Reachable ∧ h ∈ p.handles ∧
      h.remembered = some i.val ∧ (p.region.slotAt i).pid = 9 ∧
      (p.region.slotAt j).pid = h.pid ∧
      ∀ alive, p.region.Locates h.pid ((h.member alive).mySlot? (h.seat p.region)).1 := by
  let first : Handle := { pid := 7, pid_ne_zero := by decide, settings := .standard }
  let second : Handle := { pid := 8, pid_ne_zero := by decide, settings := .standard }
  let others : Pid → Bool := (· != 7)
  let all : Pid → Bool := fun _ => true
  let i : Fin maxProcesses := ⟨0, by decide⟩
  let j : Fin maxProcesses := ⟨1, by decide⟩
  -- The first process registers, is reaped by the second, and a third one takes its slot; then it
  -- registers anew.
  have h₀ := (Reachable.fresh .standard 0).step (.attach _ [] first)
  have h₁ := h₀.step (.operate _ [] [] first all .registerSelf)
  have h₂ := h₁.step (.attach _ _ second)
  have h₃ := h₂.step (.operate _ [] _ second others .clearDead)
  have h₄ := h₃.step (.operate _ [] _ _ others (.register 9 (by decide)))
  have h₅ := h₄.step (.operate _ [] _ _ all (.register 7 (by decide)))
  refine ⟨_, _, i, j, h₅, List.mem_cons_of_mem _ List.mem_cons_self, ?_, ?_, ?_, fun alive => ?_⟩
  · decide +kernel
  · decide +kernel
  · decide +kernel
  · exact (lookup_exact h₅ _ alive).1

end Population

end GpuQuota
