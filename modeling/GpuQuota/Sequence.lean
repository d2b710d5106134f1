/-!
# Sequence counters

The counters of a slot are guarded by a sequence number. A writer makes it odd, changes the
counters and makes it even again; a reader trusts what it read if the number was even and did not
change meanwhile. A number that stays odd belongs to a writer that died: the next writer takes its
place without a step of its own, so that its end makes the number even.

The module introduces `Sequence` with `enter`, `leave` and `write`, and says when a write leaves
the number even (`isWriting_write`).
-/

namespace GpuQuota

/-- The sequence number of a slot. -/
abbrev Sequence := UInt64

namespace Sequence

/-- How often a reader tries before it takes what it sees. -/
def readAttempts : Nat := 100

/-- How often a writer looks before it takes a writer for dead. -/
def writeSpins : Nat := 0x100000

/-- A write is under way, or its writer died. -/
def isWriting (seq : Sequence) : Bool := seq % 2 = 1

/-- The start of a write: an even number becomes odd; an odd number that stays is taken over. -/
def enter (seq : Sequence) : Sequence := if isWriting seq then seq else seq + 1

/-- The end of a write. -/
def leave (seq : Sequence) : Sequence := seq + 1

/-- A whole write. -/
def write (seq : Sequence) : Sequence := leave (enter seq)

theorem isWriting_iff (seq : Sequence) : isWriting seq = true ↔ seq.toNat % 2 = 1 := by
  simp only [isWriting, decide_eq_true_eq, ← UInt64.toNat_inj, UInt64.toNat_mod]
  simp

theorem isWriting_enter (seq : Sequence) : isWriting (enter seq) = true := by
  by_cases h : isWriting seq = true
  · simp [enter, h]
  · have h' := h
    rw [isWriting_iff] at h'
    simp only [enter, h, Bool.false_eq_true, if_false]
    rw [isWriting_iff, UInt64.toNat_add]
    have : (1 : UInt64).toNat = 1 := rfl
    omega

/-- A write leaves an even number, whatever it found. -/
theorem isWriting_write (seq : Sequence) : isWriting (write seq) = false := by
  have h := isWriting_enter seq
  rw [isWriting_iff] at h
  rw [← Bool.not_eq_true, write, leave, isWriting_iff, UInt64.toNat_add]
  have : (1 : UInt64).toNat = 1 := rfl
  omega

end Sequence

end GpuQuota
