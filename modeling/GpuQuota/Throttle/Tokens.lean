import GpuQuota.Word

/-!
# The token bucket

A launch pays with tokens. It is let in while the balance is not negative, whatever it costs, so
that the balance may fall below zero; credits fill the bucket up to its capacity.

The module introduces `Tokens` with `setTotal`, `doubleTotal`, `change` and `debit?`.
-/

namespace GpuQuota

/-- A bucket of tokens. -/
structure Tokens where
  /-- The balance. -/
  current : Int := 0
  /-- The capacity. -/
  total : Int := 0
  deriving DecidableEq, Repr, Inhabited

namespace Tokens

/-- Sets the capacity; a negative one counts as zero. -/
def setTotal (t : Tokens) (total : Int) : Tokens := { t with total := max total 0 }

/-- Doubles the capacity. -/
def doubleTotal (t : Tokens) : Tokens := { t with total := saturate (t.total * 2) }

/-- Credits or debits the bucket; the balance ends at most at the capacity. -/
def change (t : Tokens) (amount : Int) : Tokens :=
  { t with current := min (saturate (t.current + amount)) t.total }

/-- Pays for a launch, unless the balance is negative. -/
def debit? (t : Tokens) (amount : Int) : Option Tokens :=
  if t.current < 0 then none else some { t with current := saturate (t.current - amount) }

/-- After a change the balance is within the capacity. -/
theorem current_change_le (t : Tokens) (amount : Int) : (t.change amount).current ≤ t.total := by
  simp only [change]; omega

/-- A launch is refused exactly if the balance is negative. -/
theorem debit?_eq_none_iff (t : Tokens) (amount : Int) : t.debit? amount = none ↔ t.current < 0 := by
  simp [debit?]

end Tokens

end GpuQuota
