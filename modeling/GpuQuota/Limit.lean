import GpuQuota.Text.Blank
import GpuQuota.Text.Numeral
import GpuQuota.Text.Quoted
import GpuQuota.Word

/-!
# Limit values

A limit is written as a numeral with an optional suffix: `k`, `m` or `g` in either case scale it
by `2^10`, `2^20` or `2^30`. The numeral is hexadecimal after `0x`, octal after a leading zero and
decimal otherwise; blanks around it are ignored.

The module introduces:

* `LimitError` — why a limit value is refused, and its message.
* `Limit.parse` — reads a limit value.
* `Limit.split`, `Limit.numeral` — the suffix with its scale, and the value of the numeral.
-/

namespace GpuQuota

/-- Why a limit value is refused. -/
inductive LimitError
  /-- The text is no limit value. -/
  | invalid (text : String)
  /-- The value does not fit into 64 bits. -/
  | overflow (text : String)
  deriving DecidableEq, Repr

/-- The wording of a refused limit value. -/
def LimitError.message : LimitError → String
  | .invalid text => "invalid limit value " ++ Text.quote text
  | .overflow text => "limit value " ++ Text.quote text ++ " overflows"

namespace Limit

/-- The scale of a suffix character. -/
def scale? (c : Char) : Option Nat :=
  if c = 'k' ∨ c = 'K' then some 0x400
  else if c = 'm' ∨ c = 'M' then some 0x100000
  else if c = 'g' ∨ c = 'G' then some 0x40000000
  else none

/-- The numeral of a trimmed text and the scale of its suffix. -/
def split (cs : List Char) : List Char × Nat :=
  match cs.getLast?.bind scale? with
  | some scale => (cs.dropLast, scale)
  | none => (cs, 1)

/-- The value of an unscaled numeral, its base told by its first characters. -/
def numeral : List Char → Except Text.NumeralError Nat
  | '0' :: 'x' :: cs => Text.natural 16 wordMax cs
  | '0' :: 'X' :: cs => Text.natural 16 wordMax cs
  | '0' :: c :: cs => Text.natural 8 wordMax (c :: cs)
  | cs => Text.natural 10 wordMax cs

/-- The value of a limit text. A value too large for 64 bits, before or after scaling, is an
overflow; anything else that is no limit is invalid. -/
def parse (text : String) : Except LimitError UInt64 :=
  let (number, scale) := split (Text.trim text.toList)
  match numeral number with
  | .ok n =>
    if n * scale ≤ wordMax then .ok (UInt64.ofNat (n * scale)) else .error (.overflow text)
  | .error .overflow => .error (.overflow text)
  | .error .malformed => .error (.invalid text)

end Limit

end GpuQuota
