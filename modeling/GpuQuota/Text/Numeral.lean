/-!
# Numerals

Reading an unsigned or signed numeral in a base of at most sixteen, within a bound. Digits are
read from the left; the first fault decides which error is reported.

The module introduces:

* `digit?` — the value of a digit character.
* `digits` — the value of a run of digits within a bound.
* `natural`, `integer` — numerals with an optional sign.
-/

namespace GpuQuota.Text

/-- Why a numeral is refused. -/
inductive NumeralError
  /-- No digits, or a character that is no digit of the base. -/
  | malformed
  /-- The value passes the bound. -/
  | overflow
  deriving DecidableEq, Repr

/-- The value of a digit character, letters of either case counting from ten. -/
def digit? (base : Nat) (c : Char) : Option Nat :=
  let v :=
    if '0' ≤ c ∧ c ≤ '9' then c.toNat - '0'.toNat
    else if 'a' ≤ c ∧ c ≤ 'z' then c.toNat - 'a'.toNat + 10
    else if 'A' ≤ c ∧ c ≤ 'Z' then c.toNat - 'A'.toNat + 10
    else base
  if v < base then some v else none

/-- Reads digits onto a value read so far. A character that is no digit wins over the overflow
that it would bring. -/
def digitsFrom (base bound : Nat) (acc : Nat) : List Char → Except NumeralError Nat
  | [] => .ok acc
  | c :: cs =>
    match digit? base c with
    | none => .error .malformed
    | some d =>
      if acc * base + d ≤ bound then digitsFrom base bound (acc * base + d) cs
      else .error .overflow

/-- The value of a nonempty run of digits. -/
def digits (base bound : Nat) (cs : List Char) : Except NumeralError Nat :=
  if cs = [] then .error .malformed else digitsFrom base bound 0 cs

/-- The text without one plus sign in front of it. -/
def dropPlus : List Char → List Char
  | '+' :: cs => cs
  | cs => cs

/-- An unsigned numeral: an optional plus sign and digits. -/
def natural (base bound : Nat) (cs : List Char) : Except NumeralError Nat :=
  digits base bound (dropPlus cs)

/-- A signed decimal numeral between two bounds. -/
def integer (low high : Int) (cs : List Char) : Option Int :=
  match cs with
  | '-' :: ds => (digits 10 low.natAbs ds).toOption.map fun n => -(n : Int)
  | ds => (natural 10 high.toNat ds).toOption.map Int.ofNat

/-- Whatever is read lies within the bound. -/
theorem digitsFrom_le {base bound acc n : Nat} {cs : List Char} (h : acc ≤ bound)
    (hn : digitsFrom base bound acc cs = .ok n) : n ≤ bound := by
  induction cs generalizing acc with
  | nil => simp only [digitsFrom, Except.ok.injEq] at hn; omega
  | cons c cs ih =>
    simp only [digitsFrom] at hn
    split at hn
    · simp at hn
    · split at hn
      · exact ih (by assumption) hn
      · simp at hn

/-- Whatever is read lies within the bound. -/
theorem natural_le {base bound n : Nat} {cs : List Char}
    (h : natural base bound cs = .ok n) : n ≤ bound := by
  simp only [natural, digits] at h
  split at h
  · simp at h
  · exact digitsFrom_le (Nat.zero_le _) h

end GpuQuota.Text
