import GpuQuota.Text.Numeral

/-!
# Well-formed patterns

Regular expressions are only read here, never matched: a filter of log events may hold one, and is
refused if it is malformed. A reader goes through the pattern character by character; what it has
seen so far is a mode and the number of groups that are open.

Counted repetitions and escapes in braces are not read, because a brace ends the place where a
pattern can stand. Word boundaries are refused, since no automaton that goes by single characters
decides them.

The module introduces:

* `Pattern.Mode`, `Pattern.Reader`, `Pattern.Reader.step` — the reader.
* `Pattern.isWellFormed` — whether a text is a pattern.
-/

namespace GpuQuota.Text.Pattern

/-- A set of characters in brackets, as far as it was read. -/
structure CharacterSet where
  /-- The brackets that are open. -/
  depth : Nat
  /-- Nothing was read since the last bracket; a caret may follow. -/
  opened : Bool := true
  /-- No member was read since the last bracket; a closing bracket would be one. -/
  fresh : Bool := true
  /-- The last member, if a range may start there. -/
  low : Option Char := none
  /-- A dash stands behind the last member. -/
  dash : Bool := false
  deriving DecidableEq, Repr

/-- What may follow. -/
inductive Mode
  /-- An expression; it can be repeated if there is an operand before it. -/
  | expression (operand : Bool)
  /-- The character that a backslash stands for, in a set if one is open. -/
  | escaped (set : Option CharacterSet)
  /-- Hexadecimal digits, one more than given. -/
  | digits (more : Nat) (set : Option CharacterSet)
  /-- The letter of a category. -/
  | category (set : Option CharacterSet)
  /-- The start of a group. -/
  | group
  /-- What a group is for, behind its question mark. -/
  | purpose
  /-- The bracket before the name of a group. -/
  | nameBracket
  /-- The name of a group, the first letter of which was read or not. -/
  | name (started : Bool)
  /-- Flags; a sign must be followed by one. -/
  | flags (sign : Bool)
  /-- A set of characters. -/
  | set (s : CharacterSet)
  deriving DecidableEq, Repr

/-- What was read of a pattern. -/
structure Reader where
  /-- What may follow. -/
  mode : Mode := .expression false
  /-- The groups that are open. -/
  depth : Nat := 0
  deriving DecidableEq, Repr

/-- The flags of a group. -/
def isFlag (c : Char) : Bool := c ∈ ['i', 'm', 's', 'U', 'u', 'x', 'R']

namespace CharacterSet

/-- Takes a member; the end of a range must not come before its start. -/
def member (s : CharacterSet) (c : Char) : Option CharacterSet :=
  let s := { s with opened := false, fresh := false }
  match s.low, s.dash with
  | some low, true => if low ≤ c then some { s with low := none, dash := false } else none
  | _, _ => some { s with low := some c, dash := false }

/-- Takes several members at once; no range starts there. -/
def several (s : CharacterSet) : CharacterSet :=
  { s with opened := false, fresh := false, low := none, dash := false }

/-- One character of a set. -/
def step (s : CharacterSet) (c : Char) : Option Mode :=
  match c with
  | '^' =>
    if s.opened then some (.set { s with opened := false })
    else (s.member c).map .set
  | ']' =>
    -- A bracket right at the start is a member of the set.
    if s.fresh then (s.member c).map .set
    else if s.depth ≤ 1 then some (.expression true)
    else some (.set { s.several with depth := s.depth - 1 })
  | '[' => some (.set { depth := s.depth + 1 })
  | '\\' => some (.escaped (some s))
  | '-' =>
    -- A dash makes a range only behind a member that none has been made from.
    if s.low.isSome ∧ !s.dash then some (.set { s with dash := true }) else some (.set s.several)
  | c => (s.member c).map .set

end CharacterSet

namespace Reader

/-- Goes on behind an escape. -/
def behindEscape (r : Reader) (set : Option CharacterSet) : Reader :=
  match set with
  | none => { r with mode := .expression true }
  | some s => { r with mode := .set s.several }

/-- One character of an expression. -/
def expression (r : Reader) (operand : Bool) (c : Char) : Option Reader :=
  match c with
  | '(' => some { mode := .group, depth := r.depth + 1 }
  | ')' => if r.depth = 0 then none else some { mode := .expression true, depth := r.depth - 1 }
  | '*' | '+' | '?' => if operand then some { r with mode := .expression true } else none
  | '{' => none
  | '|' => some { r with mode := .expression false }
  | '[' => some { r with mode := .set { depth := 1 } }
  | '\\' => some { r with mode := .escaped none }
  | _ => some { r with mode := .expression true }

/-- The character behind a backslash. -/
def escape (r : Reader) (set : Option CharacterSet) (c : Char) : Option Reader :=
  if c ∈ ['d', 'D', 's', 'S', 'w', 'W', 'a', 'f', 't', 'n', 'r', 'v'] then some (r.behindEscape set)
  else if c ∈ ['A', 'z'] then if set.isNone then some (r.behindEscape set) else none
  else if c = 'x' then some { r with mode := .digits 1 set }
  else if c = 'u' then some { r with mode := .digits 3 set }
  else if c = 'U' then some { r with mode := .digits 7 set }
  else if c = 'p' ∨ c = 'P' then some { r with mode := .category set }
  else if c.isAlphanum ∨ c = '<' ∨ c = '>' ∨ 128 ≤ c.toNat then none
  else
    match set with
    | none => some (r.behindEscape none)
    | some s => (s.member c).map fun s => { r with mode := .set s }

/-- What a group is for. -/
def purpose (r : Reader) (c : Char) : Option Reader :=
  if c = 'P' then some { r with mode := .nameBracket }
  else if c = '<' then some { r with mode := .name false }
  else if c = ':' then some { r with mode := .expression false }
  else if c = '-' then some { r with mode := .flags true }
  else if isFlag c then some { r with mode := .flags false }
  else none

/-- One character; nothing if no pattern goes on like this. -/
def step (r : Reader) (c : Char) : Option Reader :=
  match r.mode with
  | .expression operand => r.expression operand c
  | .escaped set => r.escape set c
  | .digits more set =>
    if (Text.digit? 16 c).isNone then none
    else match more with
      | 0 => some (r.behindEscape set)
      | more + 1 => some { r with mode := .digits more set }
  | .category set => if c ∈ ['C', 'L', 'M', 'N', 'P', 'S', 'Z'] then some (r.behindEscape set) else none
  | .group => if c = '?' then some { r with mode := .purpose } else r.expression false c
  | .purpose => r.purpose c
  | .nameBracket => if c = '<' then some { r with mode := .name false } else none
  | .name started =>
    if c = '>' ∧ started then some { r with mode := .expression false }
    else if c.isAlpha ∨ c = '_' ∨ (started ∧ (c.isDigit ∨ c = '.')) then
      some { r with mode := .name true }
    else none
  | .flags sign =>
    if isFlag c then some { r with mode := .flags false }
    else if sign then none
    else if c = '-' then some { r with mode := .flags true }
    else if c = ':' then some { r with mode := .expression false }
    else if c = ')' then some { mode := .expression false, depth := r.depth - 1 }
    else none
  | .set s => (s.step c).map fun mode => { r with mode }

/-- The pattern may end here. -/
def isComplete (r : Reader) : Bool :=
  match r.mode with
  | .expression _ => r.depth == 0
  | _ => false

end Reader

/-- The text is a pattern. -/
def isWellFormed (cs : List Char) : Bool := (cs.foldlM Reader.step {}).any (·.isComplete)

end GpuQuota.Text.Pattern
