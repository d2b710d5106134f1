import GpuQuota.Diagnostics.Level
import GpuQuota.Text.Alphanumeric
import GpuQuota.Text.Blank
import GpuQuota.Text.Pattern

/-!
# Directives about log events

A directive sets the level for a part of the program. It can be narrowed to what happens within a
span, given by its name or by a field that it has: `target[span{field=value}]=level`. Every part may
be left out.

A directive is read character by character. The blanks around it are passed over, but its parts are
cut out of the text by their distance in bytes from its first character that is no blank, counted
from the start of the text. So a blank in front shifts them all.

The module introduces:

* `FieldCondition` — a field that a span or an event must have.
* `LogDirective` — a directive, with `isDynamic` and `isStatic`.
* `LogDirective.ofText?` — reading one.
-/

namespace GpuQuota

/-- A field that is asked for, maybe with a value. -/
structure FieldCondition where
  /-- The name of the field. -/
  name : List Char
  /-- A value is asked for as well. -/
  hasValue : Bool
  deriving DecidableEq, Repr

namespace FieldCondition

/-- The text is a decimal fraction without a sign. -/
def isDecimal (cs : List Char) : Bool :=
  let (mantissa, exponent) := (cs.takeWhile (· ∉ ['e', 'E']), cs.dropWhile (· ∉ ['e', 'E']))
  let digits := mantissa.filter (· ≠ '.')
  let isNumeral (ds : List Char) : Bool := !ds.isEmpty && ds.all Char.isDigit
  let scaled := match exponent with
    | _ :: '-' :: ds | _ :: '+' :: ds | _ :: ds => isNumeral ds
    | [] => true
  isNumeral digits && mantissa.length ≤ digits.length + 1 && scaled

/-- The text names a number that is not written in digits. -/
def isNamedNumber (cs : List Char) : Bool :=
  ["inf", "infinity", "nan"].contains (String.ofList (cs.map Char.toLower))

/-- The text can be asked for as a value: a number with a sign, or else a pattern. -/
def isValue (cs : List Char) : Bool :=
  match cs with
  | '+' :: ds => isDecimal ds || isNamedNumber ds
  | cs => Text.Pattern.isWellFormed cs

/-- Reads a name, and a value behind an equals sign. What stands behind a second one is dropped. -/
def ofText? (cs : List Char) : Option FieldCondition :=
  match Text.pieces '=' cs with
  | name :: value :: _ => if isValue value then some { name, hasValue := true } else none
  | [name] => some { name, hasValue := false }
  | [] => none

end FieldCondition

/-- What a part of the program may log. -/
structure LogDirective where
  /-- The start of the names of the parts that it is about; all if not given. -/
  target : Option (List Char) := none
  /-- The span that it is about. -/
  span : Option (List Char) := none
  /-- The field that it asks for. -/
  field : Option FieldCondition := none
  /-- The gravest level that is still written. -/
  level : LogLevel := .trace
  deriving DecidableEq, Repr

namespace LogDirective

/-- What is let through depends on the spans that are entered. -/
def isDynamic (d : LogDirective) : Bool := d.span.isSome || d.field.isSome

/-- The directive can be decided from an event alone. -/
def isStatic (d : LogDirective) : Bool := d.span.isNone && !d.field.any (·.hasValue)

/-! ## Reading -/

/-- A text from a distance in bytes on, unless that falls within a character. -/
def dropBytes : Nat → List Char → Option (List Char)
  | 0, cs => some cs
  | _ + 1, [] => none
  | n + 1, c :: cs => if c.utf8Size ≤ n + 1 then dropBytes (n + 1 - c.utf8Size) cs else none

/-- The start of a text of some bytes, unless it ends within a character. -/
def takeBytes : Nat → List Char → Option (List Char)
  | 0, _ => some []
  | _ + 1, [] => none
  | n + 1, c :: cs =>
    if c.utf8Size ≤ n + 1 then (takeBytes (n + 1 - c.utf8Size) cs).map (c :: ·) else none

/-- The part of a text between two distances. -/
def cut (text : List Char) (start stop : Nat) : Option (List Char) :=
  (dropBytes start text).bind (takeBytes (stop - start))

/-- How far a directive was read. -/
inductive Progress
  | start
  /-- In a target, or a level that stands alone. -/
  | target (start : Nat)
  /-- In the name of a span. -/
  | span (start : Nat)
  /-- In a field. -/
  | field (start : Nat)
  /-- Behind a field. -/
  | behindField
  /-- Behind a span. -/
  | behindSpan
  /-- In a level. -/
  | level (start : Nat)
  deriving DecidableEq, Repr

/-- What may stand at the start of a target. -/
def startsTarget (c : Char) : Bool := c ∈ ['-', ':', '_'] || Text.isAlphanumeric c

/-- One character of a directive, which is `at_` bytes away from the first one. -/
def step (text : List Char) (d : LogDirective) (p : Progress) (at_ : Nat) (c : Char) :
    Option (LogDirective × Progress) :=
  match p, c with
  | .start, '[' => some (d, .span (at_ + 1))
  | .start, c => if startsTarget c then some (d, .target at_) else none
  | .target start, '=' => do
    return ({ d with target := some (← cut text start at_) }, .level (at_ + 1))
  | .target start, '[' => do
    return ({ d with target := some (← cut text start at_) }, .span (at_ + 1))
  | .target start, _ => some (d, .target start)
  | .span start, ']' => do return ({ d with span := some (← cut text start at_) }, .behindSpan)
  | .span start, '{' => do
    let name ← cut text start at_
    return ({ d with span := if name = [] then none else some name }, .field (at_ + 1))
  | .span start, _ => some (d, .span start)
  | .field start, '}' => do
    let field ← cut text start at_
    if field = [] then none
    else return ({ d with field := some (← FieldCondition.ofText? field) }, .behindField)
  | .field start, _ => some (d, .field start)
  | .behindField, ']' => some (d, .behindSpan)
  | .behindField, _ => none
  | .behindSpan, '=' => some (d, .level (at_ + 1))
  | .behindSpan, _ => none
  | .level start, _ => some (d, .level start)

/-- Reads the characters from the left. -/
def readFrom (text : List Char) (d : LogDirective) (p : Progress) (at_ : Nat) :
    List Char → Option (LogDirective × Progress)
  | [] => some (d, p)
  | c :: cs => do
    let (d, p) ← step text d p at_ c
    readFrom text d p (at_ + c.utf8Size) cs

/-- Completes a directive at the end of its text. A text without an equals sign is a level if it
reads as one, and a target otherwise. -/
def complete (text : List Char) (d : LogDirective) : Progress → Option LogDirective
  | .target start => do
    let rest ← dropBytes start text
    match LogLevel.ofText? rest with
    | some level => return { d with level }
    | none => return { d with target := some rest }
  | .level start => do
    let rest ← dropBytes start text
    if rest = [] then return d
    else return { d with level := ← LogLevel.ofText? rest }
  | .behindSpan => some d
  | _ => none

/-- Reads a directive. -/
def ofText? (text : List Char) : Option LogDirective := do
  let (d, p) ← readFrom text {} .start 0 (Text.trim text)
  complete text d p

end LogDirective

end GpuQuota
