import GpuQuota.Text.Numeral
import GpuQuota.Word

/-!
# Levels of log events

How grave an event is. A level includes all graver ones.

The module introduces:

* `LogLevel` — the levels, with `LogLevel.name` and the order `LogLevel.includes`.
* `LogLevel.ofSetting`, `LogLevel.ofText?` — the level that a setting or a text selects.
-/

namespace GpuQuota

/-- How grave an event is; each level includes the ones before it. -/
inductive LogLevel
  | off
  | error
  | warn
  | info
  | debug
  | trace
  deriving DecidableEq, Repr

namespace LogLevel

/-- The place of a level in the order. -/
def rank : LogLevel → Nat
  | .off => 0
  | .error => 1
  | .warn => 2
  | .info => 3
  | .debug => 4
  | .trace => 5

/-- Events of the second level are let through by the first. -/
def includes (bound level : LogLevel) : Bool := level.rank ≤ bound.rank

/-- The name of a level. -/
def name : LogLevel → String
  | .off => "off"
  | .error => "error"
  | .warn => "warn"
  | .info => "info"
  | .debug => "debug"
  | .trace => "trace"

/-- All levels in order. -/
def all : List LogLevel := [.off, .error, .warn, .info, .debug, .trace]

/-- The level that a setting selects: warnings unless it says otherwise. -/
def ofSetting : Option Int → LogLevel
  | none => .warn
  | some n => if n ≤ 0 then .error else if n ≤ 2 then .warn else if n = 3 then .info else .debug

/-- Reads a level, by its rank or by its name in either case. -/
def ofText? (cs : List Char) : Option LogLevel :=
  match Text.natural 10 wordMax cs with
  | .ok n => all.find? (·.rank == n)
  | .error _ => all.find? (·.name.toList == cs.map Char.toLower)

end LogLevel

end GpuQuota
