import GpuQuota.Text.Blank
import GpuQuota.Text.Numeral
import GpuQuota.Word

/-!
# Environments

The variables of a process. A value is text, or bytes that are no text; the latter read as unset
wherever text is wanted. A variable that does not read as what is wanted falls back to a default.

The module introduces `Environment` with its look-ups `text?`, `natural?`, `integer?` and `flag?`.
-/

namespace GpuQuota

/-- The value of a variable. -/
inductive EnvValue
  | text (value : String)
  /-- Bytes that are not valid UTF-8. -/
  | bytes (value : ByteArray)
  deriving Inhabited

/-- The variables of a process. -/
structure Environment where
  /-- Names with their values; the first entry of a name counts. -/
  entries : List (String × EnvValue) := []
  deriving Inhabited

namespace Environment

/-- The value of a variable. -/
def find? (env : Environment) (name : String) : Option EnvValue := env.entries.lookup name

/-- The variable is set, to text or not. -/
def isSet (env : Environment) (name : String) : Bool := (env.find? name).isSome

/-- The text of a variable. -/
def text? (env : Environment) (name : String) : Option String :=
  match env.find? name with
  | some (.text value) => some value
  | _ => none

/-- The text of a variable that is not empty. -/
def nonempty? (env : Environment) (name : String) : Option String :=
  (env.text? name).filter (· ≠ "")

/-- A variable read as an unsigned number up to a bound. -/
def natural? (env : Environment) (bound : Nat) (name : String) : Option Nat :=
  (env.text? name).bind fun v => (Text.natural 10 bound v.toList).toOption

/-- A variable read as a signed number between two bounds. -/
def integer? (env : Environment) (low high : Int) (name : String) : Option Int :=
  (env.text? name).bind fun v => Text.integer low high v.toList

/-- A variable read as a truth value. -/
def flag? (env : Environment) (name : String) : Option Bool :=
  match env.text? name with
  | some "true" => some true
  | some "false" => some false
  | _ => none

/-- The environment with more entries in front, which win over those it has. -/
def extend (env : Environment) (entries : List (String × EnvValue)) : Environment :=
  ⟨entries ++ env.entries⟩

/-- Only text is read as a number. -/
theorem natural?_eq_none_of_text? {env : Environment} {bound : Nat} {name : String}
    (h : env.text? name = none) : env.natural? bound name = none := by
  simp [natural?, h]

end Environment

end GpuQuota
