/-!
# Named objects

Tables of objects under the names that a script gives them.

The module introduces:

* `Named` — objects by name.
* `Pool` — objects that outlive their names: a name can be given to another object while the first
  is still in use.
-/

namespace GpuQuota.Scenario

/-- Objects by name; the first entry of a name counts. -/
abbrev Named (α : Type) := List (String × α)

namespace Named

/-- The object with a name. -/
def find? (t : Named α) (name : String) : Option α := List.lookup name t

/-- Takes a name away. -/
def erase (t : Named α) (name : String) : Named α := t.filter (·.1 != name)

/-- Gives a name to an object. -/
def insert (t : Named α) (name : String) (a : α) : Named α := (name, a) :: t.erase name

end Named

/-- Objects that outlive their names. -/
structure Pool (α : Type) where
  /-- The objects by number. -/
  objects : Array α := #[]
  /-- The numbers by name. -/
  names : Named Nat := []
  deriving Inhabited

namespace Pool

/-- The number of the object with a name. -/
def number? (p : Pool α) (name : String) : Option Nat := p.names.find? name

/-- The object with a number. -/
def get? (p : Pool α) (n : Nat) : Option α := p.objects[n]?

/-- The object with a name, and its number. -/
def find? (p : Pool α) (name : String) : Option (Nat × α) :=
  (p.number? name).bind fun n => (p.get? n).map (n, ·)

/-- Gives a name to a new object. -/
def insert (p : Pool α) (name : String) (a : α) : Pool α where
  objects := p.objects.push a
  names := p.names.insert name p.objects.size

/-- Puts an object in the place of the one with a number. -/
def set (p : Pool α) (n : Nat) (a : α) : Pool α := { p with objects := p.objects.setIfInBounds n a }

/-- Takes the names of some objects away. -/
def forget (p : Pool α) (f : α → Bool) : Pool α :=
  { p with names := p.names.filter fun (_, n) => !(p.get? n).any f }

end Pool

end GpuQuota.Scenario
