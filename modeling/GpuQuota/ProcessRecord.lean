import GpuQuota.Text.Blank
import GpuQuota.Text.Numeral

/-!
# Process records of the kernel

The kernel tells about a process in two texts: one line with its state after its name, and a list
of fields with its identifier in every namespace that it is visible in.

The module introduces:

* `ProcessRecord.state?`, `ProcessRecord.isDefunct` — the state of a process.
* `ProcessRecord.outerPid?` — its identifier in the outermost namespace.
-/

namespace GpuQuota.ProcessRecord

/-- The text after the last closing parenthesis, if there is one. -/
def afterName (cs : List Char) : Option (List Char) :=
  if ')' ∈ cs then some (cs.reverse.takeWhile (· ≠ ')')).reverse else none

/-- The state letter. It follows the name in parentheses, which may hold parentheses itself. -/
def state? (stat : String) : Option Char :=
  (afterName stat.toList).bind fun rest => (Text.trimStart rest).head?

/-- The process has ended and only its record is left. -/
def isDefunct (stat : String) : Bool := state? stat == some 'Z' || state? stat == some 'X'

/-- What the line with the identifiers starts with. -/
def namespaceField : List Char := "NSpid:".toList

/-- The outermost identifier. With one identifier alone there is no outer namespace to see. -/
def outerPid? (status : String) : Option Int := do
  let line ← (Text.lines status.toList).find? (namespaceField.isPrefixOf ·)
  let pids := (Text.words (line.drop namespaceField.length)).filterMap
    (Text.integer (-0x80000000) 0x7FFFFFFF)
  match pids with
  | pid :: _ :: _ => some pid
  | _ => none

end GpuQuota.ProcessRecord
