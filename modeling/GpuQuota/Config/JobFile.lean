import GpuQuota.Config.Environment
import GpuQuota.Error

/-!
# Job files

The scheduler leaves the limits of a job in a file named after the job. Each line assigns a value
to a key; blank lines, comments and lines without an equals sign are skipped, blanks around key and
value are dropped, and the last assignment to a key counts.

The module introduces:

* `JobFile` — the assignments with the path they came from, `JobFile.ofText` and `JobFile.get?`.
* `JobFile.path?` — the path that the environment of a job leads to.
* `joinPath` — a file name within a directory.
-/

namespace GpuQuota

/-- A path within a directory. A path that starts at the root stands for itself. -/
def joinPath (dir name : String) : String :=
  if name.startsWith "/" then name
  else if dir = "" ∨ dir.endsWith "/" then dir ++ name
  else dir ++ "/" ++ name

/-- The settings that a job file makes. -/
structure JobFile where
  /-- Where the settings were read. -/
  path : String
  /-- The assignments in file order. -/
  assignments : List (String × String)
  deriving DecidableEq, Repr

namespace JobFile

/-- The directory of job files unless the environment names another. -/
def defaultDirectory : String := "/var/run/softmig"

/-- The assignment that a line makes. -/
def assignment? (line : List Char) : Option (String × String) :=
  match Text.trim line with
  | [] => none
  | '#' :: _ => none
  | cs => (Text.splitAtFirst '=' cs).map fun (k, v) =>
      (String.ofList (Text.trim k), String.ofList (Text.trim v))

/-- Reads the text of a job file. -/
def ofText (path text : String) : JobFile where
  path := path
  assignments := (Text.lines text.toList).filterMap assignment?

/-- The value of a key. -/
def get? (job : JobFile) (key : String) : Option String := job.assignments.reverse.lookup key

/-- The path of the job file. There is none outside a job; a task of an array has its own. -/
def path? (env : Environment) : Option String := do
  let job ← env.nonempty? "SLURM_JOB_ID"
  let dir := (env.text? "SOFTMIG_CONFIG_DIR").getD defaultDirectory
  let name :=
    match env.nonempty? "SLURM_ARRAY_TASK_ID" with
    | some task => job ++ "_" ++ task ++ ".conf"
    | none => job ++ ".conf"
  return joinPath dir name

end JobFile

end GpuQuota
