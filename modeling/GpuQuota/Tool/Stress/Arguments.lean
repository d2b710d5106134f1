import GpuQuota.Text.Numeral
import GpuQuota.Word

/-!
# The command line of the stress test

Options come as `--name value`, `--name=value`, or with one letter as `-n value`, each at most once.

The module introduces:

* `Stress.Options` — the options of the test, with their defaults.
* `Stress.Arguments.read` — what a command line asks for.
* `Stress.helpLines` — the help.
-/

namespace GpuQuota.Stress

/-- The options of the test. -/
structure Options where
  /-- The number of workers. -/
  children : Nat := 8
  /-- The memory limit as it is written. -/
  limit : String := "256m"
  /-- The size of an allocation as it is written. -/
  chunk : String := "4m"
  /-- The rounds of a worker. -/
  rounds : Nat := 200
  /-- The region file; one of its own for each run if not given. -/
  path : Option String := none
  deriving DecidableEq, Repr

/-- What a command line asks for. -/
inductive Arguments
  | help
  | refused
  | options (o : Options)
  deriving DecidableEq, Repr

/-- An option that takes a value. -/
inductive Key
  | children
  | limit
  | chunk
  | rounds
  | path
  deriving DecidableEq, Repr

/-- The option with a long name. -/
def Key.ofName? : String → Option Key
  | "children" => some .children
  | "limit" => some .limit
  | "chunk" => some .chunk
  | "rounds" => some .rounds
  | "path" => some .path
  | _ => none

/-- The option with a short name. -/
def Key.ofLetter? : Char → Option Key
  | 'c' => some .children
  | 'l' => some .limit
  | 'r' => some .rounds
  | _ => none

namespace Arguments

/-- Reads a count. -/
def count? (value : String) : Option Nat := (Text.natural 10 wordMax value.toList).toOption

/-- Sets an option. -/
def assign? (o : Options) (key : Key) (value : String) : Option Options :=
  match key with
  | .children => (count? value).map fun children => { o with children }
  | .limit => some { o with limit := value }
  | .chunk => some { o with chunk := value }
  | .rounds => (count? value).map fun rounds => { o with rounds }
  | .path => if value = "" then none else some { o with path := some value }

/-- One word of a command line. -/
inductive Token
  | help
  | key (key : Key) (value : Option String)
  | terminator
  | other
  deriving DecidableEq, Repr

/-- The value that stands behind the name of an option, after an optional equals sign. -/
def attached : List Char → Option String
  | [] => none
  | '=' :: cs => some (String.ofList cs)
  | cs => some (String.ofList cs)

/-- Reads one word. -/
def token (word : String) : Token :=
  match word.toList with
  | ['-', '-'] => .terminator
  | '-' :: '-' :: cs =>
    let name := String.ofList (cs.takeWhile (· ≠ '='))
    let value := attached (cs.dropWhile (· ≠ '='))
    if name = "help" then if value.isNone then .help else .other
    else ((Key.ofName? name).map fun k => Token.key k value).getD .other
  -- The letter for help takes no value: what stands behind it in the word is not looked at.
  | '-' :: 'h' :: _ => .help
  | '-' :: c :: cs => ((Key.ofLetter? c).map fun k => Token.key k (attached cs)).getD .other
  | _ => .other

/-- A word that can be the value of the option before it. -/
def isValue (word : String) : Bool := word == "-" || !word.startsWith "-"

/-- Reads the words from the left; each option may be given once. -/
def readFrom (o : Options) (seen : List Key) : List String → Arguments
  | [] => .options o
  | word :: rest =>
    match token word with
    | .help => .help
    | .other => .refused
    | .terminator => if rest = [] then .options o else .refused
    | .key k (some value) =>
      if k ∈ seen then .refused
      else
        match assign? o k value with
        | some o => readFrom o (k :: seen) rest
        | none => .refused
    | .key k none =>
      match rest with
      | [] => .refused
      | value :: rest =>
        if k ∈ seen || !isValue value then .refused
        else
          match assign? o k value with
          | some o => readFrom o (k :: seen) rest
          | none => .refused

/-- Reads a command line. -/
def read (words : List String) : Arguments := readFrom {} [] words

end Arguments

/-- What the test prints when it is asked for help. -/
def helpLines : List String :=
  ["Race several processes against one device memory limit",
    "",
    "Usage: softmig-stress [OPTIONS]",
    "",
    "Options:",
    "  -c, --children <CHILDREN>  Worker processes [default: 8]",
    "  -l, --limit <LIMIT>        Device 0 memory limit (k/m/g suffix allowed) [default: 256m]",
    "      --chunk <CHUNK>        Allocation size (k/m/g suffix allowed) [default: 4m]",
    "  -r, --rounds <ROUNDS>      Allocate/free rounds per worker [default: 200]",
    "      --path <PATH>          Region backing file (default: a per-run file under /tmp)",
    "  -h, --help                 Print help"]

end GpuQuota.Stress
