/-!
# The command line of the inspection tool

One command, after options that say where the region is and how much is told about the work.

The module introduces:

* `Inspect.Command` — what can be asked for.
* `Inspect.Arguments.read` — what a command line asks for.
* `Inspect.helpLines`, `Inspect.Command.helpLines` — the help.
-/

namespace GpuQuota.Inspect

/-- What can be asked for. -/
inductive Command
  | info
  | list
  | usage
  | reap
  | suspend
  | resume
  deriving DecidableEq, Repr

/-- The command with a name. -/
def Command.ofName? : String → Option Command
  | "info" => some .info
  | "list" => some .list
  | "usage" => some .usage
  | "reap" => some .reap
  | "suspend" => some .suspend
  | "resume" => some .resume
  | _ => none

/-- The name of a command. -/
def Command.name : Command → String
  | .info => "info"
  | .list => "list"
  | .usage => "usage"
  | .reap => "reap"
  | .suspend => "suspend"
  | .resume => "resume"

/-- What a command does, for the help. -/
def Command.about : Command → String
  | .info => "Show the region header"
  | .list => "List registered processes"
  | .usage => "Show aggregate usage per device"
  | .reap => "Evict slots of dead processes"
  | .suspend => "Ask every registered process to release device memory"
  | .resume => "Let suspended processes continue"

/-- A command is found by its name. -/
@[simp] theorem Command.ofName?_name (c : Command) : Command.ofName? c.name = some c := by
  cases c <;> rfl

/-- What a command line asks for. -/
inductive Arguments
  /-- The help, for one command if given. -/
  | help (command : Option Command)
  | version
  | refused
  /-- A command on the region at a path, if given. -/
  | perform (command : Command) (path : Option String)
  deriving DecidableEq, Repr

namespace Arguments

/-- One word of a command line that stands before the command. -/
inductive Token
  | help
  | version
  /-- More is to be told. -/
  | verbose
  | path (value : Option String)
  /-- No option. -/
  | plain
  | other
  deriving DecidableEq, Repr

/-- Reads options of one letter, as many as stand in one word. -/
def letters : List Char → Token
  | [] => .verbose
  | 'v' :: cs => letters cs
  | 'h' :: _ => .help
  | 'V' :: _ => .version
  | _ => .other

/-- Reads one word. -/
def token (word : String) : Token :=
  match word.toList with
  | ['-'] => .plain
  | '-' :: '-' :: cs =>
    match String.ofList (cs.takeWhile (· ≠ '=')), cs.dropWhile (· ≠ '=') with
    | "help", [] => .help
    | "version", [] => .version
    | "verbose", [] => .verbose
    | "path", [] => .path none
    | "path", _ :: value => .path (some (String.ofList value))
    | _, _ => .other
  | '-' :: cs => letters cs
  | _ => .plain

/-- Reads what stands behind a command. -/
def readBehind (c : Command) (path : Option String) : List String → Arguments
  | [] | ["--"] => .perform c path
  | word :: _ => if word = "--help" || word.startsWith "-h" then .help (some c) else .refused

/-- Reads what help is asked for. -/
def readHelp : List String → Arguments
  | [] => .help none
  | [word] => ((Command.ofName? word).map fun c => .help (some c)).getD .refused
  | _ => .refused

/-- Notes a path; it may be given once, and not empty. -/
def note? (path : Option String) (value : String) : Option String :=
  if path.isSome || value = "" then none else some value

/-- Reads the words from the left. -/
def readFrom (path : Option String) : List String → Arguments
  | [] => .refused
  | word :: rest =>
    match token word with
    | .help => .help none
    | .version => .version
    | .other => .refused
    | .verbose => readFrom path rest
    | .path (some value) =>
      match note? path value with
      | some p => readFrom (some p) rest
      | none => .refused
    | .path none =>
      match rest with
      | [] => .refused
      | value :: rest =>
        match if value ≠ "-" ∧ value.startsWith "-" then none else note? path value with
        | some p => readFrom (some p) rest
        | none => .refused
    | .plain =>
      if word = "help" then readHelp rest
      else ((Command.ofName? word).map fun c => readBehind c path rest).getD .refused

/-- Reads a command line. -/
def read (words : List String) : Arguments := readFrom none words

end Arguments

/-- What the tool prints when it is asked for help. The path that the environment gives is shown. -/
def helpLines (environmentPath : Option String) (defaultPath : String) : List String :=
  ["Inspect and administer a softmig shared region",
    "",
    "Usage: softmig-smi [OPTIONS] <COMMAND>",
    "",
    "Commands:",
    "  info     Show the region header",
    "  list     List registered processes",
    "  usage    Show aggregate usage per device",
    "  reap     Evict slots of dead processes",
    "  suspend  Ask every registered process to release device memory",
    "  resume   Let suspended processes continue",
    "  help     Print this message or the help of the given subcommand(s)",
    "",
    "Options:",
    "      --path <PATH>  Region backing file [env: CUDA_DEVICE_MEMORY_SHARED_CACHE=" ++
      environmentPath.getD "" ++ "] [default: " ++ defaultPath ++ "]",
    "  -v, --verbose...   Verbosity level (-v, -vv)",
    "  -h, --help         Print help",
    "  -V, --version      Print version"]

/-- What the tool prints when it is asked for help on a command. -/
def Command.helpLines (c : Command) : List String :=
  [c.about, "", "Usage: softmig-smi " ++ c.name, "", "Options:", "  -h, --help  Print help"]

end GpuQuota.Inspect
