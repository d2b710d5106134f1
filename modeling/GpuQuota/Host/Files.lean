import GpuQuota.Region.Layout
import GpuQuota.Error

/-!
# Files of a host

The files that processes share: a tree of directories with files, which keep their contents while
they are mapped even after their names are gone. The content of a mapped file is a region and the
bytes around it.

The module introduces:

* `FileNode` — a file, its bytes, and the region mapped over them.
* `Files` — nodes and names, with `file?`, `create`, `read?`, `write`, `resize`, `remove`,
  `makeDirectory`, `makeDirectories`.
-/

namespace GpuQuota

/-- A file without its name. -/
structure FileNode where
  /-- The bytes in the file. -/
  length : Nat := 0
  /-- The bytes at its start; zeros follow. -/
  bytes : ByteArray := .empty
  /-- The region at its start, once it was mapped. -/
  mapped : Option Region := none
  deriving Inhabited

namespace FileNode

/-- The region at the start of the file. -/
def region (n : FileNode) : Region := n.mapped.getD (Region.ofBytes n.bytes)

/-- The file as long as a region at least. -/
def extended (n : FileNode) : FileNode := { n with length := max n.length Layout.size }

/-- Stores a region at the start of the file. -/
def store (n : FileNode) (r : Region) : FileNode := { n with mapped := some r }

/-- The bytes at the start of the file, as far as they are not just zeros. -/
def contents (n : FileNode) : ByteArray :=
  match n.mapped with
  | some r => r.writeTo n.bytes
  | none => n.bytes

/-- Bytes of the file from an offset on, as many as there are. -/
def slice (n : FileNode) (offset count : Nat) : ByteArray :=
  let stop := min (offset + count) n.length
  (Layout.padTo ((n.contents).extract 0 stop) stop).extract offset stop

/-- All bytes of the file. -/
def allBytes (n : FileNode) : ByteArray := n.slice 0 n.length

/-- The file cut or continued with zeros to a length. -/
def resize (n : FileNode) (length : Nat) : FileNode :=
  { length, bytes := n.contents.extract 0 (min length n.length) }

end FileNode

/-! ## Names -/

/-- The identity of a file, whatever its name. -/
abbrev NodeId := Nat

/-- What a name stands for. -/
inductive FileEntry
  | directory
  | file (node : NodeId)
  deriving DecidableEq, Repr

/-- A path as its components. -/
abbrev Path := List String

/-- All files of a host. -/
structure Files where
  /-- The files by identity. -/
  nodes : Array FileNode := #[]
  /-- The names; the first entry of a path counts. -/
  entries : List (Path × FileEntry) := []
  deriving Inhabited

namespace Files

/-- The node with an identity. -/
def node (fs : Files) (id : NodeId) : FileNode := fs.nodes[id]?.getD {}

/-- Changes a node. -/
def modifyNode (fs : Files) (id : NodeId) (f : FileNode → FileNode) : Files :=
  { fs with nodes := fs.nodes.modify id f }

/-- What stands at a path without dots. -/
def find? (fs : Files) (path : Path) : Option FileEntry :=
  if path = [] then some .directory else fs.entries.lookup path

/-- The longest name of a file, in bytes. -/
def maxNameLength : Nat := 255

/-- The longest path, in bytes. -/
def maxPathLength : Nat := 4095

/-- The directory above one. The root, and the place where relative paths start, have none above
them and stand for it themselves. -/
def above : Path → Path
  | [""] => [""]
  | path => path.dropLast

/-- Walks the components of a path. All but the last must lead through directories. -/
def walk (fs : Files) (at_ : Path) : List String → Except FileError Path
  | [] => .ok at_
  | name :: rest =>
    match fs.find? at_ with
    | none => .error .notFound
    | some (.file _) => .error .notDirectory
    | some .directory =>
      if name.utf8ByteSize > maxNameLength then .error .nameTooLong
      else if name = "" ∨ name = "." then walk fs at_ rest
      else if name = ".." then walk fs (above at_) rest
      else walk fs (at_ ++ [name]) rest

/-- The components of a path as it is written, with the place where they start. An absolute path
starts with an empty component of its own. -/
def components (text : String) : Path × List String :=
  match (Text.pieces '/' text.toList).map String.ofList with
  | "" :: rest => ([""], rest)
  | parts => ([], parts)

/-- The components without the empty ones that slashes at the end make. -/
def trimSlashes (parts : List String) : List String := (parts.reverse.dropWhile (· = "")).reverse

/-- A text that can be the name of a file. -/
def checkName (text : String) : Except FileError Unit :=
  if text = "" then .error .notFound
  else if '\x00' ∈ text.toList then .error .nulInName
  else if text.utf8ByteSize > maxPathLength then .error .nameTooLong
  else .ok ()

/-- The path without dots that a text leads to. -/
def locate (fs : Files) (text : String) : Except FileError Path := do
  checkName text
  let (start, parts) := components text
  walk fs start parts

/-- The path without dots of a file to be created. A text that ends in a slash names no file. -/
def locateNew (fs : Files) (text : String) : Except FileError Path := do
  checkName text
  let (start, parts) := components text
  if parts.getLast? = some "" then
    -- What is wrong with the way there comes first.
    let _ ← walk fs start (trimSlashes parts)
    throw .isDirectory
  walk fs start parts

/-! ## Operations -/

/-- The file at a path. -/
def file? (fs : Files) (text : String) : Except FileError NodeId := do
  match fs.find? (← fs.locate text) with
  | none => throw .notFound
  | some .directory => throw .isDirectory
  | some (.file id) => return id

/-- The file at a path, which is created if it is missing. -/
def create (fs : Files) (text : String) : Except FileError (NodeId × Files) := do
  let path ← fs.locateNew text
  match fs.find? path with
  | some .directory => throw .isDirectory
  | some (.file id) => return (id, fs)
  | none =>
    let id := fs.nodes.size
    return (id, { nodes := fs.nodes.push {}, entries := (path, .file id) :: fs.entries })

/-- The bytes of a file. -/
def read? (fs : Files) (text : String) : Except FileError ByteArray := do
  return (fs.node (← fs.file? text)).allBytes

/-- The text of a file. -/
def readText? (fs : Files) (text : String) : Except FileError String := do
  match String.fromUTF8? (← fs.read? text) with
  | some s => return s
  | none => throw .notText

/-- Writes a file anew. -/
def write (fs : Files) (text : String) (bytes : ByteArray) : Except FileError Files := do
  let (id, fs) ← fs.create text
  return fs.modifyNode id fun _ => { length := bytes.size, bytes }

/-- Cuts or extends a file, which is created if it is missing. -/
def resize (fs : Files) (text : String) (length : Nat) : Except FileError Files := do
  let (id, fs) ← fs.create text
  return fs.modifyNode id (·.resize length)

/-- Takes the name of a file away. -/
def remove (fs : Files) (text : String) : Except FileError Files := do
  let path ← fs.locate text
  match fs.find? path with
  | none => throw .notFound
  | some .directory => throw .isDirectory
  | some (.file _) => return { fs with entries := fs.entries.filter (·.1 ≠ path) }

/-! ## Directories -/

/-- Makes a directory, given by its components from a place on. Slashes at the end do not count. -/
def makeDirectory (fs : Files) (start : Path) (parts : List String) : Except FileError Files := do
  let path ← fs.walk start (trimSlashes parts)
  match fs.find? path with
  | some _ => throw .exists
  | none => return { fs with entries := (path, .directory) :: fs.entries }

/-- The components lead to a directory. -/
def isDirectory (fs : Files) (start : Path) (parts : List String) : Bool :=
  match fs.walk start parts with
  | .ok path => fs.find? path == some .directory
  | .error _ => false

/-- Makes a directory unless it is there. -/
def ensureDirectory (start : Path) (parts : List String) : ExceptT FileError (StateM Files) Unit := do
  let fs ← get
  match fs.makeDirectory start parts with
  | .ok fs => set fs
  | .error e => unless e = .exists ∧ fs.isDirectory start parts do throw e

/-- Makes the first of some directories, each of which stands within the next. What is missing is
made from the nearest one that is there; what was made on the way to a failure stays. -/
def ensureNested (start : Path) : List (List String) → ExceptT FileError (StateM Files) Unit
  | [] => return ()
  | parts :: outer =>
    tryCatch (ensureDirectory start parts) fun
      | .notFound => do
        ensureNested start outer
        ensureDirectory start parts
      | e => throw e

/-- A directory as it is written, and those that it stands within, by their components. -/
def nested (parts : List String) : List (List String) :=
  let names := parts.filter fun name => name ≠ "" ∧ name ≠ "."
  parts :: ((List.range names.length).filter (0 < ·)).reverse.map (names.take ·)

/-- Makes a directory and those above it that are missing. One that is there already is no
failure. -/
def makeDirectories (text : String) : ExceptT FileError (StateM Files) Unit :=
  if text = "" then return ()
  else
    match checkName text with
    | .error e => throw e
    | .ok () =>
      let (start, parts) := components text
      ensureNested start (nested parts)

/-- The files with a directory and those above it. -/
def withDirectory (fs : Files) (path : Path) : Files :=
  (List.range path.length).foldl
    (fun fs i =>
      let dir := path.take (i + 1)
      if (fs.find? dir).isSome then fs
      else { fs with entries := (dir, .directory) :: fs.entries })
    fs

/-- The directories that a path leads through, from a place on. -/
def passed (at_ : Path) : List String → List Path
  | [] | [_] => [at_]
  | name :: rest =>
    if name = "" ∨ name = "." then passed at_ rest
    else if name = ".." then at_ :: passed (above at_) rest
    else at_ :: passed (at_ ++ [name]) rest

/-- The files of a host that has just the directories that a path leads through. -/
def towards (text : String) : Files :=
  let (start, parts) := components text
  (passed start parts).foldl withDirectory {}

end Files

end GpuQuota
