import TunnelSync.Os.Tree

/-!
# Programs of the host

* `Exit` : how a run of a program ended
* `Probe` : what asking a program for its version leads to
* `Programs.find` : the program that a name stands for
* `Programs.launch` : the program for a run with arguments

A name with a slash is a path. Any other name is looked for in the directories of the search path,
and a directory whose file may not be executed is passed over.
-/

namespace TunnelSync

/-- How a process ended and what it printed. There is no code if a signal ended it. -/
structure Exit where
  code : Option Int
  stdout : Bytes
  stderr : Bytes
  deriving DecidableEq, Repr

/-- What asking a program for its version leads to: it cannot be started, or it ends, unless it
does not answer in time. -/
abbrev Probe := Except OsError (Option Exit)

/-- The programs that a host can start. -/
structure Programs (α : Type) where
  files : FileNode
  /-- The directory in which relative paths begin. -/
  cwd : Location
  /-- The directories in which a name is looked for, in this order. -/
  searchPath : List Bytes
  /-- The program in a file, if the file may be executed. -/
  program? : Location → Option α

namespace Programs

variable {α β : Type}

/-- The same programs, with something else known of each. -/
def map (f : α → β) (p : Programs α) : Programs β :=
  { files := p.files, cwd := p.cwd, searchPath := p.searchPath
    program? := fun location => (p.program? location).map f }

/-- The program that a path leads to. -/
def atPath (p : Programs α) (path : Bytes) : Except OsError α :=
  match p.files.locate true p.cwd path with
  | .error e => .error e
  | .ok location =>
      match p.files.at? location with
      | none => .error .notFound
      | some _ =>
          match p.program? location with
          | some a => .ok a
          | none => .error .permissionDenied

/-- The first program of a name in the directories. If there is none, the name was `denied` where a
file of that name could not be executed. -/
def search (p : Programs α) (name : Bytes) (denied : Bool) : List Bytes → Except OsError α
  | [] => .error (if denied then .permissionDenied else .notFound)
  | dir :: rest =>
      match p.atPath (FileNode.join dir name) with
      | .ok a => .ok a
      | .error e =>
          if e = .permissionDenied then p.search name true rest
          else if e = .notFound ∨ e = .notDirectory then p.search name denied rest
          else .error e

/-- The program that a name stands for. -/
def find (p : Programs α) (name : Bytes) : Except OsError α :=
  if name.isEmpty then .error .notFound
  else if name.contains FileNode.slash then p.atPath name
  else p.search name false p.searchPath

/-- The error for a text that cannot be handed to a program. -/
def nulInArgument : OsError := .custom "nul byte found in provided data"

/-- The program for a run with arguments. -/
def launch (p : Programs α) (name : Bytes) (args : List Text) : Except OsError α :=
  if name.contains 0 || args.any (·.contains '\x00') then .error nulInArgument else p.find name

end Programs

end TunnelSync
