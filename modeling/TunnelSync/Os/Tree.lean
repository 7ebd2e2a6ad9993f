import TunnelSync.Os.Error

/-!
# File trees

A file system as a value: files, directories and symbolic links, each found by its name in the
directory above it.

* `FileNode` : a file, a directory or a link, with everything below it
* `FileNode.locate` : where a path leads, links worked out
* `FileNode.put` : a tree with one more node
* `FileNode.readDir`, `FileNode.readFile` : what a program that reads sees
-/

namespace TunnelSync

/-- A node of a file system. Names in a directory are distinct and hold no slash. -/
inductive FileNode
  | file (content : Bytes)
  | dir (entries : List (Bytes × FileNode))
  /-- A symbolic link with the path it points to. -/
  | link (target : Bytes)
  deriving Repr

/-- What kind of thing a name in a directory stands for; a link is not followed. -/
inductive FileKind
  | file
  | dir
  | link
  deriving DecidableEq, Repr

/-- The names on the way from the root to a node, all of them names of directories but the last. -/
abbrev Location := List Bytes

namespace FileNode

/-- The kind of a node. -/
def kind : FileNode → FileKind
  | .file _ => .file
  | .dir _ => .dir
  | .link _ => .link

/-- The entries of a directory. -/
def entries? : FileNode → Option (List (Bytes × FileNode))
  | .dir entries => some entries
  | _ => none

/-- The node of a name in a directory. -/
def child? (n : FileNode) (name : Bytes) : Option FileNode :=
  (n.entries?.getD []).lookup name

/-- The node at a location. -/
def at? (n : FileNode) : Location → Option FileNode
  | [] => some n
  | name :: rest => (n.child? name).bind (at? · rest)

/-! ### Paths -/

/-- The slash between the names of a path. -/
def slash : UInt8 := 0x2F

/-- The name of a directory in itself. -/
def here : Bytes := [0x2E]

/-- The name in a directory of the one above it. -/
def above : Bytes := [0x2E, 0x2E]

/-- The pieces of a path between slashes. -/
def pieces : Bytes → List Bytes
  | [] => [[]]
  | b :: bs =>
      if b = slash then [] :: pieces bs
      else match pieces bs with
        | [] => [[b]]
        | p :: ps => (b :: p) :: ps

/-- The names that a path is made of. A slash at its end asks for a directory. -/
def names (path : Bytes) : List Bytes :=
  let ns := (pieces path).filter (!·.isEmpty)
  if path.getLast? = some slash then ns ++ [here] else ns

/-- Whether a path begins at the root. -/
def isAbsolute (path : Bytes) : Bool := path.head? == some slash

/-- A path below a directory; an absolute path stands for itself. -/
def join (dir path : Bytes) : Bytes :=
  if isAbsolute path then path
  else if dir.getLast? = some slash then dir ++ path
  else dir ++ slash :: path

/-- Names and paths are shorter than these. -/
def maxName : Nat := 256
def maxPath : Nat := 4096

/-- The links that one path may pass. -/
def maxLinks : Nat := 40

/-- Where the names lead from a location. The last name is followed if it is a link and `follow`
holds; `links` more links may be passed. -/
def walk (root : FileNode) (follow : Bool) (links : Nat) (start : Location) :
    List Bytes → Except OsError Location
  | [] => .ok start
  | name :: rest =>
      match root.at? start with
      | some (.dir _) =>
          if name = here then walk root follow links start rest
          else if name = above then walk root follow links start.dropLast rest
          else if maxName ≤ name.length then .error .nameTooLong
          else
            match root.at? (start ++ [name]) with
            | none => .error .notFound
            | some (.link target) =>
                if rest.isEmpty && !follow then .ok (start ++ [name])
                else
                  match links with
                  | 0 => .error .tooManyLinks
                  | links + 1 =>
                      walk root follow links (if isAbsolute target then [] else start)
                        (names target ++ rest)
            | some _ => walk root follow links (start ++ [name]) rest
      | _ => .error .notDirectory
termination_by ns => (links, ns.length)

/-- Where a path leads from a directory. -/
def locate (root : FileNode) (follow : Bool) (cwd : Location) (path : Bytes) :
    Except OsError Location :=
  if path.isEmpty then .error .notFound
  else if maxPath ≤ path.length then .error .nameTooLong
  else walk root follow maxLinks (if isAbsolute path then [] else cwd) (names path)

/-- The node that a path leads to, links followed. -/
def find (root : FileNode) (cwd : Location) (path : Bytes) : Except OsError FileNode :=
  match root.locate true cwd path with
  | .error e => .error e
  | .ok location =>
      match root.at? location with
      | some n => .ok n
      | none => .error .notFound

/-! ### Reading -/

/-- The error for a path that no call on the system can take. -/
def nulInPath : OsError := .custom "file name contained an unexpected NUL byte"

/-- The node that a path leads to, for a call that takes a path. -/
def openNode (root : FileNode) (cwd : Location) (path : Bytes) : Except OsError FileNode :=
  if path.contains 0 then .error nulInPath else root.find cwd path

/-- The directory that a path leads to. -/
def openDir (root : FileNode) (cwd : Location) (path : Bytes) : Except OsError FileNode :=
  match root.openNode cwd path with
  | .ok (.dir entries) => .ok (.dir entries)
  | .ok _ => .error .notDirectory
  | .error e => .error e

/-- The contents of the file that a path leads to. -/
def readFile (root : FileNode) (cwd : Location) (path : Bytes) : Except OsError Bytes :=
  match root.openNode cwd path with
  | .ok (.file content) => .ok content
  | .ok _ => .error .isDirectory
  | .error e => .error e

/-! ### Changing -/

/-- The tree with a node at a location; directories on the way are made. -/
def putAt (n : FileNode) (new : FileNode) : Location → FileNode
  | [] => new
  | name :: rest =>
      let entries := n.entries?.getD []
      match entries.lookup name with
      | some child =>
          .dir (entries.map fun (k, c) => if k = name then (k, putAt child new rest) else (k, c))
      | none => .dir (entries ++ [(name, putAt (.dir []) new rest)])

/-- The tree without the node at a location. -/
def removeAt (n : FileNode) : Location → FileNode
  | [] => .dir []
  | [name] => .dir ((n.entries?.getD []).filter (·.1 ≠ name))
  | name :: rest =>
      .dir ((n.entries?.getD []).map fun (k, c) => if k = name then (k, removeAt c rest) else (k, c))

/-- Where names lead from a location, whether something is there or not: links on the way are
followed as far as they lead somewhere. -/
def place (root : FileNode) (start : Location) (ns : List Bytes) : Location :=
  ns.foldl (fun l name =>
    match root.walk true maxLinks l [name] with
    | .ok found => found
    | .error _ => l ++ [name]) start

/-- The tree with a directory, and those above it, unless they are there. -/
def makeDir (root : FileNode) (location : Location) : FileNode :=
  match root.at? location with
  | some _ => root
  | none => root.putAt (.dir []) location

/-- The tree with a node at the names below a location, in directories that are made as needed. -/
def put (root : FileNode) (start : Location) (ns : List Bytes) (new : FileNode) : FileNode :=
  match ns.getLast? with
  | none => root
  | some name => root.putAt new (root.place start ns.dropLast ++ [name])

end FileNode

end TunnelSync
