import TunnelSync.Error
import TunnelSync.Filter.Basic
import TunnelSync.Os.Tree
import TunnelSync.Text.Basic

/-!
# What there is to sync

* `Entry` : a direct child of the directory that is synced
* `Scan.topLevel` : the entries of a directory, ascending by name
* `Scan.countFiles` : the files below a directory that are synced

Excluded names are left out with everything below them, and links are not followed.
-/

namespace TunnelSync

/-- A direct child of the synced directory. -/
structure Entry where
  name : Text
  isDir : Bool
  deriving DecidableEq, Repr

namespace Entry

/-- An entry that is not a directory. -/
def file (name : Text) : Entry := ⟨name, false⟩

/-- An entry that is a directory. -/
def dir (name : Text) : Entry := ⟨name, true⟩

/-- Order of names, character by character. -/
def le (a b : Entry) : Bool := !b.name.lex a.name

end Entry

namespace Scan

/-- A name that the system gives for a directory. Its kind may be unknown. -/
structure Child where
  name : Bytes
  kind : Except OsError FileKind
  deriving Repr

/-- What the system gives for a directory, in any order. -/
abbrev Reading := Except OsError (List (Except OsError Child))

/-- The entry of a child, or `none` if it is excluded. -/
def entry? (f : Filter) (c : Child) : Except OsError (Option Entry) :=
  let name := Text.decodeLossy c.name
  if f.excludes name then .ok none
  else c.kind.map fun k => some ⟨name, k == .dir⟩

/-- The entries of children in the order in which they were given. -/
def entries (f : Filter) : List (Except OsError Child) → Except OsError (List Entry)
  | [] => .ok []
  | c :: rest => do
      let e ← entry? f (← c)
      return e.toList ++ (← entries f rest)

/-- The entries of a directory, ascending by name. -/
def topLevel (f : Filter) (path : Bytes) (r : Reading) : Except SyncError (List Entry) :=
  match r.bind (entries f) with
  | .ok es => .ok (es.mergeSort Entry.le)
  | .error cause => .error (.directoryRead path cause)

mutual

/-- The files below a node that are synced; a link counts as one. The node's own name is not
looked at. -/
def countFiles (f : Filter) : FileNode → Nat
  | .file _ => 1
  | .link _ => 1
  | .dir entries => countEntries f entries

/-- The files in and below the entries of a directory. -/
def countEntries (f : Filter) : List (Bytes × FileNode) → Nat
  | [] => 0
  | (name, n) :: rest =>
      (if f.excludes (Text.decodeLossy name) then 0 else countFiles f n) + countEntries f rest

end

/-! ### In a file tree -/

/-- What a tree gives for a directory. -/
def reading (root : FileNode) (cwd : Location) (path : Bytes) : Reading :=
  (root.openDir cwd path).map fun n =>
    (n.entries?.getD []).map fun (name, child) => .ok ⟨name, .ok child.kind⟩

/-- The entries of a directory of a tree. -/
def list (f : Filter) (root : FileNode) (cwd : Location) (path : Bytes) :
    Except SyncError (List Entry) :=
  topLevel f path (reading root cwd path)

/-- The files below a path of a tree; none if it is no directory. One path is left out: a walker
that takes `-`, with or without a slash behind it, for the standard input counts nothing there, even
if a directory has that name. -/
def count (f : Filter) (root : FileNode) (cwd : Location) (path : Bytes) : Nat :=
  match root.openDir cwd path with
  | .ok n => countFiles f n
  | .error _ => 0

end Scan

end TunnelSync
