import TunnelSync.Scan

/-!
# The plan of a sync

How many copies run side by side, and which entries each one gets.

* `Plan.degreeForFiles` : the degree that the number of files suggests
* `Plan.degree?` : the degree of a sync, or `none` if there is nothing to sync
* `Plan.split` : the entries dealt out in turn
-/

namespace TunnelSync

/-- The entries of one copy, and the number by which messages name it. -/
structure Chunk where
  worker : Nat
  entries : List Entry
  deriving DecidableEq, Repr

namespace Plan

/-- The greatest degree that is chosen without being asked for. -/
def maxDegree : Nat := 8

/-- Below so many files, so many copies. -/
def thresholds : List (Nat × Nat) := [(50, 1), (500, 2), (2000, 4), (5000, 6)]

/-- The degree that the number of files suggests. -/
def degreeForFiles (files : Nat) : Nat :=
  match thresholds.find? fun (limit, _) => files < limit with
  | some (_, degree) => degree
  | none => maxDegree

/-- The degree for so many files in so many entries. A wish other than 0 overrides the thresholds,
and no degree exceeds the number of entries, because a copy without entries would have nothing to
do. -/
def degree? (files entries wish : Nat) : Option Nat :=
  if entries = 0 then none
  else some (min (max (if 0 < wish then wish else degreeForFiles files) 1) entries)

/-- The elements at the positions `skip`, `skip + degree`, `skip + 2 * degree`, and so on. -/
def everyNth {α : Type} (degree : Nat) : Nat → List α → List α
  | _, [] => []
  | 0, a :: as => a :: everyNth degree (degree - 1) as
  | skip + 1, _ :: as => everyNth degree skip as

/-- The entries dealt out in turn to `degree` workers, of which those that get none are left out.
Degree 0 counts as 1. There is no limit on the degree here: that a program with one bucket for each
worker cannot allocate them all, for a degree beyond what its memory holds, is left out. -/
def split (entries : List Entry) (degree : Nat) : List Chunk :=
  let d := max degree 1
  (List.range (min d entries.length)).map fun w => ⟨w + 1, everyNth d w entries⟩

end Plan

end TunnelSync
