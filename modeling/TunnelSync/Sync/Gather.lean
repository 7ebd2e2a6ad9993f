import TunnelSync.Copy.Event
import TunnelSync.Stats

/-!
# Gathering the results of the copies

Copies that run side by side send their results in any order, and a copy whose task dies sends
none. `Tally` is what is known so far; `Tally.verdict` is what it amounts to when no more result
will come.

* `Tally.take?` : the tally with one more result
* `gather` : the result of all copies together
-/

namespace TunnelSync

/-- The result of one copy, as it comes in. -/
structure Arrival where
  worker : Nat
  result : Except SyncError TransferStats
  deriving Repr

/-- What is known of the copies so far. -/
structure Tally where
  /-- The workers that have sent no result. -/
  pending : List Nat
  /-- The sum over the copies that succeeded. -/
  stats : TransferStats
  /-- The copies that failed. -/
  failed : List (Nat × SyncError)
  deriving Repr

namespace Tally

/-- The tally before the first result. -/
def start (workers : List Nat) : Tally := ⟨workers, .zero, []⟩

/-- The tally with one more result, if the counters can hold the sum. -/
def take? (t : Tally) (a : Arrival) : Option Tally :=
  let pending := t.pending.filter (· ≠ a.worker)
  match a.result with
  | .ok s => (t.stats.add? s).map fun sum => ⟨pending, sum, t.failed⟩
  | .error e => some ⟨pending, t.stats, t.failed ++ [(a.worker, e)]⟩

/-- Every copy that failed, those that sent nothing among them, ascending by worker. -/
def failures (t : Tally) : List (Nat × SyncError) :=
  (t.failed ++ t.pending.map fun w => (w, SyncError.noResult)).mergeSort fun a b => a.1 ≤ b.1

/-- What the tally amounts to. A sync that was given up counts as such, whatever its copies did. -/
def verdict (t : Tally) (total : Nat) (cancelled : Bool) : Except SyncError TransferStats :=
  if cancelled then .error .cancelled
  else if t.failures.isEmpty then .ok t.stats
  else .error (.aggregate t.failures total)

end Tally

/-- The result of copies by these workers, of which these results came in. -/
def gather (workers : List Nat) (arrivals : List Arrival) (cancelled : Bool) :
    Ending TransferStats :=
  (arrivals.foldlM Tally.take? (.start workers)).map (·.verdict workers.length cancelled)

end TunnelSync
