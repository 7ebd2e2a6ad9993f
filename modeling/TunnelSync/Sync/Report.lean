import TunnelSync.Stats
import TunnelSync.Decimal.Digits

/-!
# The report of a sync

What a sync moved, how long it took, and the line that tells the user.
-/

namespace TunnelSync

/-- A span of time: whole seconds and the nanoseconds beyond them. -/
structure Elapsed where
  secs : Nat
  nanos : Nat
  deriving DecidableEq, Repr

namespace Elapsed

/-- The span in seconds: the sum of the nearest numbers to its two parts. -/
def seconds (t : Elapsed) : Binary64 :=
  (Binary64.ofNat t.secs).add ((Binary64.ofNat t.nanos).div (Binary64.ofNat 1000000000))

end Elapsed

/-- The outcome of a whole sync. -/
structure Report where
  stats : TransferStats
  elapsed : Elapsed
  /-- How many copies ran. -/
  chunks : Nat
  /-- The source had no entries to sync, and nothing ran. -/
  nothingToSync : Bool
  deriving DecidableEq, Repr

namespace Report

/-- The report of a sync that ran copies. -/
def ofStats (stats : TransferStats) (elapsed : Elapsed) (chunks : Nat) : Report :=
  ⟨stats, elapsed, chunks, false⟩

/-- The report of a sync without entries. -/
def nothing (elapsed : Elapsed) : Report := ⟨.zero, elapsed, 0, true⟩

/-- The bytes of a megabyte. -/
def megabyte : Binary64 := Binary64.ofNat (1024 * 1024)

/-- Megabytes with two places and the unit. -/
def megabytes (bytes : Nat) : Text :=
  Decimal.fixed 2 ((Binary64.ofNat bytes).div megabyte) ++ " MB"

/-- Megabytes per second over the whole sync; 0 if it took no time. -/
def throughput (r : Report) : Binary64 :=
  let secs := r.elapsed.seconds
  if secs.mantissa = 0 then .zero
  else ((Binary64.ofNat r.stats.bytes).div secs).div megabyte

/-- The line for the user, without the mark before it. -/
def summary (r : Report) : Text :=
  "Synced " ++ Text.ofNat r.stats.files ++ " files (" ++ megabytes r.stats.bytes ++ ") in "
    ++ Decimal.fixed 1 r.elapsed.seconds ++ "s (" ++ Decimal.fixed 2 r.throughput ++ " MB/s)"

end Report

end TunnelSync
