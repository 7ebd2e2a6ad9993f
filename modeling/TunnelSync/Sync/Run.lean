import TunnelSync.Plan
import TunnelSync.Scan
import TunnelSync.Sync.Gather
import TunnelSync.Transport.Run

/-!
# A sync

`Syncer.sync` checks that rsync is there, lists the source, plans the copies, runs them and merges
their results. The transport is chosen when there is something to sync for the first time, and kept
for all later syncs. A whole tree that one copy can take is copied as such, and the result of that
copy stands; more copies share the entries, and all of them have to succeed.

```text
  check ──> list ──> plan ──> choose ──┬──> copy 1 ──┐
                                       ├──> copy 2 ──┼──> merge
                                       └──> copy N ──┘
```
-/

namespace TunnelSync

/-- Runs syncs with one engine. -/
structure Syncer where
  engine : Engine
  /-- The transport, once there is one. -/
  transport : Option Transport
  deriving DecidableEq, Repr

/-- What a sync did. -/
structure SyncRun where
  result : Ending Report
  /-- What the user reads. -/
  printed : Text
  /-- The curls that were asked what they can do. -/
  asked : List Bytes
  /-- The calls, and the transport that got them. -/
  calls : List (Transport × Call)
  /-- What the next sync begins with. -/
  syncer : Syncer
  deriving Repr

namespace Syncer

/-- What there is to copy. -/
structure Job where
  entries : List Entry
  /-- The number of copies; at least 1. -/
  degree : Nat
  deriving DecidableEq, Repr

/-- The job of a request, or `none` if there is nothing to sync. Files are counted only where the
degree depends on their number. -/
def job? (e : Engine) (h : Host) (r : Request) : Except SyncError (Option Job) := do
  Rsync.ensureAvailable e.rsync (h.probe e.rsync)
  let f := Filter.withBuiltin r.options.exclude
  let entries ← Scan.list f h.programs.files h.programs.cwd r.localPath
  let files :=
    if r.options.parallelism = 0 then Scan.count f h.programs.files h.programs.cwd r.localPath
    else 0
  return (Plan.degree? files entries.length r.options.parallelism).map fun d => ⟨entries, d⟩

/-- The copies of a job. -/
def Job.calls (j : Job) : List Call :=
  if j.degree = 1 then [⟨1, .all⟩]
  else (Plan.split j.entries j.degree).map fun c => ⟨c.worker, .entries c.entries⟩

/-- The result of a copy. -/
def outcome (ending : Ending Rsync.Output) : Ending TransferStats :=
  ending.map fun r => r.bind Rsync.classify

/-- What a copy prints for the user. -/
def echo (o : Options) : Ending Rsync.Output → Text
  | some (.ok output) => if o.verbose then output.stdout else []
  | _ => []

/-- The result of all copies of a job. -/
def Job.result (j : Job) (h : Host) (ending : Call → Ending Rsync.Output) : Ending TransferStats :=
  if j.degree = 1 then outcome (ending ⟨1, .all⟩)
  else
    gather (j.calls.map (·.worker))
      ((h.order j.calls).filterMap fun c => (outcome (ending c)).map (⟨c.worker, ·⟩))
      h.cancelled

/-- The line for the user when a sync has succeeded. -/
def doneLine (report : Report) : Text := "✓ " ++ report.summary ++ ['\n']

/-- The line for the user when there was nothing to do. -/
def nothingLine : Text := "Nothing to sync\n"

/-- A job carried out on a transport. -/
def carryOut (s : Syncer) (h : Host) (r : Request) (j : Job) (choice : Transport.Choice) :
    SyncRun :=
  let ending := choice.transport.run h s.engine r
  let result : Ending Report :=
    (j.result h ending).map fun stats =>
      stats.map fun stats => Report.ofStats stats h.elapsed j.calls.length
  { result := result
    printed :=
      (h.order j.calls).flatMap (fun c => echo r.options (ending c))
        ++ match result with
          | some (.ok report) => doneLine report
          | _ => []
    asked := choice.asked
    calls := j.calls.map fun c => (choice.transport, c)
    syncer := { s with transport := some choice.transport } }

/-- The transport of a syncer, found on the host if there is none yet. -/
def choose (s : Syncer) (h : Host) : Transport.Choice :=
  match s.transport with
  | some t => ⟨t, []⟩
  | none => Transport.choose s.engine h.probe

/-- One sync. -/
def sync (s : Syncer) (h : Host) (r : Request) : SyncRun :=
  match job? s.engine h r with
  | .error e => ⟨some (.error e), [], [], [], s⟩
  | .ok none => ⟨some (.ok (Report.nothing h.elapsed)), nothingLine, [], [], s⟩
  | .ok (some j) => s.carryOut h r j (s.choose h)

/-- One sync after the other. -/
def syncAll (s : Syncer) : List (Host × Request) → List SyncRun
  | [] => []
  | (h, r) :: rest =>
      let run := s.sync h r
      run :: run.syncer.syncAll rest

end Syncer

end TunnelSync
