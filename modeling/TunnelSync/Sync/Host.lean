import TunnelSync.Copy.Event
import TunnelSync.Os.Program
import TunnelSync.Rsync.Args
import TunnelSync.Sync.Report

/-!
# The host of a sync

Everything that a sync finds and does not decide: the files and programs of the host, what happens
while its copies run, the order in which their results come in, and the time that passes.
-/

namespace TunnelSync

/-- One copy as a transport gets it. -/
structure Call where
  worker : Nat
  selection : Rsync.Selection
  deriving DecidableEq, Repr

/-- A program as a sync uses it. -/
structure Program where
  /-- Its answer to the question for its version, unless it does not answer in time. -/
  version : Option Exit
  /-- What happens while it runs with these arguments. -/
  run : List Text → List Copy.Event

/-- The host of a sync. -/
structure Host where
  /-- The files, and which of them are programs. -/
  programs : Programs Program
  /-- The port that the bridge of a worker gets. -/
  listen : Nat → Except OsError Nat
  /-- How a transport of the caller's own ends a call. -/
  custom : Text → Call → Ending Rsync.Output
  /-- The calls in the order in which their results come in. -/
  order : List Call → List Call
  /-- Whether the sync has been given up by the time the last result is in. -/
  cancelled : Bool
  /-- How long the sync takes. -/
  elapsed : Elapsed

namespace Host

/-- What a program answers to the question for its version. -/
def probe (h : Host) (program : Bytes) : Probe :=
  (h.programs.launch program ["--version".toList]).map (·.version)

/-- What happens when a program is started. -/
def start (h : Host) (program : Bytes) (args : List Text) : Except OsError (List Copy.Event) :=
  (h.programs.launch program args).map (·.run args)

end Host

end TunnelSync
