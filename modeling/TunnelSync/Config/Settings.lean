import TunnelSync.Text.Basic

/-!
# Settings

* `Options`, `Request` : what the caller of a sync decides, for this one call
* `Engine` : the tools of the host, the way to the worker, and how long to wait; they are shared by
  every copy of a run
-/

namespace TunnelSync

/-! ### What the caller asks for -/

/-- Options of one sync. -/
structure Options where
  /-- Remove what does not exist in the source. -/
  delete : Bool
  /-- Change nothing. -/
  dryRun : Bool
  /-- List the files, and echo what the copying program prints. -/
  verbose : Bool
  /-- Patterns behind the built-in ones. -/
  exclude : List Text
  /-- Copies side by side; 0 leaves the choice to the plan. -/
  parallelism : Nat
  deriving DecidableEq, Repr

namespace Options

/-- No option set. -/
def none : Options := ⟨false, false, false, [], 0⟩

end Options

/-- Everything that one sync needs from its caller. -/
structure Request where
  workerUrl : Text
  token : Text
  localPath : Bytes
  remotePath : Text
  options : Options
  deriving DecidableEq, Repr

/-! ### The engine -/

/-- How to reach the worker. -/
inductive TransportPreference
  /-- curl if it can, the bridge if not. -/
  | auto
  | curl
  | bridge
  deriving DecidableEq, Repr

namespace TransportPreference

/-- Every way. -/
def all : List TransportPreference := [.auto, .curl, .bridge]

/-- The name of a way. -/
def name : TransportPreference → Text
  | .auto => "auto"
  | .curl => "curl"
  | .bridge => "bridge"

/-- The way of a name. -/
def ofName? (name : Text) : Option TransportPreference := all.find? (·.name = name)

@[simp] theorem ofName?_name (t : TransportPreference) : ofName? t.name = some t := by
  cases t <;> decide

end TransportPreference

/-- How long to wait, in milliseconds. -/
structure Timeouts where
  /-- For ssh to connect to the bridge. -/
  accept : Nat
  /-- For the worker to accept the WebSocket. -/
  handshake : Nat
  /-- For the bridge to end after rsync. -/
  bridgeShutdown : Nat
  /-- For a program to tell its version. -/
  probe : Nat
  deriving DecidableEq, Repr

namespace Timeouts

/-- The waits of an engine without a configuration. -/
def standard : Timeouts := ⟨30000, 30000, 5000, 5000⟩

end Timeouts

/-- Settings shared by every copy of a run. -/
structure Engine where
  /-- The copying program. -/
  rsync : Bytes
  transport : TransportPreference
  /-- The curl to use; without one the usual places are tried. -/
  curl : Option Bytes
  timeouts : Timeouts
  deriving DecidableEq, Repr

namespace Engine

/-- The engine without a configuration. -/
def standard : Engine := ⟨"rsync".toUTF8.toList, .auto, none, .standard⟩

end Engine

end TunnelSync
