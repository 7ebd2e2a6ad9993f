import TunnelSync.Config.Settings
import TunnelSync.Copy.Event

/-!
# The state of a bridge

A bridge carries one copy: it listens on a local port, starts rsync, lets the ssh of that rsync
connect, and runs a relay between ssh and the worker. `Bridge.State` holds how far it has come and
what it may notice next.

```text
  accepting ──> copying ──> closing ──> stopping
      │                        │            │
      ├──> unused ──┐          │            │
      └─────────────┴──────────┴────────────┴──> finished
```
-/

namespace TunnelSync.Bridge

/-- How far a bridge has come. -/
inductive Phase
  /-- It waits for ssh until the deadline. -/
  | accepting (deadline : Nat)
  /-- rsync ended before ssh connected. -/
  | unused
  /-- The relay runs, and rsync is waited for. -/
  | copying
  /-- The copy is over, and the relay has until the deadline to end. -/
  | closing (copy : Except SyncError Rsync.Output) (deadline : Nat)
  /-- The relay was told to end. -/
  | stopping (copy : Except SyncError Rsync.Output)
  | finished (result : Except SyncError Rsync.Output)
  deriving Repr

/-- A bridge, its rsync and its relay. -/
structure State where
  phase : Phase
  /-- ssh has connected. -/
  connected : Bool
  /-- Why no connection can be accepted. -/
  listenerFailure : Option Text
  /-- rsync has ended by itself. -/
  exited : Option Rsync.Output
  /-- rsync was killed. -/
  killed : Bool
  relayEnd : Option Copy.RelayEnd
  cancelled : Bool
  /-- The time in milliseconds. -/
  now : Nat
  deriving Repr

namespace State

/-- A bridge that has just started its rsync. -/
def initial (t : Timeouts) : State :=
  { phase := .accepting t.accept, connected := false, listenerFailure := none, exited := none,
    killed := false, relayEnd := none, cancelled := false, now := 0 }

/-- The result, once the bridge is over. -/
def result? (s : State) : Ending Rsync.Output :=
  match s.phase with
  | .finished r => some r
  | _ => none

/-- Whether the relay has been started and not been seen to end. -/
def hasRelay (s : State) : Bool :=
  match s.phase with
  | .copying => s.relayEnd.isNone
  | .closing _ _ => s.relayEnd.isNone
  | .stopping _ => s.relayEnd.isNone
  | _ => false

end State

/-- The result of a copy whose relay has ended. A relay that lost its connection explains why rsync
failed; to an rsync that did not fail it does not matter. -/
def verdict (copy : Except SyncError Rsync.Output) (relay : Copy.RelayEnd) :
    Except SyncError Rsync.Output :=
  match copy with
  | .error e => .error e
  | .ok o =>
      match relay.error? with
      | some e => if !o.success && e.isConnection then .error e else .ok o
      | none => .ok o

end TunnelSync.Bridge
