import TunnelSync.Relay.Basic
import TunnelSync.Rsync.Outcome

/-!
# What happens while a copy runs

A copy is one run of rsync. `Copy.Event` lists what may happen around it, in any order and at any
time. Without a bridge only its own end and the cancellation concern a copy: `Copy.awaitExit`.
`Copy.timeline` orders what happens at known times.
-/

namespace TunnelSync

/-- What a task leaves behind: its result, or nothing if it dies or never ends. -/
abbrev Ending (α : Type) := Option (Except SyncError α)

namespace Copy

/-- How the relay of a bridge ended. -/
inductive RelayEnd
  | returned (r : Except SyncError Relay.Counts)
  /-- Its task died. -/
  | crashed (why : Text)
  deriving Repr

/-- The error of a relay's end, if it is one. -/
def RelayEnd.error? : RelayEnd → Option SyncError
  | .returned (.ok _) => none
  | .returned (.error e) => some e
  | .crashed why => some (.connectionWhile "bridge task failed" why)

/-- What happens while a copy runs. -/
inductive Event
  /-- ssh connects to the bridge. -/
  | sshConnects
  /-- The bridge cannot accept a connection. -/
  | listenerFails (why : Text)
  /-- rsync ends by itself. -/
  | exits (o : Rsync.Output)
  /-- The relay of the bridge ends. -/
  | relayEnds (r : RelayEnd)
  | cancel
  | timePasses (ms : Nat)
  deriving Repr

/-- The result of a copy without a bridge: whatever comes first, its own end or the
cancellation. -/
def awaitExit : List Event → Ending Rsync.Output
  | [] => none
  | .exits o :: _ => some (.ok o)
  | .cancel :: _ => some (.error .cancelled)
  | _ :: rest => awaitExit rest

/-! ### Events at times -/

/-- Things that happen at times, as events with the time between them; `now` has passed. -/
def timelineFrom (now : Nat) : List (Nat × Event) → List Event
  | [] => []
  | (time, e) :: rest => .timePasses (time - now) :: e :: timelineFrom (max now time) rest

/-- Things that happen at times, in any order, as events with the time between them. -/
def timeline (events : List (Nat × Event)) : List Event :=
  timelineFrom 0 (events.mergeSort fun a b => a.1 ≤ b.1)

/-- The events before a time. -/
def before (time : Nat) : List Event → List Event
  | [] => []
  | .timePasses ms :: rest =>
      if time ≤ ms then [] else .timePasses ms :: before (time - ms) rest
  | e :: rest => e :: before time rest

end Copy

end TunnelSync
