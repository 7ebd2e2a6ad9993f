import TunnelSync.Bridge.Basic
import TunnelSync.Relay.Basic

/-!
# What a bridge does

* `State.apply` : what an event changes
* `Action` : what the bridge notices next, possible in some states only
* `Reaches` : the states that events and actions lead to, in any order
* `run` : one order, in which the bridge notices everything at once

Where two things can be noticed, either may come first.
-/

namespace TunnelSync.Bridge

/-- What the bridge notices. -/
inductive Action
  /-- ssh has connected; the relay begins. -/
  | accept
  /-- The listener has failed. -/
  | listenerFails
  /-- ssh has not connected in time. -/
  | acceptExpires
  /-- rsync has ended. -/
  | exit
  /-- The sync was given up. -/
  | cancel
  /-- The relay has ended. -/
  | relayEnds
  /-- The relay has not ended in time. -/
  | shutdownExpires
  deriving DecidableEq, Repr

namespace State

/-- The state after an event. rsync and the relay end once, and a killed rsync ends no more. -/
def apply (s : State) : Copy.Event → State
  | .sshConnects => { s with connected := true }
  | .listenerFails why => { s with listenerFailure := some why }
  | .exits o => if s.killed || s.exited.isSome then s else { s with exited := some o }
  | .relayEnds r => if s.hasRelay then { s with relayEnd := some r } else s
  | .cancel => { s with cancelled := true }
  | .timePasses ms => { s with now := s.now + ms }

/-- The bridge is over. -/
def finish (s : State) (r : Except SyncError Rsync.Output) : State := { s with phase := .finished r }

/-- The bridge is over, and so is rsync. -/
def abandon (s : State) (e : SyncError) : State := { s with killed := true }.finish (.error e)

/-- The error for an ssh that did not connect. -/
def acceptTimeout (t : Timeouts) : SyncError :=
  .connection ("ssh did not connect to the bridge within " ++ Relay.secondsText t.accept)

/-- The state after an action, or `none` where the action is not possible. -/
def step? (t : Timeouts) (s : State) (a : Action) : Option State :=
  match s.phase, a with
  | .accepting _, .accept => if s.connected then some { s with phase := .copying } else none
  | .accepting _, .listenerFails =>
      s.listenerFailure.map fun why =>
        s.abandon (.connectionWhile "bridge accept failed" why)
  | .accepting deadline, .acceptExpires =>
      if deadline ≤ s.now ∧ s.connected = false ∧ s.listenerFailure = none then
        some (s.abandon (acceptTimeout t))
      else none
  | .accepting _, .exit => if s.exited.isSome then some { s with phase := .unused } else none
  | .accepting _, .cancel => if s.cancelled then some (s.abandon .cancelled) else none
  | .unused, .exit => s.exited.map fun o => s.finish (.ok o)
  | .unused, .cancel => if s.cancelled then some (s.abandon .cancelled) else none
  | .copying, .exit =>
      s.exited.map fun o => { s with phase := .closing (.ok o) (s.now + t.bridgeShutdown) }
  | .copying, .cancel =>
      if s.cancelled then
        some { s with
          killed := true
          phase := .closing (.error .cancelled) (s.now + t.bridgeShutdown) }
      else none
  | .closing copy _, .relayEnds => s.relayEnd.map fun r => s.finish (verdict copy r)
  | .closing copy deadline, .shutdownExpires =>
      if deadline ≤ s.now ∧ s.relayEnd.isNone then some { s with phase := .stopping copy } else none
  | .stopping copy, .relayEnds => s.relayEnd.map fun r => s.finish (verdict copy r)
  | _, _ => none

end State

/-- The states that a bridge may come to from another one. -/
inductive Reaches (t : Timeouts) : State → State → Prop
  | refl (s : State) : Reaches t s s
  | event {s u : State} (h : Reaches t s u) (e : Copy.Event) : Reaches t s (u.apply e)
  | action {s u v : State} (h : Reaches t s u) (a : Action) (ha : u.step? t a = some v) :
      Reaches t s v

/-! ### One order -/

/-- The actions, the first that is possible is taken. -/
def actions : List Action :=
  [.cancel, .exit, .listenerFails, .accept, .acceptExpires, .relayEnds, .shutdownExpires]

/-- The state after so many actions, or fewer if none is possible. -/
def settleWithin (t : Timeouts) : Nat → State → State
  | 0, s => s
  | fuel + 1, s =>
      match actions.findSome? (s.step? t) with
      | some u => settleWithin t fuel u
      | none => s

/-- The most phases that follow one another. -/
def maxPhases : Nat := 4

/-- The state after an event, when the bridge has noticed everything. -/
def runEvent (t : Timeouts) (s : State) (e : Copy.Event) : State :=
  settleWithin t maxPhases (s.apply e)

/-- The result of a bridge around which these things happen, if it comes to one. -/
def run (t : Timeouts) (events : List Copy.Event) : Ending Rsync.Output :=
  (events.foldl (runEvent t) (.initial t)).result?

theorem reaches_settleWithin {t : Timeouts} {s u : State} (n : Nat) (h : Reaches t s u) :
    Reaches t s (settleWithin t n u) := by
  induction n generalizing u with
  | zero => exact h
  | succ n ih =>
      simp only [settleWithin]
      split
      next v hv =>
        obtain ⟨a, _, ha⟩ := List.exists_of_findSome?_eq_some hv
        exact ih (h.action a ha)
      next => exact h

theorem reaches_runEvents {t : Timeouts} {s u : State} (h : Reaches t s u)
    (events : List Copy.Event) : Reaches t s (events.foldl (runEvent t) u) := by
  induction events generalizing u with
  | nil => exact h
  | cons e events ih => exact ih (reaches_settleWithin maxPhases (h.event e))

/-- The result of `run` is that of a state which can be reached. -/
theorem reaches_of_run {t : Timeouts} {events : List Copy.Event}
    {r : Except SyncError Rsync.Output} (h : run t events = some r) :
    ∃ s, Reaches t (.initial t) s ∧ s.result? = some r :=
  ⟨_, reaches_runEvents (.refl _) events, h⟩

end TunnelSync.Bridge
