import TunnelSync.Relay.Step

/-!
# One way of running a relay

Of all the orders in which the tasks may run, `State.settle` takes one: a task notices a
cancellation before anything else, reads and writes are as large as they can be, and the tasks run
until none of them can. `runScript` interleaves them with what happens around the relay.
-/

namespace TunnelSync.Relay

namespace State

/-- Whether the WebSocket accepts one more frame, if it accepts no more than `limit`. -/
def accepts (s : State) (limit : Option Nat) : Bool :=
  match limit with
  | some n => s.sent.length < n
  | none => true

/-- What the forwarder may do, the first that is possible. -/
def forwarderActions (s : State) (limit : Option Nat) : List Action :=
  [.forwarderStops, .dialEnds, .takeChunk, .queueEnds,
    if s.accepts limit then .accept else .refuse, .writerEnds, .graceEnds]

/-- What the reader may do, the first that is possible. -/
def readerActions (s : State) : List Action :=
  [.readerStops, .enqueue, .read (min readSize s.inbound.length), .readEnd]

/-- What the writer may do, the first that is possible. -/
def writerActions (s : State) : List Action :=
  let rest := match s.writer with
    | .writing _ rest _ => rest.length
    | _ => 0
  [.deliver rest, .deliverFails, .takeMessage, .streamEnds]

/-- Whether the relay has returned; its tasks are over then. -/
def isFinished (s : State) : Bool := s.result?.isSome

/-- The state after the next action, or `none` if no task can run. -/
def next? (s : State) (limit : Option Nat) : Option State :=
  if s.isFinished then none
  else (s.forwarderActions limit ++ s.readerActions ++ s.writerActions).findSome? s.step?

/-- More than the actions that can follow without anything happening around the relay: each byte
that ssh wrote is read, queued, taken and sent with others or alone, and each message is taken and
delivered. -/
def work (s : State) : Nat :=
  4 * s.inbound.length + 4 * s.queue.length + 2 * s.inbox.length + 20

/-- The state after so many actions, or fewer if no task can run. -/
def settleWithin (limit : Option Nat) : Nat → State → State
  | 0, s => s
  | fuel + 1, s =>
      match s.next? limit with
      | some t => settleWithin limit fuel t
      | none => s

/-- The state when no task can run. -/
def settle (limit : Option Nat) (s : State) : State := settleWithin limit s.work s

end State

/-- Something that happens, and how much time passes then. -/
structure ScriptStep where
  event : Option Event
  wait : Nat
  deriving Repr

/-- The state after a step: the tasks run until none can, both before the time passes and after. -/
def runStep (limit : Option Nat) (s : State) (step : ScriptStep) : State :=
  let s := match step.event with
    | some e => s.apply e
    | none => s
  ((s.settle limit).apply (.timePasses step.wait)).settle limit

/-- The states after each step. -/
def runScript (limit : Option Nat) (s : State) : List ScriptStep → List State
  | [] => []
  | step :: rest =>
      let t := runStep limit s step
      t :: runScript limit t rest

/-! ### The states of a script can be reached -/

theorem reaches_settleWithin {s u : State} (limit : Option Nat) (n : Nat) (h : Reaches s u) :
    Reaches s (State.settleWithin limit n u) := by
  induction n generalizing u with
  | zero => exact h
  | succ n ih =>
      simp only [State.settleWithin]
      split
      next v hv =>
        simp only [State.next?] at hv
        split at hv
        · cases hv
        · obtain ⟨a, _, ha⟩ := List.exists_of_findSome?_eq_some hv
          exact ih (h.action a ha)
      next => exact h

theorem reaches_runStep {s u : State} (h : Reaches s u) (limit : Option Nat) (step : ScriptStep) :
    Reaches s (runStep limit u step) := by
  have hs : Reaches s (match step.event with | some e => u.apply e | none => u) := by
    cases step.event with
    | none => exact h
    | some e => exact h.event e
  exact reaches_settleWithin limit _ ((reaches_settleWithin limit _ hs).event _)

/-- Every state that a script goes through can be reached. -/
theorem reaches_of_mem_runScript {s u v : State} (h : Reaches s u) {limit : Option Nat}
    {script : List ScriptStep} (hv : v ∈ runScript limit u script) : Reaches s v := by
  induction script generalizing u with
  | nil => cases hv
  | cons step rest ih =>
      have ht : Reaches s (runStep limit u step) := reaches_runStep h limit step
      rcases List.mem_cons.mp hv with rfl | hv
      · exact ht
      · exact ih ht hv

end TunnelSync.Relay
