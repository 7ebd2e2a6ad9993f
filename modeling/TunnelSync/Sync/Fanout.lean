import TunnelSync.Sync.Run

/-!
# Copies side by side

The sync spawns one task for each copy, and then collects what they send through a channel until
every task has ended. A task calls the transport once and sends what came of the call; a task that
dies sends nothing.

```text
  spawn ──> ready ──> calling ──> sending ──channel──> collector
```

* `Fanout.State` : where every copy stands, and what the collector knows
* `Fanout.Action` : one step of a task, of the sync or of its caller
* `Fanout.Run` : what may happen from the beginning on, in any order

An action names what is left to chance: which of the tasks goes on.
-/

namespace TunnelSync.Fanout

/-- What the task of a call sends, if it does not die. -/
def arrival? (ending : Call → Ending Rsync.Output) (c : Call) : Option Arrival :=
  (Syncer.outcome (ending c)).map (⟨c.worker, ·⟩)

/-- The copies of a sync. -/
structure State where
  /-- The copies, and the most results that the channel holds. -/
  total : Nat
  /-- What has no task yet. -/
  unspawned : List Call
  /-- The tasks that have not called the transport. -/
  ready : List Call
  /-- The calls that the transport has not ended. -/
  calling : List Call
  /-- The results that have not been sent. -/
  sending : List Arrival
  channel : List Arrival
  /-- What the collector knows. -/
  tally : Tally
  cancelled : Bool
  /-- The calls that the transport has got, in order. -/
  called : List Call
  /-- The calls that have ended, in order. -/
  ended : List Call
  /-- The results that the collector has taken, in order. -/
  received : List Arrival
  /-- The result once the collector is done, which may also have died. -/
  result : Option (Ending TransferStats)
  deriving Repr

/-- The copies before their tasks. There is no channel that holds nothing. -/
def start? (calls : List Call) : Option State :=
  if calls.isEmpty then none
  else some
    { total := calls.length, unspawned := calls, ready := [], calling := [], sending := [],
      channel := [], tally := .start (calls.map (·.worker)), cancelled := false, called := [],
      ended := [], received := [], result := none }

/-- One step. -/
inductive Action
  /-- The next copy gets its task. -/
  | spawn
  /-- A task calls the transport. -/
  | call (i : Nat)
  /-- The transport ends a call, or the task dies. -/
  | finish (i : Nat)
  /-- A task sends its result. -/
  | send (i : Nat)
  /-- The collector takes a result. -/
  | receive
  /-- The collector finds that every task has ended. -/
  | close
  /-- The caller gives the sync up. -/
  | cancel
  deriving DecidableEq, Repr

namespace State

/-- The collector takes a result. It dies where the counters cannot hold the sum. -/
def collect (s : State) (a : Arrival) (rest : List Arrival) : State :=
  let s := { s with channel := rest, received := s.received ++ [a] }
  match s.tally.take? a with
  | some tally => { s with tally := tally }
  | none => { s with result := some none }

/-- Whether every task has ended and all that was sent has been taken. -/
def isQuiet (s : State) : Bool :=
  s.unspawned.isEmpty && s.ready.isEmpty && s.calling.isEmpty && s.sending.isEmpty
    && s.channel.isEmpty

/-- The state after an action, or `none` where the action is not possible. The collector begins when
every copy has its task. -/
def step? (ending : Call → Ending Rsync.Output) (s : State) : Action → Option State
  | .spawn =>
      match s.unspawned with
      | c :: rest => some { s with unspawned := rest, ready := s.ready ++ [c] }
      | [] => none
  | .call i =>
      s.ready[i]?.map fun c =>
        { s with
          ready := s.ready.eraseIdx i
          calling := s.calling ++ [c]
          called := s.called ++ [c] }
  | .finish i =>
      s.calling[i]?.map fun c =>
        { s with
          calling := s.calling.eraseIdx i
          ended := s.ended ++ [c]
          sending := s.sending ++ (arrival? ending c).toList }
  | .send i =>
      s.sending[i]?.bind fun a =>
        if s.channel.length < s.total then
          some { s with sending := s.sending.eraseIdx i, channel := s.channel ++ [a] }
        else none
  | .receive =>
      match s.result, s.unspawned, s.channel with
      | none, [], a :: rest => some (s.collect a rest)
      | _, _, _ => none
  | .close =>
      if s.result.isNone && s.isQuiet then
        some { s with result := some (some (s.tally.verdict s.total s.cancelled)) }
      else none
  | .cancel => if s.result.isNone then some { s with cancelled := true } else none

end State

/-- What may happen to copies: the actions in order, and the state that they lead to. -/
inductive Run (ending : Call → Ending Rsync.Output) (calls : List Call) :
    List Action → State → Prop
  | start {s : State} (h : start? calls = some s) : Run ending calls [] s
  | action {actions : List Action} {s t : State} (run : Run ending calls actions s) (a : Action)
      (ha : s.step? ending a = some t) : Run ending calls (actions ++ [a]) t

end TunnelSync.Fanout
