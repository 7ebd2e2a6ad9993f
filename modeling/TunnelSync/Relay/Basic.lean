import TunnelSync.Error

/-!
# The state of a relay

A relay carries bytes between ssh, at the end of a local connection, and the worker, at the end of a
WebSocket.

```text
  ssh ──> reader ──queue──> forwarder ──frames──> worker
  ssh <── writer <──────────messages───────────── worker
```

The reader begins before the dial has ended, and what ssh writes meanwhile waits in a bounded queue.
`Relay.State` holds both ends and the three tasks between them, and `Relay.Attempt.result` is what
the relay makes of the end of the dial.
-/

namespace TunnelSync.Relay

/-- The most bytes that are read from ssh at once. -/
def readSize : Nat := 32768

/-- The most chunks in the queue. -/
def queueDepth : Nat := 64

/-- How long the worker may take to answer the close frame, in milliseconds. -/
def closeGrace : Nat := 2000

/-- What comes from the worker. -/
inductive Message
  | binary (data : Bytes)
  | text (data : Bytes)
  | ping
  | pong
  | close
  /-- The stream breaks. -/
  | failure
  deriving DecidableEq, Repr

/-- What goes to the worker. -/
inductive Frame
  | binary (data : Bytes)
  /-- The normal end, code 1000 and no reason. -/
  | close
  deriving DecidableEq, Repr

/-- Bytes carried in each direction. -/
structure Counts where
  toWorker : Nat
  toSsh : Nat
  deriving DecidableEq, Repr

/-- How the dial stands. -/
inductive Dial
  | pending
  | open
  | failed (e : SyncError)
  deriving Repr

/-- The task that reads from ssh. -/
inductive Reader
  | reading
  /-- It waits for room in the queue. -/
  | holding (chunk : Bytes)
  | done
  deriving DecidableEq, Repr

/-- The task that writes to the worker, and ends the relay. -/
inductive Forwarder
  | dialing
  /-- It waits for a chunk. -/
  | ready
  /-- It sends a chunk. -/
  | sending (chunk : Bytes)
  /-- It sends the close frame. -/
  | ending
  /-- It waits for the writer until the deadline. -/
  | closing (deadline : Nat)
  | finished (result : Except SyncError Counts)
  deriving Repr

/-- The task that writes to ssh. It counts the payloads that it has written as a whole. -/
inductive Writer
  | notStarted
  /-- It waits for a message. -/
  | waiting (written : Nat)
  /-- It writes a payload of which `rest` is left. -/
  | writing (written : Nat) (rest : Bytes) (size : Nat)
  | done (written : Nat)
  /-- It was stopped before its end. -/
  | aborted
  deriving DecidableEq, Repr

/-- Whether the task has begun and not ended. -/
def Writer.isRunning : Writer → Bool
  | .waiting _ => true
  | .writing _ _ _ => true
  | _ => false

/-- The task once nothing waits for it any more. -/
def Writer.abort (w : Writer) : Writer := if w.isRunning then .aborted else w

/-- A relay with the ends of its two connections. -/
structure State where
  /-- What ssh has written and the reader has not read. -/
  inbound : Bytes
  /-- ssh writes no more. -/
  sshEnded : Bool
  /-- ssh's connection is gone. -/
  sshGone : Bool
  /-- What ssh has received. -/
  received : Bytes
  /-- What ssh reads has come to its end. -/
  readClosed : Bool
  dial : Dial
  /-- What the worker has sent and the writer has not taken. -/
  inbox : List Message
  /-- The worker sends no more. -/
  workerEnded : Bool
  /-- What the WebSocket has accepted. -/
  sent : List Frame
  reader : Reader
  queue : List Bytes
  forwarder : Forwarder
  /-- Bytes that the WebSocket has accepted. -/
  toWorker : Nat
  writer : Writer
  cancelled : Bool
  /-- The time in milliseconds. -/
  now : Nat
  deriving Repr

namespace State

/-- A relay that has just begun. -/
def initial : State :=
  { inbound := [], sshEnded := false, sshGone := false, received := [], readClosed := false,
    dial := .pending, inbox := [], workerEnded := false, sent := [], reader := .reading,
    queue := [], forwarder := .dialing, toWorker := 0, writer := .notStarted, cancelled := false,
    now := 0 }

/-- The result, once the relay has returned. -/
def result? (s : State) : Option (Except SyncError Counts) :=
  match s.forwarder with
  | .finished r => some r
  | _ => none

theorem result?_eq_some_iff {s : State} {r : Except SyncError Counts} :
    s.result? = some r ↔ s.forwarder = .finished r := by
  unfold result?
  cases s.forwarder <;> simp

end State

/-! ### The dial -/

/-- How an attempt to open the WebSocket ended. -/
inductive Attempt
  | opened
  /-- The connection or the handshake failed. -/
  | failed (why : Text)
  /-- The worker did not answer in time. -/
  | timedOut
  deriving DecidableEq, Repr

/-- A span in whole seconds with the unit. -/
def secondsText (ms : Nat) : Text := Text.ofNat (ms / 1000) ++ ['s']

/-- The result of the dial, for a handshake that may take so many milliseconds. -/
def Attempt.result (handshake : Nat) : Attempt → Except SyncError Unit
  | .opened => .ok ()
  | .failed why => .error (.connectionWhile "WebSocket dial failed" why)
  | .timedOut =>
      .error (.connection ("WebSocket handshake timed out after " ++ secondsText handshake))

end TunnelSync.Relay
