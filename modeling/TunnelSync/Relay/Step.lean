import TunnelSync.Relay.Basic

/-!
# What happens in a relay

* `Event` : what ssh, the worker, the caller and the clock do, at any time
* `Action` : one step of a task, possible in some states only
* `Reaches` : the states that events and actions lead to, in any order

An action names what is left to chance: how many bytes a read or a write takes, whether the
WebSocket accepts a frame, and which of two things a task notices first.
-/

namespace TunnelSync.Relay

/-- What happens around a relay. -/
inductive Event
  | sshWrites (data : Bytes)
  | sshEnds
  | sshVanishes
  | dialEnds (result : Except SyncError Unit)
  | workerSends (m : Message)
  | workerEnds
  | cancel
  | timePasses (ms : Nat)
  deriving Repr

/-- One step of a task. -/
inductive Action
  /-- The reader reads so many bytes. -/
  | read (n : Nat)
  /-- The reader finds the end of what ssh writes. -/
  | readEnd
  /-- The reader cannot read from a connection that is gone. -/
  | readFails
  /-- The reader puts its chunk into the queue. -/
  | enqueue
  /-- The reader notices the cancellation. -/
  | readerStops
  /-- The forwarder notices that the dial has ended. -/
  | dialEnds
  /-- The forwarder notices the cancellation. -/
  | forwarderStops
  /-- The forwarder takes a chunk. -/
  | takeChunk
  /-- The forwarder finds that no chunk will come. -/
  | queueEnds
  /-- The WebSocket accepts the frame. -/
  | accept
  /-- The WebSocket refuses the frame. -/
  | refuse
  /-- The writer takes a message. -/
  | takeMessage
  /-- The writer finds the end of what the worker sends. -/
  | streamEnds
  /-- ssh's connection takes so many bytes. -/
  | deliver (n : Nat)
  /-- ssh's connection takes nothing any more. -/
  | deliverFails
  /-- The forwarder finds the writer done. -/
  | writerEnds
  /-- The forwarder's deadline passes. -/
  | graceEnds
  deriving DecidableEq, Repr

namespace State

/-- What ssh reads comes to its end, unless ssh is gone. -/
def closeRead (s : State) : State := { s with readClosed := s.readClosed || !s.sshGone }

/-- The state after an event. What ssh and the worker do after their end is without effect, and a
dial ends once. -/
def apply (s : State) : Event → State
  | .sshWrites data =>
      if s.sshEnded || s.sshGone then s else { s with inbound := s.inbound ++ data }
  | .sshEnds => { s with sshEnded := true }
  | .sshVanishes => { s with sshGone := true }
  | .dialEnds r =>
      match s.dial with
      | .pending => { s with dial := match r with | .ok _ => .open | .error e => .failed e }
      | _ => s
  | .workerSends m => if s.workerEnded then s else { s with inbox := s.inbox ++ [m] }
  | .workerEnds => { s with workerEnded := true }
  | .cancel => { s with cancelled := true }
  | .timePasses ms => { s with now := s.now + ms }

/-- The forwarder has nothing more to send: the reader stops, and the writer has the grace to end. -/
def beginClosing (s : State) : State :=
  { s with reader := .done, forwarder := .closing (s.now + closeGrace) }

/-- The relay returns. Nothing reads from ssh or writes to it any more. -/
def finish (s : State) (r : Except SyncError Counts) : State :=
  closeRead { s with reader := .done, writer := s.writer.abort, forwarder := .finished r }

/-- The relay returns with its counts, or with the cancellation if there was one. -/
def finishClosing (s : State) (toSsh : Nat) : State :=
  s.finish (if s.cancelled then .error .cancelled else .ok ⟨s.toWorker, toSsh⟩)

/-- The writer ends, and so does what ssh reads. -/
def endWriter (s : State) (written : Nat) : State := closeRead { s with writer := .done written }

/-- The writer, at a message. -/
def handle (s : State) (written : Nat) : Message → State
  | .binary [] => s
  | .binary data => { s with writer := .writing written data data.length }
  | .text [] => s
  | .text data => { s with writer := .writing written data data.length }
  | .ping => s
  | .pong => s
  | .close => s.endWriter written
  | .failure => s.endWriter written

/-- The state after an action, or `none` where the action is not possible. -/
def step? (s : State) : Action → Option State
  | .read n =>
      match s.reader with
      | .reading =>
          if 1 ≤ n ∧ n ≤ readSize ∧ n ≤ s.inbound.length then
            some { s with reader := .holding (s.inbound.take n), inbound := s.inbound.drop n }
          else none
      | _ => none
  | .readEnd =>
      match s.reader with
      | .reading =>
          if s.inbound.isEmpty && (s.sshEnded || s.sshGone) then some { s with reader := .done }
          else none
      | _ => none
  | .readFails =>
      match s.reader with
      | .reading => if s.sshGone then some { s with reader := .done } else none
      | _ => none
  | .enqueue =>
      match s.reader with
      | .holding chunk =>
          if s.queue.length < queueDepth then
            some { s with reader := .reading, queue := s.queue ++ [chunk] }
          else none
      | _ => none
  | .readerStops =>
      match s.reader with
      | .reading => if s.cancelled then some { s with reader := .done } else none
      | _ => none
  | .dialEnds =>
      match s.forwarder, s.dial with
      | .dialing, .open => some { s with forwarder := .ready, writer := .waiting 0 }
      | .dialing, .failed e => some (s.finish (.error e))
      | _, _ => none
  | .forwarderStops =>
      match s.forwarder with
      | .dialing => if s.cancelled then some (s.finish (.error .cancelled)) else none
      | .ready => if s.cancelled then some s.beginClosing else none
      | _ => none
  | .takeChunk =>
      match s.forwarder, s.queue with
      | .ready, chunk :: rest => some { s with forwarder := .sending chunk, queue := rest }
      | _, _ => none
  | .queueEnds =>
      match s.reader, s.forwarder with
      | .done, .ready => if s.queue.isEmpty then some { s with forwarder := .ending } else none
      | _, _ => none
  | .accept =>
      match s.forwarder with
      | .sending chunk =>
          some { s with
            forwarder := .ready
            sent := s.sent ++ [.binary chunk]
            toWorker := s.toWorker + chunk.length }
      | .ending => some { s with sent := s.sent ++ [Frame.close] }.beginClosing
      | _ => none
  | .refuse =>
      match s.forwarder with
      | .sending _ => some s.beginClosing
      | .ending => some s.beginClosing
      | _ => none
  | .takeMessage =>
      match s.writer, s.inbox with
      | .waiting written, m :: rest => some ({ s with inbox := rest }.handle written m)
      | _, _ => none
  | .streamEnds =>
      match s.writer with
      | .waiting written =>
          if s.inbox.isEmpty && s.workerEnded then some (s.endWriter written) else none
      | _ => none
  | .deliver n =>
      match s.writer with
      | .writing written rest size =>
          if 1 ≤ n ∧ n ≤ rest.length ∧ s.sshGone = false then
            some { s with
              received := s.received ++ rest.take n
              writer := if n = rest.length then .waiting (written + size)
                else .writing written (rest.drop n) size }
          else none
      | _ => none
  | .deliverFails =>
      match s.writer with
      | .writing written _ _ => if s.sshGone then some (s.endWriter written) else none
      | _ => none
  | .writerEnds =>
      match s.forwarder, s.writer with
      | .closing _, .done written => some (s.finishClosing written)
      | _, _ => none
  | .graceEnds =>
      match s.forwarder with
      | .closing deadline =>
          if s.writer.isRunning && deadline ≤ s.now then some (s.finishClosing 0) else none
      | _ => none

end State

/-- The states that a relay may come to from another one. -/
inductive Reaches : State → State → Prop
  | refl (s : State) : Reaches s s
  | event {s t : State} (h : Reaches s t) (e : Event) : Reaches s (t.apply e)
  | action {s t u : State} (h : Reaches s t) (a : Action) (ha : t.step? a = some u) : Reaches s u

end TunnelSync.Relay
