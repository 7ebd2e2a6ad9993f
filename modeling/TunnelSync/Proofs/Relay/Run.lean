import TunnelSync.Relay.Schedule

/-!
# Runs of a relay

A `Run` is everything that happens to a relay, in order: the events around it and the actions of its
tasks, and the state that they lead to. What ssh wrote and what the worker sent are read off the
events of a run, so that a theorem about runs can compare them with what has arrived.

* `Run` : a run from the beginning, with the state that it leads to
* `written` : what ssh wrote, up to its end
* `workerMessages` : what the worker sent, up to its end
* `Move` : what each action needs and what it changes, one constructor for each case

An invariant is proved for one `Move` and one event, and then for all runs.
-/

namespace TunnelSync.Relay

/-- A part of a run: something happens around the relay, or one of its tasks does something. -/
inductive Step
  | event (e : Event)
  | action (a : Action)
  deriving Repr

/-- The runs of a relay from its beginning. -/
inductive Run : List Step → State → Prop
  | start : Run [] .initial
  | event {steps : List Step} {s : State} (run : Run steps s) (e : Event) :
      Run (steps ++ [.event e]) (s.apply e)
  | action {steps : List Step} {s t : State} (run : Run steps s) (a : Action)
      (ha : s.step? a = some t) : Run (steps ++ [.action a]) t

/-- The state after a part of a run, or `none` where it is not possible. -/
def State.perform? (s : State) : Step → Option State
  | .event e => some (s.apply e)
  | .action a => s.step? a

theorem Run.append {steps more : List Step} {s t : State} (run : Run steps s)
    (h : more.foldlM State.perform? s = some t) : Run (steps ++ more) t := by
  induction more generalizing steps s with
  | nil =>
      obtain rfl : s = t := by simpa using h
      simpa using run
  | cons x more ih =>
      obtain ⟨u, hu, ht⟩ : ∃ u, s.perform? x = some u ∧ more.foldlM State.perform? u = some t := by
        simpa [List.foldlM_cons, Option.bind_eq_some_iff] using h
      have hx : Run (steps ++ [x]) u := by
        cases x with
        | event e => cases hu; exact run.event e
        | action a => exact run.action a hu
      simpa using ih hx ht

theorem exists_run {s : State} (h : Reaches .initial s) : ∃ steps, Run steps s := by
  induction h with
  | refl => exact ⟨[], .start⟩
  | event _ e ih =>
      obtain ⟨steps, run⟩ := ih
      exact ⟨_, run.event e⟩
  | action _ a ha ih =>
      obtain ⟨steps, run⟩ := ih
      exact ⟨_, run.action a ha⟩

/-- The states of a script are those of runs, so what holds of every run holds of them. -/
theorem exists_run_of_mem_runScript {limit : Option Nat} {script : List ScriptStep} {s : State}
    (hs : s ∈ runScript limit .initial script) : ∃ steps, Run steps s :=
  exists_run (reaches_of_mem_runScript (.refl _) hs)

/-! ### What the ends of the connections did -/

/-- The events of a run. -/
def events (steps : List Step) : List Event :=
  steps.filterMap fun
    | .event e => some e
    | .action _ => none

@[simp] theorem events_append_event (steps : List Step) (e : Event) :
    events (steps ++ [.event e]) = events steps ++ [e] := by simp [events]

@[simp] theorem events_append_action (steps : List Step) (a : Action) :
    events (steps ++ [.action a]) = events steps := by simp [events]

/-- The end of what ssh writes, or of ssh itself. -/
def Event.endsSsh : Event → Bool
  | .sshEnds => true
  | .sshVanishes => true
  | _ => false

/-- The bytes of a write of ssh. -/
def Event.data : Event → Bytes
  | .sshWrites data => data
  | _ => []

/-- The end of what the worker sends. -/
def Event.endsWorker : Event → Bool
  | .workerEnds => true
  | _ => false

/-- The message that the worker sends. -/
def Event.message? : Event → Option Message
  | .workerSends m => some m
  | _ => none

/-- What ssh writes, up to its end. -/
def written (es : List Event) : Bytes := (es.takeWhile (!·.endsSsh)).flatMap Event.data

/-- What the worker sends, up to its end. -/
def workerMessages (es : List Event) : List Message :=
  (es.takeWhile (!·.endsWorker)).filterMap Event.message?

theorem takeWhile_concat {α : Type} (p : α → Bool) (l : List α) (a : α) :
    (l ++ [a]).takeWhile p = l.takeWhile p ++ if l.all p && p a then [a] else [] := by
  induction l with
  | nil => cases h : p a <;> simp [h]
  | cons b l ih => cases h : p b <;> simp [h, ih]

theorem written_append (es : List Event) (e : Event) :
    written (es ++ [e]) = written es ++ if es.any Event.endsSsh then [] else e.data := by
  unfold written
  rw [takeWhile_concat, List.flatMap_append]
  congr 1
  cases h : es.any Event.endsSsh with
  | true =>
      have hall : es.all (!·.endsSsh) = false := by simpa using h
      simp [hall]
  | false =>
      have hall : es.all (!·.endsSsh) = true := by simpa using h
      rw [hall]
      cases e <;> simp [Event.endsSsh, Event.data]

theorem workerMessages_append (es : List Event) (e : Event) :
    workerMessages (es ++ [e]) =
      workerMessages es ++ if es.any Event.endsWorker then [] else e.message?.toList := by
  unfold workerMessages
  rw [takeWhile_concat, List.filterMap_append]
  congr 1
  cases h : es.any Event.endsWorker with
  | true =>
      have hall : es.all (!·.endsWorker) = false := by simpa using h
      simp [hall]
  | false =>
      have hall : es.all (!·.endsWorker) = true := by simpa using h
      rw [hall]
      cases e <;> simp [Event.endsWorker, Event.message?]

/-! ### What an action needs and changes -/

/-- Whether the forwarder may still send. -/
def Forwarder.isForwarding : Forwarder → Bool
  | .closing _ => false
  | .finished _ => false
  | _ => true

theorem apply_forwarder (s : State) (e : Event) : (s.apply e).forwarder = s.forwarder := by
  cases e <;> simp only [State.apply] <;> split <;> rfl

theorem apply_writer (s : State) (e : Event) : (s.apply e).writer = s.writer := by
  cases e <;> simp only [State.apply] <;> split <;> rfl

theorem handle_eq (s : State) (n : Nat) (m : Message) :
    ∃ writer closed, s.handle n m = { s with writer := writer, readClosed := closed } := by
  unfold State.handle
  split <;> exact ⟨_, _, rfl⟩

/-- The actions of a state with the states that they lead to. -/
inductive Move (s : State) : Action → State → Prop
  | read (n : Nat) (hr : s.reader = .reading) (h₁ : 1 ≤ n) (h₂ : n ≤ readSize)
      (h₃ : n ≤ s.inbound.length) :
      Move s (.read n)
        { s with reader := .holding (s.inbound.take n), inbound := s.inbound.drop n }
  | readEnd (hr : s.reader = .reading) (hi : s.inbound = [])
      (he : (s.sshEnded || s.sshGone) = true) : Move s .readEnd { s with reader := .done }
  | readFails (hr : s.reader = .reading) (hg : s.sshGone = true) :
      Move s .readFails { s with reader := .done }
  | enqueue (chunk : Bytes) (hr : s.reader = .holding chunk) (hq : s.queue.length < queueDepth) :
      Move s .enqueue { s with reader := .reading, queue := s.queue ++ [chunk] }
  | readerStops (hr : s.reader = .reading) (hc : s.cancelled = true) :
      Move s .readerStops { s with reader := .done }
  | dialOpens (hf : s.forwarder = .dialing) (hd : s.dial = .open) :
      Move s .dialEnds { s with forwarder := .ready, writer := .waiting 0 }
  | dialFails (e : SyncError) (hf : s.forwarder = .dialing) (hd : s.dial = .failed e) :
      Move s .dialEnds (s.finish (.error e))
  | dialStops (hf : s.forwarder = .dialing) (hc : s.cancelled = true) :
      Move s .forwarderStops (s.finish (.error .cancelled))
  | loopStops (hf : s.forwarder = .ready) (hc : s.cancelled = true) :
      Move s .forwarderStops s.beginClosing
  | takeChunk (chunk : Bytes) (rest : List Bytes) (hf : s.forwarder = .ready)
      (hq : s.queue = chunk :: rest) :
      Move s .takeChunk { s with forwarder := .sending chunk, queue := rest }
  | queueEnds (hr : s.reader = .done) (hf : s.forwarder = .ready) (hq : s.queue = []) :
      Move s .queueEnds { s with forwarder := .ending }
  | accept (chunk : Bytes) (hf : s.forwarder = .sending chunk) :
      Move s .accept
        { s with
          forwarder := .ready
          sent := s.sent ++ [.binary chunk]
          toWorker := s.toWorker + chunk.length }
  | acceptClose (hf : s.forwarder = .ending) :
      Move s .accept { s with sent := s.sent ++ [Frame.close] }.beginClosing
  | refuse (chunk : Bytes) (hf : s.forwarder = .sending chunk) : Move s .refuse s.beginClosing
  | refuseClose (hf : s.forwarder = .ending) : Move s .refuse s.beginClosing
  | takeMessage (written : Nat) (m : Message) (rest : List Message)
      (hw : s.writer = .waiting written) (hi : s.inbox = m :: rest) :
      Move s .takeMessage ({ s with inbox := rest }.handle written m)
  | streamEnds (written : Nat) (hw : s.writer = .waiting written) (hi : s.inbox = [])
      (he : s.workerEnded = true) : Move s .streamEnds (s.endWriter written)
  | deliver (n written : Nat) (rest : Bytes) (size : Nat)
      (hw : s.writer = .writing written rest size) (h₁ : 1 ≤ n) (h₂ : n ≤ rest.length)
      (hg : s.sshGone = false) :
      Move s (.deliver n)
        { s with
          received := s.received ++ rest.take n
          writer := if n = rest.length then .waiting (written + size)
            else .writing written (rest.drop n) size }
  | deliverFails (written : Nat) (rest : Bytes) (size : Nat)
      (hw : s.writer = .writing written rest size) (hg : s.sshGone = true) :
      Move s .deliverFails (s.endWriter written)
  | writerEnds (deadline written : Nat) (hf : s.forwarder = .closing deadline)
      (hw : s.writer = .done written) : Move s .writerEnds (s.finishClosing written)
  | graceEnds (deadline : Nat) (hf : s.forwarder = .closing deadline)
      (hw : s.writer.isRunning = true) (hd : deadline ≤ s.now) :
      Move s .graceEnds (s.finishClosing 0)

section
variable {s t : State}

theorem move_of_read {n : Nat} (h : s.step? (.read n) = some t) : Move s (.read n) t := by
  cases hr : s.reader with
  | reading =>
      simp only [State.step?, hr, Option.ite_none_right_eq_some, Option.some.injEq] at h
      obtain ⟨⟨h₁, h₂, h₃⟩, rfl⟩ := h
      exact .read n hr h₁ h₂ h₃
  | _ => simp [State.step?, hr] at h

theorem move_of_readEnd (h : s.step? .readEnd = some t) : Move s .readEnd t := by
  cases hr : s.reader with
  | reading =>
      simp only [State.step?, hr, Option.ite_none_right_eq_some, Bool.and_eq_true,
        List.isEmpty_iff, Option.some.injEq] at h
      obtain ⟨⟨hi, he⟩, rfl⟩ := h
      exact .readEnd hr hi he
  | _ => simp [State.step?, hr] at h

theorem move_of_readFails (h : s.step? .readFails = some t) : Move s .readFails t := by
  cases hr : s.reader with
  | reading =>
      simp only [State.step?, hr, Option.ite_none_right_eq_some, Option.some.injEq] at h
      obtain ⟨hg, rfl⟩ := h
      exact .readFails hr hg
  | _ => simp [State.step?, hr] at h

theorem move_of_enqueue (h : s.step? .enqueue = some t) : Move s .enqueue t := by
  cases hr : s.reader with
  | holding chunk =>
      simp only [State.step?, hr, Option.ite_none_right_eq_some, Option.some.injEq] at h
      obtain ⟨hq, rfl⟩ := h
      exact .enqueue chunk hr hq
  | _ => simp [State.step?, hr] at h

theorem move_of_readerStops (h : s.step? .readerStops = some t) : Move s .readerStops t := by
  cases hr : s.reader with
  | reading =>
      simp only [State.step?, hr, Option.ite_none_right_eq_some, Option.some.injEq] at h
      obtain ⟨hc, rfl⟩ := h
      exact .readerStops hr hc
  | _ => simp [State.step?, hr] at h

theorem move_of_dialEnds (h : s.step? .dialEnds = some t) : Move s .dialEnds t := by
  cases hf : s.forwarder with
  | dialing =>
      cases hd : s.dial with
      | pending => simp [State.step?, hf, hd] at h
      | «open» =>
          simp only [State.step?, hf, hd, Option.some.injEq] at h
          subst h
          simpa only [hd] using Move.dialOpens hf hd
      | failed e =>
          simp only [State.step?, hf, hd, Option.some.injEq] at h
          subst h
          exact .dialFails e hf hd
  | _ => simp [State.step?, hf] at h

theorem move_of_forwarderStops (h : s.step? .forwarderStops = some t) :
    Move s .forwarderStops t := by
  cases hf : s.forwarder with
  | dialing =>
      simp only [State.step?, hf, Option.ite_none_right_eq_some, Option.some.injEq] at h
      obtain ⟨hc, rfl⟩ := h
      exact .dialStops hf hc
  | ready =>
      simp only [State.step?, hf, Option.ite_none_right_eq_some, Option.some.injEq] at h
      obtain ⟨hc, rfl⟩ := h
      exact .loopStops hf hc
  | _ => simp [State.step?, hf] at h

theorem move_of_takeChunk (h : s.step? .takeChunk = some t) : Move s .takeChunk t := by
  cases hf : s.forwarder with
  | ready =>
      cases hq : s.queue with
      | nil => simp [State.step?, hf, hq] at h
      | cons chunk rest =>
          simp only [State.step?, hf, hq, Option.some.injEq] at h
          subst h
          exact .takeChunk chunk rest hf hq
  | _ => simp [State.step?, hf] at h

theorem move_of_queueEnds (h : s.step? .queueEnds = some t) : Move s .queueEnds t := by
  cases hr : s.reader with
  | done =>
      cases hf : s.forwarder with
      | ready =>
          simp only [State.step?, hr, hf, Option.ite_none_right_eq_some, List.isEmpty_iff,
            Option.some.injEq] at h
          obtain ⟨hq, rfl⟩ := h
          simpa only [hr] using Move.queueEnds hr hf hq
      | _ => simp [State.step?, hr, hf] at h
  | _ => simp [State.step?, hr] at h

theorem move_of_accept (h : s.step? .accept = some t) : Move s .accept t := by
  cases hf : s.forwarder with
  | sending chunk =>
      simp only [State.step?, hf, Option.some.injEq] at h
      subst h
      exact .accept chunk hf
  | ending =>
      simp only [State.step?, hf, Option.some.injEq] at h
      subst h
      exact .acceptClose hf
  | _ => simp [State.step?, hf] at h

theorem move_of_refuse (h : s.step? .refuse = some t) : Move s .refuse t := by
  cases hf : s.forwarder with
  | sending chunk =>
      simp only [State.step?, hf, Option.some.injEq] at h
      subst h
      exact .refuse chunk hf
  | ending =>
      simp only [State.step?, hf, Option.some.injEq] at h
      subst h
      exact .refuseClose hf
  | _ => simp [State.step?, hf] at h

theorem move_of_takeMessage (h : s.step? .takeMessage = some t) : Move s .takeMessage t := by
  cases hw : s.writer with
  | waiting n =>
      cases hi : s.inbox with
      | nil => simp [State.step?, hw, hi] at h
      | cons m rest =>
          simp only [State.step?, hw, hi, Option.some.injEq] at h
          subst h
          simpa only [hw] using Move.takeMessage n m rest hw hi
  | _ => simp [State.step?, hw] at h

theorem move_of_streamEnds (h : s.step? .streamEnds = some t) : Move s .streamEnds t := by
  cases hw : s.writer with
  | waiting n =>
      simp only [State.step?, hw, Option.ite_none_right_eq_some, Bool.and_eq_true,
        List.isEmpty_iff, Option.some.injEq] at h
      obtain ⟨⟨hi, he⟩, rfl⟩ := h
      exact .streamEnds n hw hi he
  | _ => simp [State.step?, hw] at h

theorem move_of_deliver {n : Nat} (h : s.step? (.deliver n) = some t) : Move s (.deliver n) t := by
  cases hw : s.writer with
  | writing m rest size =>
      simp only [State.step?, hw, Option.ite_none_right_eq_some, Option.some.injEq] at h
      obtain ⟨⟨h₁, h₂, hg⟩, rfl⟩ := h
      exact .deliver n m rest size hw h₁ h₂ hg
  | _ => simp [State.step?, hw] at h

theorem move_of_deliverFails (h : s.step? .deliverFails = some t) : Move s .deliverFails t := by
  cases hw : s.writer with
  | writing m rest size =>
      simp only [State.step?, hw, Option.ite_none_right_eq_some, Option.some.injEq] at h
      obtain ⟨hg, rfl⟩ := h
      exact .deliverFails m rest size hw hg
  | _ => simp [State.step?, hw] at h

theorem move_of_writerEnds (h : s.step? .writerEnds = some t) : Move s .writerEnds t := by
  cases hf : s.forwarder with
  | closing deadline =>
      cases hw : s.writer with
      | done n =>
          simp only [State.step?, hf, hw, Option.some.injEq] at h
          subst h
          exact .writerEnds deadline n hf hw
      | _ => simp [State.step?, hf, hw] at h
  | _ => simp [State.step?, hf] at h

theorem move_of_graceEnds (h : s.step? .graceEnds = some t) : Move s .graceEnds t := by
  cases hf : s.forwarder with
  | closing deadline =>
      simp only [State.step?, hf, Option.ite_none_right_eq_some, Bool.and_eq_true,
        decide_eq_true_eq, Option.some.injEq] at h
      obtain ⟨⟨hw, hd⟩, rfl⟩ := h
      exact .graceEnds deadline hf hw hd
  | _ => simp [State.step?, hf] at h

/-- An action does nothing but what one of the moves says. -/
theorem move_of_step? {a : Action} (h : s.step? a = some t) : Move s a t := by
  cases a with
  | read n => exact move_of_read h
  | readEnd => exact move_of_readEnd h
  | readFails => exact move_of_readFails h
  | enqueue => exact move_of_enqueue h
  | readerStops => exact move_of_readerStops h
  | dialEnds => exact move_of_dialEnds h
  | forwarderStops => exact move_of_forwarderStops h
  | takeChunk => exact move_of_takeChunk h
  | queueEnds => exact move_of_queueEnds h
  | accept => exact move_of_accept h
  | refuse => exact move_of_refuse h
  | takeMessage => exact move_of_takeMessage h
  | streamEnds => exact move_of_streamEnds h
  | deliver n => exact move_of_deliver h
  | deliverFails => exact move_of_deliverFails h
  | writerEnds => exact move_of_writerEnds h
  | graceEnds => exact move_of_graceEnds h

end

end TunnelSync.Relay
