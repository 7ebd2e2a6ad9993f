import TunnelSync.Proofs.Relay.Progress
import TunnelSync.Proofs.Relay.Count

/-!
# How a relay returns

A relay returns in one step, and what it knows of the dial and of the cancellation in that step
decides its result. All of its tasks are over then, whichever way it has taken: the reader is
stopped with the forwarder, and the writer has come to its end, or is stopped, or was never begun.
So nothing that happens afterwards moves another byte.

* `dialed` : the result of the dial
* `Recorded` : what a relay knows is what the events of its run say
* `Decides` : how a relay comes to its result
* `Returns` : the runs whose last step is the return
* `return_of_run` : the result of a relay, and that it is final
-/

namespace TunnelSync.Relay

/-! ### What a relay knows -/

/-- The result with which a dial ends. -/
def Event.dialed? : Event → Option (Except SyncError Unit)
  | .dialEnds r => some r
  | _ => none

/-- The result of the dial. A dial ends once. -/
def dialed (es : List Event) : Option (Except SyncError Unit) := es.findSome? Event.dialed?

theorem dialed_append (es more : List Event) :
    dialed (es ++ more) = (dialed es).or (dialed more) := List.findSome?_append

/-- How the dial stands with such a result. -/
def Dial.ofResult : Option (Except SyncError Unit) → Dial
  | none => .pending
  | some (.ok ()) => .open
  | some (.error e) => .failed e

theorem Dial.ofResult_eq_open_iff {r : Option (Except SyncError Unit)} :
    Dial.ofResult r = .open ↔ r = some (.ok ()) := by
  rcases r with - | (e | ⟨⟩) <;> simp [Dial.ofResult]

theorem Dial.ofResult_eq_failed_iff {r : Option (Except SyncError Unit)} {e : SyncError} :
    Dial.ofResult r = .failed e ↔ r = some (.error e) := by
  rcases r with - | (e' | ⟨⟩) <;> simp [Dial.ofResult]

/-- What a relay knows of the dial, of the cancellation and of ssh is what has happened. -/
structure Recorded (steps : List Step) (s : State) : Prop where
  dial : s.dial = .ofResult (dialed (events steps))
  cancelled : s.cancelled = true ↔ .event .cancel ∈ steps
  gone : s.sshGone = true ↔ .event .sshVanishes ∈ steps

theorem Move.known {s t : State} {a : Action} (h : Move s a t) :
    t.dial = s.dial ∧ t.cancelled = s.cancelled ∧ t.sshGone = s.sshGone := by
  cases h with
  | takeMessage n m rest hw hi =>
      obtain ⟨w, closed, heq⟩ := handle_eq { s with inbox := rest } n m
      rw [heq]
      exact ⟨rfl, rfl, rfl⟩
  | _ => exact ⟨rfl, rfl, rfl⟩

namespace Recorded

variable {steps : List Step} {s t : State}

theorem initial : Recorded [] .initial := ⟨rfl, by simp [State.initial], by simp [State.initial]⟩

theorem action {a : Action} (inv : Recorded steps s) (h : Move s a t) :
    Recorded (steps ++ [.action a]) t := by
  obtain ⟨hd, hc, hg⟩ := h.known
  refine ⟨?_, ?_, ?_⟩
  · rw [hd, events_append_action]
    exact inv.dial
  · simpa [hc] using inv.cancelled
  · simpa [hg] using inv.gone

theorem other (inv : Recorded steps s) {e : Event} (he : e.dialed? = none) (hc : e ≠ .cancel)
    (hv : e ≠ .sshVanishes)
    (hs : t.dial = s.dial ∧ t.cancelled = s.cancelled ∧ t.sshGone = s.sshGone) :
    Recorded (steps ++ [.event e]) t := by
  obtain ⟨hd, hc', hg⟩ := hs
  refine ⟨?_, ?_, ?_⟩
  · rw [hd, events_append_event, dialed_append]
    simpa [dialed, he] using inv.dial
  · simpa [hc', hc.symm] using inv.cancelled
  · simpa [hg, hv.symm] using inv.gone

theorem event (inv : Recorded steps s) (e : Event) :
    Recorded (steps ++ [.event e]) (s.apply e) := by
  cases e with
  | sshWrites data =>
      refine inv.other rfl (by simp) (by simp) ?_
      rw [State.apply]
      split <;> exact ⟨rfl, rfl, rfl⟩
  | workerSends m =>
      refine inv.other rfl (by simp) (by simp) ?_
      rw [State.apply]
      split <;> exact ⟨rfl, rfl, rfl⟩
  | sshEnds => exact inv.other rfl (by simp) (by simp) ⟨rfl, rfl, rfl⟩
  | workerEnds => exact inv.other rfl (by simp) (by simp) ⟨rfl, rfl, rfl⟩
  | timePasses ms => exact inv.other rfl (by simp) (by simp) ⟨rfl, rfl, rfl⟩
  | cancel =>
      refine ⟨?_, by simp [State.apply], by simpa [State.apply] using inv.gone⟩
      simpa [State.apply, dialed_append, dialed, Event.dialed?] using inv.dial
  | sshVanishes =>
      refine ⟨?_, by simpa [State.apply] using inv.cancelled, by simp [State.apply]⟩
      simpa [State.apply, dialed_append, dialed, Event.dialed?] using inv.dial
  | dialEnds r =>
      have hd := inv.dial
      have hlast : dialed [.dialEnds r] = some r := rfl
      cases hp : dialed (events steps) with
      | none =>
          rw [hp, Dial.ofResult] at hd
          refine ⟨?_, by simpa [State.apply, hd] using inv.cancelled,
            by simpa [State.apply, hd] using inv.gone⟩
          rw [events_append_event, dialed_append, hp, hlast]
          simp only [State.apply, hd, Option.none_or]
          rcases r with e | ⟨⟩ <;> rfl
      | some first =>
          -- the dial has ended before, and ends once
          have hkept : s.apply (.dialEnds r) = s := by
            rw [hp] at hd
            rcases first with e | ⟨⟩ <;> simp [State.apply, hd, Dial.ofResult]
          rw [hkept]
          refine ⟨?_, by simpa using inv.cancelled, by simpa using inv.gone⟩
          rw [events_append_event, dialed_append, hp, Option.some_or, ← hp]
          exact inv.dial

end Recorded

theorem Run.recorded {steps : List Step} {s : State} (run : Run steps s) : Recorded steps s := by
  induction run with
  | start => exact .initial
  | event _ e ih => exact ih.event e
  | action _ a ha ih => exact ih.action (move_of_step? ha)

theorem events_append (steps more : List Step) :
    events (steps ++ more) = events steps ++ events more := List.filterMap_append

/-! ### Without a WebSocket -/

theorem apply_sent (s : State) (e : Event) : (s.apply e).sent = s.sent := by
  cases e <;> simp only [State.apply] <;> split <;> rfl

theorem apply_reader (s : State) (e : Event) : (s.apply e).reader = s.reader := by
  cases e <;> simp only [State.apply] <;> split <;> rfl

theorem apply_readClosed (s : State) (e : Event) : (s.apply e).readClosed = s.readClosed := by
  cases e <;> simp only [State.apply] <;> split <;> rfl

/-- Without a dial that has succeeded nothing is sent, and no writer is begun. -/
theorem Run.unopened {steps : List Step} {s : State} (run : Run steps s) (hd : s.dial ≠ .open) :
    s.sent = [] ∧ s.received = [] ∧ s.writer = .notStarted := by
  induction run with
  | start => exact ⟨rfl, rfl, rfl⟩
  | event _ e ih =>
      rw [apply_sent, apply_received, apply_writer]
      exact ih fun h => hd (apply_dial h e)
  | @action _ s _ run a ha ih =>
      have hmove := move_of_step? ha
      rw [hmove.known.1] at hd
      obtain ⟨hsent, hreceived, hwriter⟩ := ih hd
      -- neither the forwarder nor the writer can have a WebSocket
      have hnot : s.forwarder.isConnected ≠ true := fun h => hd (run.standing.opened h)
      have habort : s.writer.abort = .notStarted := by rw [hwriter]; rfl
      cases hmove with
      | dialOpens hf hopen => exact absurd hopen hd
      | dialFails e hf hfailed => exact ⟨hsent, hreceived, habort⟩
      | dialStops hf hc => exact ⟨hsent, hreceived, habort⟩
      | accept chunk hf => exact absurd (by rw [hf]; rfl) hnot
      | acceptClose hf => exact absurd (by rw [hf]; rfl) hnot
      | takeMessage n m rest hw hi => rw [hwriter] at hw; cases hw
      | streamEnds n hw hi he => rw [hwriter] at hw; cases hw
      | deliver k n rest size hw h₁ h₂ hg => rw [hwriter] at hw; cases hw
      | deliverFails n rest size hw hg => rw [hwriter] at hw; cases hw
      | writerEnds deadline n hf hw => exact absurd (by rw [hf]; rfl) hnot
      | graceEnds deadline hf hw hnow => exact absurd (by rw [hf]; rfl) hnot
      | _ => exact ⟨hsent, hreceived, hwriter⟩

/-! ### After the return -/

/-- The reader is over when the forwarder may not send any more. -/
theorem Run.reader_done {steps : List Step} {s : State} (run : Run steps s)
    (hf : s.forwarder.isForwarding = false) : s.reader = .done := by
  induction run with
  | start => cases hf
  | event _ e ih =>
      rw [apply_forwarder] at hf
      rw [apply_reader]
      exact ih hf
  | @action _ s _ run a ha ih =>
      cases move_of_step? ha with
      | read n hr h₁ h₂ h₃ => rw [ih hf] at hr; cases hr
      | enqueue chunk hr hq => rw [ih hf] at hr; cases hr
      | takeMessage n m rest hw hi =>
          obtain ⟨w, closed, heq⟩ := handle_eq { s with inbox := rest } n m
          rw [heq] at hf ⊢
          exact ih hf
      | streamEnds n hw hi he => exact ih hf
      | deliver k n rest size hw h₁ h₂ hg => exact ih hf
      | deliverFails n rest size hw hg => exact ih hf
      | _ => first | rfl | cases hf

/-- No task of a relay that has returned can take a step. -/
theorem Run.atRest {steps : List Step} {s : State} (run : Run steps s)
    {r : Except SyncError Counts} (hf : s.forwarder = .finished r) : s.AtRest := by
  have hreader : s.reader = .done := run.reader_done (by rw [hf]; rfl)
  have hwriter := run.isRunning_eq_false hf
  intro a
  cases hstep : s.step? a with
  | none => rfl
  | some t =>
      cases move_of_step? hstep with
      | read n hr h₁ h₂ h₃ => rw [hreader] at hr; cases hr
      | readEnd hr hi he => rw [hreader] at hr; cases hr
      | readFails hr hg => rw [hreader] at hr; cases hr
      | enqueue chunk hr hq => rw [hreader] at hr; cases hr
      | readerStops hr hc => rw [hreader] at hr; cases hr
      | takeMessage n m rest hw hi => rw [hw] at hwriter; cases hwriter
      | streamEnds n hw hi he => rw [hw] at hwriter; cases hwriter
      | deliver k n rest size hw h₁ h₂ hg => rw [hw] at hwriter; cases hwriter
      | deliverFails n rest size hw hg => rw [hw] at hwriter; cases hwriter
      | _ => simp_all

/-- What happens after the return changes neither the result nor what the ends have received. -/
theorem Run.final {steps more : List Step} {s t : State} (run : Run steps s)
    {r : Except SyncError Counts} (hf : s.forwarder = .finished r)
    (h : more.foldlM State.perform? s = some t) :
    t.sent = s.sent ∧ t.received = s.received ∧ t.readClosed = s.readClosed ∧
      t.forwarder = .finished r := by
  induction more generalizing steps s with
  | nil =>
      obtain rfl : s = t := by simpa using h
      exact ⟨rfl, rfl, rfl, hf⟩
  | cons x more ih =>
      obtain ⟨u, hu, ht⟩ : ∃ u, s.perform? x = some u ∧ more.foldlM State.perform? u = some t := by
        simpa [List.foldlM_cons, Option.bind_eq_some_iff] using h
      cases x with
      | event e =>
          cases hu
          have hrest := ih (run.event e) (by rw [apply_forwarder, hf]) ht
          rwa [apply_sent, apply_received, apply_readClosed] at hrest
      | action a =>
          have hnone := run.atRest hf a
          rw [State.perform?, hnone] at hu
          cases hu

/-! ### The return -/

/-- How a relay comes to its result. -/
inductive Decides (s : State) : Except SyncError Counts → Prop
  | dialFailed (e : SyncError) (hd : s.dial = .failed e) : Decides s (.error e)
  | cancelled (hc : s.cancelled = true) : Decides s (.error .cancelled)
  | counted (c : Counts) (hd : s.dial = .open) (hc : s.cancelled = false) : Decides s (.ok c)

/-- The runs whose last step is the return of the relay. -/
inductive Returns : List Step → State → Except SyncError Counts → Prop
  | last {steps : List Step} {s t : State} (run : Run steps s) (hs : s.result? = none) {a : Action}
      (ha : s.step? a = some t) {r : Except SyncError Counts} (ht : t.result? = some r) :
      Returns (steps ++ [.action a]) t r

/-- A relay that returns knows why, and ssh reads no more. -/
theorem Move.decides {steps : List Step} {s t : State} {a : Action} (run : Run steps s)
    (h : Move s a t) (hs : s.result? = none) {r : Except SyncError Counts}
    (ht : t.result? = some r) : Decides s r ∧ (t.readClosed = true ∨ s.sshGone = true) := by
  have hclosed (u : State) (r : Except SyncError Counts) :
      (u.finish r).readClosed = true ∨ u.sshGone = true := by
    cases hg : u.sshGone <;> simp [State.finish, State.closeRead, hg]
  have hcounted (n : Nat) (hd : s.dial = .open) (hr : (s.finishClosing n).result? = some r) :
      Decides s r := by
    cases hc : s.cancelled with
    | true =>
        simp only [State.finishClosing, hc, if_true] at hr
        cases hr
        exact .cancelled hc
    | false =>
        simp only [State.finishClosing, hc, Bool.false_eq_true, if_false] at hr
        cases hr
        exact .counted _ hd hc
  cases h with
  | dialFails e hf hd =>
      cases ht
      exact ⟨.dialFailed e hd, hclosed s _⟩
  | dialStops hf hc =>
      cases ht
      exact ⟨.cancelled hc, hclosed s _⟩
  | writerEnds deadline n hf hw =>
      exact ⟨hcounted n (run.standing.opened (by rw [hf]; rfl)) ht, hclosed s _⟩
  | graceEnds deadline hf hw hd =>
      exact ⟨hcounted 0 (run.standing.opened (by rw [hf]; rfl)) ht, hclosed s _⟩
  | takeMessage n m rest hw hi =>
      obtain ⟨w, closed, heq⟩ := handle_eq { s with inbox := rest } n m
      rw [heq] at ht
      cases hs.symm.trans ht
  | _ => first | cases hs.symm.trans ht | cases ht

/-- A relay that has returned did so in one of its steps. -/
theorem Run.exists_returns {steps : List Step} {s : State} (run : Run steps s)
    {r : Except SyncError Counts} (hr : s.result? = some r) :
    ∃ before after v, steps = before ++ after ∧ Returns before v r ∧
      after.foldlM State.perform? v = some s := by
  induction run with
  | start => cases hr
  | @event _ s run e ih =>
      have hs : s.result? = some r := by
        rw [State.result?_eq_some_iff] at hr ⊢
        rwa [apply_forwarder] at hr
      obtain ⟨before, after, v, rfl, hv, hafter⟩ := ih hs
      refine ⟨before, after ++ [.event e], v, by simp, hv, ?_⟩
      simp [List.foldlM_append, hafter, State.perform?]
  | @action steps s t run a ha ih =>
      cases hs : s.result? with
      | none => exact ⟨_, [], t, by simp, .last run hs ha hr, rfl⟩
      | some r' =>
          -- a relay that had returned before takes no step
          have hnone := run.atRest (State.result?_eq_some_iff.mp hs) a
          rw [hnone] at ha
          cases ha

theorem Returns.run {steps : List Step} {s : State} {r : Except SyncError Counts}
    (h : Returns steps s r) : Run steps s ∧ s.forwarder = .finished r := by
  obtain ⟨run, hs, ha, ht⟩ := h
  exact ⟨run.action _ ha, State.result?_eq_some_iff.mp ht⟩

theorem Returns.decided {steps : List Step} {s : State} {r : Except SyncError Counts}
    (h : Returns steps s r) : Decides s r ∧ (s.readClosed = true ∨ s.sshGone = true) := by
  obtain ⟨run, hs, ha, hr⟩ := h
  have hmove := move_of_step? ha
  obtain ⟨hd, hc, hg⟩ := hmove.known
  obtain ⟨hdecides, hclosed⟩ := hmove.decides run hs hr
  rw [hg]
  refine ⟨?_, hclosed⟩
  cases hdecides with
  | dialFailed e hfailed => exact .dialFailed e (hd.trans hfailed)
  | cancelled hcancelled => exact .cancelled (hc.trans hcancelled)
  | counted c hopen hnot => exact .counted c (hd.trans hopen) (hc.trans hnot)

theorem Run.result_eq_of_failed {steps : List Step} {s : State} (run : Run steps s) {e : SyncError}
    (he : dialed (events steps) = some (.error e)) (hc : .event .cancel ∉ steps)
    {r : Except SyncError Counts} (hr : s.result? = some r) : r = .error e := by
  obtain ⟨before, after, v, rfl, hv, -⟩ := run.exists_returns hr
  have inv := hv.run.1.recorded
  have hdialed {x : Except SyncError Unit} (hx : dialed (events before) = some x) :
      x = .error e := by
    rw [events_append, dialed_append, hx, Option.some_or] at he
    exact Option.some.inj he
  cases hv.decided.1 with
  | dialFailed e' hd =>
      cases hdialed (Dial.ofResult_eq_failed_iff.mp (inv.dial.symm.trans hd))
      rfl
  | cancelled h => exact absurd (List.mem_append_left _ (inv.cancelled.mp h)) hc
  | counted c hd h => cases hdialed (Dial.ofResult_eq_open_iff.mp (inv.dial.symm.trans hd))

theorem Run.exists_result_of_failed {steps : List Step} {s : State} (run : Run steps s)
    {e : SyncError} (hd : s.dial = .failed e) (hrest : s.AtRest) : ∃ r, s.result? = some r := by
  have hopened (h : s.forwarder.isConnected = true) : False := by
    rw [run.standing.opened h] at hd
    cases hd
  cases hf : s.forwarder with
  | dialing =>
      rw [(hrest.of_dialing hf).2] at hd
      cases hd
  | finished r => exact ⟨r, State.result?_eq_some_iff.mpr hf⟩
  | _ => exact (hopened (by rw [hf]; rfl)).elim

/-- **What a relay returns, and that it is final.** Without a dial that has succeeded nothing goes
to the worker or to ssh. A relay whose dial fails, and that nothing cancels, returns the error of
the dial, after a bounded number of steps in whatever order its tasks run. A relay that has returned
did so at some moment: with counts only if the dial had succeeded and nothing had cancelled it, and
after a cancellation with that, or with the error of the dial. What ssh reads had come to its end
then, unless ssh was gone, and whatever happens after it, nothing more goes to either side. -/
theorem return_of_run {steps : List Step} {s : State} (run : Run steps s) :
    (dialed (events steps) ≠ some (.ok ()) → s.sent = [] ∧ s.received = []) ∧
    (∀ e, dialed (events steps) = some (.error e) → .event .cancel ∉ steps →
      (∀ r, s.result? = some r → r = .error e) ∧
      ∃ bound, ∀ (as : List Action) (t : State), as.foldlM State.step? s = some t →
        as.length ≤ bound ∧ (t.AtRest → t.result? = some (.error e))) ∧
    ∀ r, s.result? = some r →
      ∃ before after v, steps = before ++ after ∧ Returns before v r ∧
        after.foldlM State.perform? v = some s ∧
        (∀ c, r = .ok c → dialed (events before) = some (.ok ()) ∧ .event .cancel ∉ before) ∧
        (.event .cancel ∈ before →
          r = .error .cancelled ∨ ∃ e, dialed (events before) = some (.error e) ∧ r = .error e) ∧
        (v.readClosed = true ∨ .event .sshVanishes ∈ before) ∧
        ∀ (more : List Step) (t : State), more.foldlM State.perform? v = some t →
          t.sent = v.sent ∧ t.received = v.received ∧ t.readClosed = v.readClosed ∧
            t.result? = some r := by
  refine ⟨fun hd => ?_, fun e he hc => ⟨fun r hr => run.result_eq_of_failed he hc hr, ?_⟩,
    fun r hr => ?_⟩
  · obtain ⟨hsent, hreceived, -⟩ := run.unopened fun h =>
      hd (Dial.ofResult_eq_open_iff.mp (run.recorded.dial.symm.trans h))
    exact ⟨hsent, hreceived⟩
  · refine ⟨s.rank, fun as t h => ?_⟩
    have hbound := length_le_rank h
    have hmore : (as.map Step.action).foldlM State.perform? s = some t := by
      rw [List.foldlM_map]
      exact h
    have run' := run.append hmore
    have he' : dialed (events (steps ++ as.map Step.action)) = some (.error e) := by
      rw [events_append, dialed_append, he, Option.some_or]
    refine ⟨by omega, fun hrest => ?_⟩
    obtain ⟨r, hr⟩ := run'.exists_result_of_failed
      (run'.recorded.dial.trans (Dial.ofResult_eq_failed_iff.mpr he')) hrest
    rwa [run'.result_eq_of_failed he' (by simpa using hc) hr] at hr
  · obtain ⟨before, after, v, hsteps, hv, hafter⟩ := run.exists_returns hr
    obtain ⟨hrun, hf⟩ := hv.run
    obtain ⟨hdecides, hclosed⟩ := hv.decided
    have inv := hrun.recorded
    refine ⟨before, after, v, hsteps, hv, hafter, ?_, fun hc => ?_, hclosed.imp_right inv.gone.mp,
      fun more t ht => ?_⟩
    · rintro c rfl
      cases hdecides with
      | counted c hd hn =>
          refine ⟨Dial.ofResult_eq_open_iff.mp (inv.dial.symm.trans hd), fun hc => ?_⟩
          rw [inv.cancelled.mpr hc] at hn
          cases hn
    · cases hdecides with
      | dialFailed e hd =>
          exact .inr ⟨e, Dial.ofResult_eq_failed_iff.mp (inv.dial.symm.trans hd), rfl⟩
      | cancelled _ => exact .inl rfl
      | counted c hd hn =>
          rw [inv.cancelled.mpr hc] at hn
          cases hn
    · obtain ⟨hsent, hreceived, hread, hf'⟩ := hrun.final hf ht
      exact ⟨hsent, hreceived, hread, State.result?_eq_some_iff.mpr hf'⟩

/-- ssh writes, and the dial fails before the reader has queued what it read. -/
def refusedDial : List Step :=
  [.event (.sshWrites [1, 2, 3]), .action (.read 3),
    .event (.dialEnds (.error (.connection "refused".toList))), .action .enqueue]

/-- The relay is cancelled while it sends, and the grace is over before the worker has answered.
What the worker and ssh do then is too late. -/
def cancelledLate : List Step :=
  [.event (.sshWrites [1, 2, 3]), .action (.read 3), .action .enqueue,
    .event (.dialEnds (.ok ())), .action .dialEnds, .event (.workerSends (.binary [7])),
    .action .takeMessage, .action (.deliver 1), .action .takeChunk, .event .cancel,
    .action .accept, .action .forwarderStops, .event (.timePasses 2000), .action .graceEnds,
    .event (.workerSends (.binary [8])), .event (.sshWrites [4]), .event (.timePasses 1)]

theorem return_of_run_late :
    (∃ s t, Run refusedDial s ∧ s.step? .dialEnds = some t ∧ s.sent = [] ∧ s.received = [] ∧
      t.result? = some (.error (.connection "refused".toList))) ∧
    ∃ s before v, Run cancelledLate s ∧ Returns before v (.error .cancelled) ∧
      v.readClosed = true ∧ v.sent = [.binary [1, 2, 3]] ∧ v.received = [7] := by
  constructor
  · obtain ⟨s, hs⟩ : ∃ s, refusedDial.foldlM State.perform? .initial = some s := ⟨_, rfl⟩
    have run : Run refusedDial s := Run.start.append hs
    obtain ⟨hnothing, hfailed, -⟩ := return_of_run run
    have hdial : dialed (events refusedDial) = some (.error (.connection "refused".toList)) := rfl
    obtain ⟨hsent, hreceived⟩ := hnothing (by rw [hdial]; nofun)
    obtain ⟨-, bound, hreturns⟩ := hfailed _ hdial (by simp [refusedDial])
    obtain ⟨t, ht⟩ : ∃ t, s.step? .dialEnds = some t := by cases hs; exact ⟨_, rfl⟩
    have hrest : t.AtRest := by
      intro a
      cases hs
      cases ht
      cases a <;> rfl
    obtain ⟨-, hresult⟩ := hreturns [.dialEnds] t (by simpa using ht)
    exact ⟨s, t, run, ht, hsent, hreceived, hresult hrest⟩
  · obtain ⟨s, hs⟩ : ∃ s, cancelledLate.foldlM State.perform? .initial = some s := ⟨_, rfl⟩
    have run : Run cancelledLate s := Run.start.append hs
    have hr : s.result? = some (.error .cancelled) := by cases hs; rfl
    obtain ⟨before, after, v, hsteps, hv, hafter, -, -, hclosed, hfinal⟩ :=
      (return_of_run run).2.2 _ hr
    obtain ⟨hsent, hreceived, -, -⟩ := hfinal after s hafter
    have hgone : .event .sshVanishes ∉ before := fun h => by
      have hmem : .event .sshVanishes ∈ cancelledLate := hsteps ▸ List.mem_append_left after h
      simp [cancelledLate] at hmem
    refine ⟨s, before, v, run, hv, hclosed.resolve_right hgone, ?_, ?_⟩
    · rw [← hsent]; cases hs; rfl
    · rw [← hreceived]; cases hs; rfl

end TunnelSync.Relay
