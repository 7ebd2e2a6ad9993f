import TunnelSync.Proofs.Relay.Run

/-!
# A relay does not get stuck

A state is at rest when none of the tasks can take a step. A task that waits for another one is not
enough for that: in each phase of the forwarder some task can go on, unless the relay waits for
the dial, for ssh, or for the end of the grace. And the tasks alone come to a rest, in whatever
order they run: every step takes something off `State.rank`.

* `State.AtRest`, `State.TimerPending` : no task can take a step, and the grace is not over
* `Standing` : what a relay that has not returned has behind it
* `State.rank` : a bound on the steps that the tasks can take by themselves
-/

namespace TunnelSync.Relay

/-- None of the tasks can take a step. -/
def State.AtRest (s : State) : Prop := ∀ a, s.step? a = none

/-- The forwarder waits for the writer, and the grace is not over. -/
def State.TimerPending (s : State) : Prop :=
  ∃ deadline, s.forwarder = .closing deadline ∧ s.now < deadline

/-- Whether the relay has got its WebSocket and has not returned. -/
def Forwarder.isConnected : Forwarder → Bool
  | .dialing => false
  | .finished _ => false
  | _ => true

/-! ### Where nothing can be done -/

namespace State.AtRest

variable {s : State}

theorem of_dialing (h : s.AtRest) (hf : s.forwarder = .dialing) :
    s.cancelled = false ∧ s.dial = .pending := by
  constructor
  · have hstop := h .forwarderStops
    simpa [State.step?, hf] using hstop
  · have hdial := h .dialEnds
    cases hd : s.dial with
    | pending => rfl
    | _ => simp [State.step?, hf, hd] at hdial

/-- A reader rests beside a queue with room only if it waits for ssh. -/
theorem of_room (h : s.AtRest) (hq : s.queue.length < queueDepth) (hr : s.reader ≠ .done) :
    s.reader = .reading ∧ s.inbound = [] ∧ s.sshEnded = false ∧ s.sshGone = false := by
  cases hreader : s.reader with
  | reading =>
      have hin : s.inbound = [] := by
        cases hi : s.inbound with
        | nil => rfl
        | cons b bs =>
            have hread := h (.read 1)
            simp [State.step?, hreader, hi, readSize] at hread
      have hend := h .readEnd
      simp only [State.step?, hreader, hin] at hend
      exact ⟨rfl, hin, by simpa using hend⟩
  | holding chunk =>
      have hput := h .enqueue
      simp [State.step?, hreader, hq] at hput
  | done => exact absurd hreader hr

/-- A forwarder that waits for a chunk rests only if nobody but ssh can bring one. -/
theorem of_ready (h : s.AtRest) (hf : s.forwarder = .ready) :
    s.cancelled = false ∧ s.queue = [] ∧ s.sshEnded = false ∧ s.sshGone = false := by
  have hc : s.cancelled = false := by
    have hstop := h .forwarderStops
    simpa [State.step?, hf] using hstop
  have hq : s.queue = [] := by
    cases hqueue : s.queue with
    | nil => rfl
    | cons chunk rest =>
        have htake := h .takeChunk
        simp [State.step?, hf, hqueue] at htake
  have hr : s.reader ≠ .done := by
    intro hr
    have hend := h .queueEnds
    simp [State.step?, hr, hf, hq] at hend
  obtain ⟨-, -, hended, hgone⟩ := h.of_room (by simp [hq, queueDepth]) hr
  exact ⟨hc, hq, hended, hgone⟩

theorem not_sending (h : s.AtRest) (chunk : Bytes) : s.forwarder ≠ .sending chunk := by
  intro hf
  have haccept := h .accept
  simp [State.step?, hf] at haccept

theorem not_ending (h : s.AtRest) : s.forwarder ≠ .ending := by
  intro hf
  have haccept := h .accept
  simp [State.step?, hf] at haccept

theorem of_closing (h : s.AtRest) {deadline : Nat} (hf : s.forwarder = .closing deadline)
    (hw : s.writer.isRunning = true ∨ ∃ n, s.writer = .done n) : s.now < deadline := by
  rcases hw with hw | ⟨n, hw⟩
  · have hgrace := h .graceEnds
    simpa [State.step?, hf, hw] using hgrace
  · have hend := h .writerEnds
    simp [State.step?, hf, hw] at hend

end State.AtRest

/-! ### What a relay has behind it -/

theorem apply_dial {s : State} (h : s.dial = .open) (e : Event) : (s.apply e).dial = .open := by
  cases e with
  | sshWrites data =>
      rw [State.apply]
      split <;> exact h
  | workerSends m =>
      rw [State.apply]
      split <;> exact h
  | dialEnds r => simp [State.apply, h]
  | sshEnds => exact h
  | sshVanishes => exact h
  | workerEnds => exact h
  | cancel => exact h
  | timePasses ms => exact h

/-- What a relay that has not returned has behind it. -/
structure Standing (steps : List Step) (s : State) : Prop where
  opened : s.forwarder.isConnected = true → s.dial = .open
  writer : s.forwarder.isConnected = true →
    s.writer.isRunning = true ∨ ∃ n, s.writer = .done n
  /-- A forwarder that may still send has not been refused anything. -/
  unrefused : s.forwarder.isForwarding = true → .action .refuse ∉ steps

namespace Standing

variable {steps : List Step} {s t : State}

theorem initial : Standing [] .initial := ⟨nofun, nofun, fun _ => List.not_mem_nil⟩

theorem event (inv : Standing steps s) (e : Event) :
    Standing (steps ++ [.event e]) (s.apply e) := by
  have hforwarder := apply_forwarder s e
  have hwriter := apply_writer s e
  refine ⟨?_, ?_, ?_⟩
  · rw [hforwarder]
    exact fun hf => apply_dial (inv.opened hf) e
  · rw [hforwarder, hwriter]
    exact inv.writer
  · rw [hforwarder]
    intro hf
    simpa using inv.unrefused hf

theorem other (inv : Standing steps s) {a : Action} (ha : a ≠ .refuse)
    (hf : t.forwarder = s.forwarder) (hw : t.writer = s.writer) (hd : t.dial = s.dial) :
    Standing (steps ++ [.action a]) t := by
  refine ⟨?_, ?_, ?_⟩
  · rw [hf, hd]
    exact inv.opened
  · rw [hf, hw]
    exact inv.writer
  · rw [hf]
    intro h
    simpa [Ne.symm ha] using inv.unrefused h

theorem forward (inv : Standing steps s) {a : Action} (hf : s.forwarder.isConnected = true)
    (ha : t.forwarder.isForwarding = true → s.forwarder.isForwarding = true ∧ a ≠ .refuse)
    (hw : t.writer = s.writer) (hd : t.dial = s.dial) : Standing (steps ++ [.action a]) t := by
  refine ⟨?_, ?_, ?_⟩
  · rw [hd]
    exact fun _ => inv.opened hf
  · rw [hw]
    exact fun _ => inv.writer hf
  · intro h
    obtain ⟨hs, hne⟩ := ha h
    simpa [Ne.symm hne] using inv.unrefused hs

theorem write (inv : Standing steps s) {a : Action} (ha : a ≠ .refuse)
    (hf : t.forwarder = s.forwarder) (hd : t.dial = s.dial)
    (hw : t.writer.isRunning = true ∨ ∃ n, t.writer = .done n) :
    Standing (steps ++ [.action a]) t := by
  refine ⟨?_, fun _ => hw, ?_⟩
  · rw [hf, hd]
    exact inv.opened
  · rw [hf]
    intro h
    simpa [Ne.symm ha] using inv.unrefused h

theorem returned {a : Action} {r : Except SyncError Counts} (hf : t.forwarder = .finished r) :
    Standing (steps ++ [.action a]) t := by
  refine ⟨?_, ?_, ?_⟩ <;> rw [hf] <;> exact nofun

theorem handle_writer {n : Nat} (hw : s.writer = .waiting n) (m : Message) :
    (s.handle n m).writer.isRunning = true ∨ ∃ k, (s.handle n m).writer = .done k := by
  unfold State.handle
  split
  all_goals first | exact .inr ⟨n, rfl⟩ | exact .inl rfl | exact .inl (by rw [hw]; rfl)

theorem action {a : Action} (inv : Standing steps s) (h : Move s a t) :
    Standing (steps ++ [.action a]) t := by
  cases h with
  | read n hr h₁ h₂ h₃ => exact inv.other nofun rfl rfl rfl
  | readEnd hr hi he => exact inv.other nofun rfl rfl rfl
  | readFails hr hg => exact inv.other nofun rfl rfl rfl
  | enqueue chunk hr hq => exact inv.other nofun rfl rfl rfl
  | readerStops hr hc => exact inv.other nofun rfl rfl rfl
  | dialOpens hf hd =>
      refine ⟨fun _ => hd, fun _ => .inl rfl, fun _ => ?_⟩
      simpa using inv.unrefused (by rw [hf]; rfl)
  | dialFails e hf hd => exact returned rfl
  | dialStops hf hc => exact returned rfl
  | loopStops hf hc => exact inv.forward (by rw [hf]; rfl) nofun rfl rfl
  | takeChunk chunk rest hf hq =>
      exact inv.forward (by rw [hf]; rfl) (fun _ => ⟨by rw [hf]; rfl, nofun⟩) rfl rfl
  | queueEnds hr hf hq =>
      exact inv.forward (by rw [hf]; rfl) (fun _ => ⟨by rw [hf]; rfl, nofun⟩) rfl rfl
  | accept chunk hf =>
      exact inv.forward (by rw [hf]; rfl) (fun _ => ⟨by rw [hf]; rfl, nofun⟩) rfl rfl
  | acceptClose hf => exact inv.forward (by rw [hf]; rfl) nofun rfl rfl
  | refuse chunk hf => exact inv.forward (by rw [hf]; rfl) nofun rfl rfl
  | refuseClose hf => exact inv.forward (by rw [hf]; rfl) nofun rfl rfl
  | takeMessage n m rest hw hi =>
      obtain ⟨w, c, heq⟩ := handle_eq { s with inbox := rest } n m
      have hrun := handle_writer (s := { s with inbox := rest }) hw m
      rw [heq] at hrun ⊢
      exact inv.write nofun rfl rfl hrun
  | streamEnds n hw hi he => exact inv.write nofun rfl rfl (.inr ⟨n, rfl⟩)
  | deliver k n rest size hw h₁ h₂ hg =>
      refine inv.write nofun rfl rfl (.inl ?_)
      dsimp only
      split <;> rfl
  | deliverFails n rest size hw hg => exact inv.write nofun rfl rfl (.inr ⟨n, rfl⟩)
  | writerEnds deadline n hf hw => exact returned rfl
  | graceEnds deadline hf hw hd => exact returned rfl

end Standing

theorem Run.standing {steps : List Step} {s : State} (run : Run steps s) : Standing steps s := by
  induction run with
  | start => exact .initial
  | event _ e ih => exact ih.event e
  | action _ a ha ih => exact ih.action (move_of_step? ha)

/-! ### Every step takes something off the rank -/

/-- The steps that the reader can take with what it holds. -/
def Reader.rank : Reader → Nat
  | .reading => 1
  | .holding _ => 4
  | .done => 0

/-- The steps that the forwarder can take to its end. -/
def Forwarder.rank : Forwarder → Nat
  | .dialing => 5
  | .sending _ => 4
  | .ready => 3
  | .ending => 2
  | .closing _ => 1
  | .finished _ => 0

/-- The steps that the writer can take with what it writes. -/
def Writer.rank : Writer → Nat
  | .notStarted => 1
  | .waiting _ => 1
  | .writing _ rest _ => 1 + rest.length
  | .done _ => 0
  | .aborted => 0

/-- The steps that a message can take: it is taken, and its bytes go to ssh alone or together. -/
def Message.rank : Message → Nat
  | .binary data => 1 + data.length
  | .text data => 1 + data.length
  | _ => 1

/-- The steps that messages can take one after the other. -/
def messagesRank : List Message → Nat
  | [] => 0
  | m :: rest => m.rank + messagesRank rest

/-- A bound on the steps that the tasks can take by themselves. Each byte of ssh may become a chunk
that is read, queued, taken and sent. -/
def State.rank (s : State) : Nat :=
  4 * s.inbound.length + s.reader.rank + 2 * s.queue.length + s.forwarder.rank + s.writer.rank
    + messagesRank s.inbox

section
variable {s t : State} {a : Action}

theorem Writer.rank_abort (w : Writer) : w.abort.rank ≤ w.rank := by
  cases w <;> simp [Writer.abort, Writer.isRunning, Writer.rank]

theorem rank_finish (r : Except SyncError Counts) :
    (s.finish r).rank + s.forwarder.rank ≤ s.rank := by
  have hw := Writer.rank_abort s.writer
  simp only [State.rank, State.finish, State.closeRead, Reader.rank, Forwarder.rank]
  omega

theorem rank_beginClosing : s.beginClosing.rank + s.forwarder.rank ≤ s.rank + 1 := by
  simp only [State.rank, State.beginClosing, Reader.rank, Forwarder.rank]
  omega

theorem rank_handle {n : Nat} (hw : s.writer = .waiting n) (m : Message) :
    (s.handle n m).rank < s.rank + m.rank := by
  unfold State.handle
  split <;> simp only [State.rank, State.endWriter, State.closeRead, hw, Writer.rank, Message.rank]
    <;> omega

theorem Move.rank_lt (h : Move s a t) : t.rank < s.rank := by
  cases h with
  | read n hr h₁ h₂ h₃ =>
      simp only [State.rank, hr, Reader.rank, List.length_drop]
      omega
  | readEnd hr hi he => simp [State.rank, hr, Reader.rank]
  | readFails hr hg => simp [State.rank, hr, Reader.rank]
  | enqueue chunk hr hq =>
      simp only [State.rank, hr, Reader.rank, List.length_append, List.length_singleton]
      omega
  | readerStops hr hc => simp [State.rank, hr, Reader.rank]
  | dialOpens hf hd =>
      simp only [State.rank, hf, Forwarder.rank, Writer.rank]
      omega
  | dialFails e hf hd =>
      have hle := rank_finish (s := s) (.error e)
      simp only [hf, Forwarder.rank] at hle
      omega
  | dialStops hf hc =>
      have hle := rank_finish (s := s) (.error .cancelled)
      simp only [hf, Forwarder.rank] at hle
      omega
  | loopStops hf hc =>
      have hle := rank_beginClosing (s := s)
      simp only [hf, Forwarder.rank] at hle
      omega
  | takeChunk chunk rest hf hq =>
      simp only [State.rank, hf, hq, Forwarder.rank, List.length_cons]
      omega
  | queueEnds hr hf hq =>
      simp only [State.rank, hf, Forwarder.rank]
      omega
  | accept chunk hf =>
      simp only [State.rank, hf, Forwarder.rank]
      omega
  | acceptClose hf =>
      have hle := rank_beginClosing (s := s)
      simp only [hf, Forwarder.rank] at hle
      have hsame : ({ s with sent := s.sent ++ [Frame.close] } : State).beginClosing.rank =
          s.beginClosing.rank := rfl
      omega
  | refuse chunk hf =>
      have hle := rank_beginClosing (s := s)
      simp only [hf, Forwarder.rank] at hle
      omega
  | refuseClose hf =>
      have hle := rank_beginClosing (s := s)
      simp only [hf, Forwarder.rank] at hle
      omega
  | takeMessage n m rest hw hi =>
      have hlt := rank_handle (s := { s with inbox := rest }) hw m
      have hrest : ({ s with inbox := rest } : State).rank + m.rank = s.rank := by
        simp only [State.rank, hi, messagesRank]
        omega
      omega
  | streamEnds n hw hi he =>
      simp only [State.rank, State.endWriter, State.closeRead, hw, Writer.rank]
      omega
  | deliver k n rest size hw h₁ h₂ hg =>
      simp only [State.rank, hw]
      split <;> simp only [Writer.rank, List.length_drop] <;> omega
  | deliverFails n rest size hw hg =>
      simp only [State.rank, State.endWriter, State.closeRead, hw, Writer.rank]
      omega
  | writerEnds deadline n hf hw =>
      have hle := rank_finish (s := s)
        (if s.cancelled then .error .cancelled else .ok ⟨s.toWorker, n⟩)
      simp only [hf, Forwarder.rank] at hle
      simp only [State.finishClosing]
      omega
  | graceEnds deadline hf hw hd =>
      have hle := rank_finish (s := s)
        (if s.cancelled then .error .cancelled else .ok ⟨s.toWorker, 0⟩)
      simp only [hf, Forwarder.rank] at hle
      simp only [State.finishClosing]
      omega

/-- The tasks alone take no more steps than the rank. -/
theorem length_le_rank {as : List Action} (h : as.foldlM State.step? s = some t) :
    as.length + t.rank ≤ s.rank := by
  induction as generalizing s with
  | nil =>
      obtain rfl : s = t := by simpa using h
      simp
  | cons a as ih =>
      obtain ⟨u, hu, ht⟩ : ∃ u, s.step? a = some u ∧ as.foldlM State.step? u = some t := by
        simpa [List.foldlM_cons, Option.bind_eq_some_iff] using h
      have hlt := (move_of_step? hu).rank_lt
      have hle := ih ht
      simp only [List.length_cons]
      omega

end

/-- **No relay gets stuck.** The tasks come to a rest after a bounded number of steps, in whatever
order they take them. When they rest and no grace is left to wait for, the relay has returned, or it
has not been cancelled and waits for a peer that is still there: for the dial, or, with an empty
queue and no send refused, for ssh. -/
theorem returned_or_waiting_of_atRest {steps : List Step} {s : State} (run : Run steps s) :
    (∃ bound, ∀ (as : List Action) (t : State), as.foldlM State.step? s = some t →
      as.length ≤ bound) ∧
    (s.AtRest → ¬ s.TimerPending →
      s.result?.isSome = true ∨
        s.cancelled = false ∧
          (s.dial = .pending ∨
            s.dial = .open ∧ s.sshEnded = false ∧ s.sshGone = false ∧
              .action .refuse ∉ steps ∧ s.queue = [])) := by
  refine ⟨⟨s.rank, fun as t h => ?_⟩, fun hrest htimer => ?_⟩
  · have hle := length_le_rank h
    omega
  · have inv := run.standing
    cases hf : s.forwarder with
    | dialing =>
        obtain ⟨hc, hd⟩ := hrest.of_dialing hf
        exact .inr ⟨hc, .inl hd⟩
    | ready =>
        obtain ⟨hc, hq, hended, hgone⟩ := hrest.of_ready hf
        have hopen := inv.opened (by rw [hf]; rfl)
        have hsends := inv.unrefused (by rw [hf]; rfl)
        exact .inr ⟨hc, .inr ⟨hopen, hended, hgone, hsends, hq⟩⟩
    | sending chunk => exact absurd hf (hrest.not_sending chunk)
    | ending => exact absurd hf hrest.not_ending
    | closing deadline =>
        have hlt := hrest.of_closing hf (inv.writer (by rw [hf]; rfl))
        exact absurd ⟨deadline, hf, hlt⟩ htimer
    | finished r => exact .inl (by rw [State.result?_eq_some_iff.mpr hf]; rfl)

/-- ssh writes a byte more than the queue has chunks, and they are read one by one during the
dial. -/
def fullQueue : List Step :=
  Step.event (.sshWrites (List.replicate (queueDepth + 1) 0)) ::
    (List.replicate queueDepth [Step.action (.read 1), .action .enqueue]).flatten
    ++ [.action (.read 1)]

set_option maxRecDepth 4000 in
/-- The reader waits for the queue and the forwarder for the dial; the cancellation ends it all. -/
theorem returned_or_waiting_of_atRest_fullQueue :
    (∃ s, Run fullQueue s ∧ s.queue.length = queueDepth ∧ s.reader = .holding [0] ∧ s.AtRest ∧
      s.cancelled = false ∧ s.dial = .pending) ∧
    ∃ s, Run (fullQueue ++ [.event .cancel, .action .forwarderStops]) s ∧ s.AtRest ∧
      s.result?.isSome = true := by
  constructor
  · obtain ⟨s, hs⟩ : ∃ s, fullQueue.foldlM State.perform? .initial = some s := ⟨_, rfl⟩
    have run : Run fullQueue s := Run.start.append hs
    have hrest : s.AtRest := by
      intro a
      cases hs
      cases a <;> rfl
    have hdialing : s.forwarder = .dialing := by cases hs; rfl
    have htimer : ¬ s.TimerPending := by
      rintro ⟨deadline, hf, -⟩
      rw [hdialing] at hf
      cases hf
    rcases (returned_or_waiting_of_atRest run).2 hrest htimer with hr | ⟨hc, hd | ⟨hopen, -⟩⟩
    · simp [State.result?, hdialing] at hr
    · exact ⟨s, run, by cases hs; rfl, by cases hs; rfl, hrest, hc, hd⟩
    · cases hs
      cases hopen
  · obtain ⟨s, hs⟩ : ∃ s, (fullQueue ++ [Step.event .cancel, .action .forwarderStops]).foldlM
        State.perform? .initial = some s := ⟨_, rfl⟩
    have run : Run (fullQueue ++ [.event .cancel, .action .forwarderStops]) s :=
      Run.start.append hs
    have hrest : s.AtRest := by
      intro a
      cases hs
      cases a <;> rfl
    have htimer : ¬ s.TimerPending := by
      rintro ⟨deadline, hf, -⟩
      cases hs
      cases hf
    rcases (returned_or_waiting_of_atRest run).2 hrest htimer with hr | ⟨hc, -⟩
    · exact ⟨s, run, hrest, hr⟩
    · cases hs
      cases hc

end TunnelSync.Relay
