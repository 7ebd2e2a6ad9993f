import TunnelSync.Proofs.Relay.Run

/-!
# From ssh to the worker

Every byte that ssh has written is at one place: accepted by the WebSocket, with the forwarder, in
the queue, with the reader, or unread. As long as the forwarder may still send, these pieces in this
order are all that ssh has written (`Forwarding.intact`), so what the WebSocket has accepted is
always a beginning of it. When the forwarder stops because the queue has come to its end, nothing is
left anywhere but with the WebSocket.

* `accepted` : the bytes in the frames that the WebSocket has accepted
* `State.carried` : the chunks on their way
* `Forwarding` : the invariant of all runs
* `Drained` : the invariant that finds nothing left behind at ssh's end
-/

namespace TunnelSync.Relay

/-- The bytes of a frame. -/
def Frame.payload : Frame → Bytes
  | .binary data => data
  | .close => []

/-- The bytes that the WebSocket has accepted. -/
def accepted (sent : List Frame) : Bytes := sent.flatMap Frame.payload

@[simp] theorem accepted_append (fs gs : List Frame) :
    accepted (fs ++ gs) = accepted fs ++ accepted gs := by simp [accepted]

@[simp] theorem accepted_binary (chunk : Bytes) : accepted [.binary chunk] = chunk := by
  simp [accepted, Frame.payload]

@[simp] theorem accepted_close : accepted [.close] = [] := rfl

theorem exists_chunks {sent : List Frame} (h : .close ∉ sent) :
    ∃ chunks : List Bytes, sent = chunks.map .binary ∧ chunks.flatten = accepted sent := by
  induction sent with
  | nil => exact ⟨[], rfl, rfl⟩
  | cons f sent ih =>
      obtain ⟨hf, hs⟩ : .close ≠ f ∧ .close ∉ sent := by simpa using h
      obtain ⟨chunks, rfl, hc⟩ := ih hs
      cases f with
      | binary chunk => exact ⟨chunk :: chunks, rfl, by simp [hc, accepted, Frame.payload]⟩
      | close => exact absurd rfl hf

/-- The chunk that the reader holds. -/
def Reader.held : Reader → List Bytes
  | .holding chunk => [chunk]
  | _ => []

/-- The chunk that the forwarder sends. -/
def Forwarder.held : Forwarder → List Bytes
  | .sending chunk => [chunk]
  | _ => []

/-- The chunks that have been read and not been accepted, the oldest first. -/
def State.carried (s : State) : List Bytes := s.forwarder.held ++ s.queue ++ s.reader.held

/-- A chunk is not empty, and one read could fill it. -/
def IsChunk (chunk : Bytes) : Prop := 1 ≤ chunk.length ∧ chunk.length ≤ readSize

/-- What the worker's side of a relay has in common with what ssh did. -/
structure Forwarding (es : List Event) (s : State) : Prop where
  ended : (s.sshEnded || s.sshGone) = es.any Event.endsSsh
  carried_chunks : ∀ chunk ∈ s.carried, IsChunk chunk
  sent_chunks : ∀ chunk, .binary chunk ∈ s.sent → IsChunk chunk
  intact : s.forwarder.isForwarding = true →
    accepted s.sent ++ s.carried.flatten ++ s.inbound = written es ∧ .close ∉ s.sent
  accepted_isPrefix : accepted s.sent <+: written es
  close_last : .close ∉ s.sent.dropLast
  toWorker_eq : s.toWorker = (accepted s.sent).length
  result_eq : ∀ counts, s.forwarder = .finished (.ok counts) → counts.toWorker = s.toWorker

namespace Forwarding

variable {es : List Event} {s t : State}

theorem initial : Forwarding [] .initial where
  ended := rfl
  carried_chunks := by simp [State.carried, State.initial, Forwarder.held, Reader.held]
  sent_chunks := by simp [State.initial]
  intact := by simp [State.carried, State.initial, Forwarder.held, Reader.held, accepted, written]
  accepted_isPrefix := by simp [State.initial, accepted]
  close_last := by simp [State.initial]
  toWorker_eq := rfl
  result_eq := by simp [State.initial]

theorem around (inv : Forwarding es s) {es' : List Event} (hw : written es' = written es)
    {ended gone : Bool} (he : (ended || gone) = es'.any Event.endsSsh) {dial : Dial}
    {inbox : List Message} {workerEnded cancelled : Bool} {now : Nat} :
    Forwarding es'
      { s with
        sshEnded := ended, sshGone := gone, dial := dial, inbox := inbox
        workerEnded := workerEnded, cancelled := cancelled, now := now } where
  ended := he
  carried_chunks := inv.carried_chunks
  sent_chunks := inv.sent_chunks
  intact := hw ▸ inv.intact
  accepted_isPrefix := hw ▸ inv.accepted_isPrefix
  close_last := inv.close_last
  toWorker_eq := inv.toWorker_eq
  result_eq := inv.result_eq

/-- Before ssh's end what it writes waits to be read. -/
theorem sshWrites (inv : Forwarding es s) (h : es.any Event.endsSsh = false) (data : Bytes) :
    Forwarding (es ++ [.sshWrites data]) { s with inbound := s.inbound ++ data } := by
  have hw : written (es ++ [.sshWrites data]) = written es ++ data := by
    simp [written_append, h, Event.data]
  exact
    { ended := by rw [inv.ended]; simp [Event.endsSsh]
      carried_chunks := inv.carried_chunks
      sent_chunks := inv.sent_chunks
      intact := fun hf => by
        obtain ⟨heq, hc⟩ := inv.intact hf
        refine ⟨?_, hc⟩
        rw [hw, ← heq]
        exact (List.append_assoc _ _ _).symm
      accepted_isPrefix := hw ▸ inv.accepted_isPrefix.trans (List.prefix_append _ _)
      close_last := inv.close_last
      toWorker_eq := inv.toWorker_eq
      result_eq := inv.result_eq }

theorem event (inv : Forwarding es s) (e : Event) : Forwarding (es ++ [e]) (s.apply e) := by
  have hw : e.data = [] → written (es ++ [e]) = written es := fun h => by
    simp [written_append, h]
  have he : e.endsSsh = false → (s.sshEnded || s.sshGone) = (es ++ [e]).any Event.endsSsh :=
    fun h => by simp [inv.ended, h]
  cases e with
  | sshWrites data =>
      cases h : es.any Event.endsSsh with
      | true =>
          have hs : s.apply (.sshWrites data) = s := by
            simp only [State.apply, inv.ended, h, if_true]
          rw [hs]
          exact inv.around (by simp [written_append, h]) (he rfl)
      | false =>
          have hs : s.apply (.sshWrites data) = { s with inbound := s.inbound ++ data } := by
            simp only [State.apply, inv.ended, h, Bool.false_eq_true, if_false]
          rw [hs]
          exact inv.sshWrites h data
  | sshEnds => exact inv.around (hw rfl) (by simp [Event.endsSsh])
  | sshVanishes => exact inv.around (hw rfl) (by simp [Event.endsSsh])
  | dialEnds r =>
      simp only [State.apply]
      split <;> exact inv.around (hw rfl) (he rfl)
  | workerSends m =>
      simp only [State.apply]
      split <;> exact inv.around (hw rfl) (he rfl)
  | workerEnds => exact inv.around (hw rfl) (he rfl)
  | cancel => exact inv.around (hw rfl) (he rfl)
  | timePasses ms => exact inv.around (hw rfl) (he rfl)

/-- A step that only hands bytes on. -/
theorem carry (inv : Forwarding es s) {reader : Reader} {queue : List Bytes} {inbound : Bytes}
    {forwarder : Forwarder} {writer : Writer}
    (hf : forwarder.isForwarding = true → s.forwarder.isForwarding = true)
    (hr : ∀ counts, forwarder = .finished (.ok counts) → s.forwarder = .finished (.ok counts))
    (hb : (forwarder.held ++ queue ++ reader.held).flatten ++ inbound =
      s.carried.flatten ++ s.inbound)
    (hc : ∀ chunk ∈ forwarder.held ++ queue ++ reader.held, IsChunk chunk) :
    Forwarding es
      { s with
        reader := reader, queue := queue, inbound := inbound
        forwarder := forwarder, writer := writer } where
  ended := inv.ended
  carried_chunks := hc
  sent_chunks := inv.sent_chunks
  intact := fun h => by
    obtain ⟨heq, hcl⟩ := inv.intact (hf h)
    refine ⟨?_, hcl⟩
    rw [← heq, List.append_assoc, List.append_assoc]
    exact congrArg (accepted s.sent ++ ·) hb
  accepted_isPrefix := inv.accepted_isPrefix
  close_last := inv.close_last
  toWorker_eq := inv.toWorker_eq
  result_eq := fun counts h => inv.result_eq counts (hr counts h)

/-- A step after which nothing more is sent. -/
theorem stop (inv : Forwarding es s) {forwarder : Forwarder} {writer : Writer} {closed : Bool}
    (hf : forwarder.isForwarding = false)
    (hr : ∀ counts, forwarder = .finished (.ok counts) → counts.toWorker = s.toWorker) :
    Forwarding es
      { s with
        reader := .done, forwarder := forwarder, writer := writer, readClosed := closed } where
  ended := inv.ended
  carried_chunks := fun chunk h => by
    have hheld : forwarder.held = [] := by cases forwarder <;> first | rfl | cases hf
    have hq : chunk ∈ s.queue := by simpa [State.carried, hheld, Reader.held] using h
    exact inv.carried_chunks chunk (by simp [State.carried, hq])
  sent_chunks := inv.sent_chunks
  intact := fun h => by rw [hf] at h; cases h
  accepted_isPrefix := inv.accepted_isPrefix
  close_last := inv.close_last
  toWorker_eq := inv.toWorker_eq
  result_eq := hr

/-- The WebSocket accepts the chunk that the forwarder sends. -/
theorem accept (inv : Forwarding es s) {chunk : Bytes} (hf : s.forwarder = .sending chunk) :
    Forwarding es
      { s with
        forwarder := .ready
        sent := s.sent ++ [.binary chunk]
        toWorker := s.toWorker + chunk.length } := by
  obtain ⟨heq, hcl⟩ := inv.intact (by rw [hf]; rfl)
  have hchunk : IsChunk chunk :=
    inv.carried_chunks chunk (by simp [State.carried, hf, Forwarder.held])
  have heq' : accepted (s.sent ++ [.binary chunk]) ++ (s.queue ++ s.reader.held).flatten ++
      s.inbound = written es := by
    rw [← heq]
    simp [State.carried, hf, Forwarder.held]
  have hcl' : .close ∉ s.sent ++ [Frame.binary chunk] := by simp [hcl]
  exact
    { ended := inv.ended
      carried_chunks := fun c h => inv.carried_chunks c (by
        simp only [State.carried, hf, Forwarder.held] at h ⊢
        simpa using Or.inr h)
      sent_chunks := fun c h => by
        rcases List.mem_append.mp h with h | h
        · exact inv.sent_chunks c h
        · obtain rfl : c = chunk := by simpa using h
          exact hchunk
      intact := fun _ => ⟨heq', hcl'⟩
      accepted_isPrefix := ⟨_, by rw [← List.append_assoc]; exact heq'⟩
      close_last := by simpa using hcl
      toWorker_eq := by simp [inv.toWorker_eq]
      result_eq := by simp }

theorem acceptClose (inv : Forwarding es s) (hf : s.forwarder = .ending) :
    Forwarding es ({ s with sent := s.sent ++ [Frame.close] }.beginClosing) := by
  obtain ⟨-, hcl⟩ := inv.intact (by rw [hf]; rfl)
  have hstop : Forwarding es s.beginClosing := inv.stop rfl (by simp)
  exact
    { hstop with
      sent_chunks := fun chunk h => inv.sent_chunks chunk (by
        simpa [State.beginClosing] using h)
      intact := fun h => by cases h
      accepted_isPrefix := by simpa [State.beginClosing] using inv.accepted_isPrefix
      close_last := by simpa [State.beginClosing] using hcl
      toWorker_eq := by simpa [State.beginClosing] using inv.toWorker_eq }

theorem delivers (inv : Forwarding es s) {inbox : List Message} {received : Bytes} {writer : Writer}
    {closed : Bool} :
    Forwarding es
      { s with inbox := inbox, received := received, writer := writer, readClosed := closed } :=
  { inv with }

theorem readerDone (inv : Forwarding es s) (hr : s.reader = .reading) :
    Forwarding es { s with reader := .done } :=
  inv.carry id (fun _ h => h) (by simp [State.carried, hr, Reader.held])
    (fun chunk h => inv.carried_chunks chunk (by simpa [State.carried, hr, Reader.held] using h))

theorem action {a : Action} (inv : Forwarding es s) (h : Move s a t) : Forwarding es t := by
  cases h with
  | read n hr h₁ h₂ h₃ =>
      refine inv.carry id (fun _ h => h) ?_ ?_
      · simp [State.carried, hr, Reader.held]
      · intro chunk h
        simp only [Reader.held, List.mem_append, List.mem_singleton] at h
        rcases h with h | rfl
        · exact inv.carried_chunks chunk (by simpa [State.carried, hr, Reader.held] using h)
        · simp only [IsChunk, List.length_take]
          omega
  | readEnd hr hi he => exact inv.readerDone hr
  | readFails hr hg => exact inv.readerDone hr
  | enqueue chunk hr hq =>
      refine inv.carry id (fun _ h => h) ?_ ?_
      · simp [State.carried, hr, Reader.held]
      · intro c h
        exact inv.carried_chunks c (by simpa [State.carried, hr, Reader.held] using h)
  | readerStops hr hc => exact inv.readerDone hr
  | dialOpens hf hd =>
      refine inv.carry (fun _ => by rw [hf]; rfl) (by simp) ?_ ?_
      · simp [State.carried, hf, Forwarder.held]
      · intro c h
        exact inv.carried_chunks c (by simpa [State.carried, hf, Forwarder.held] using h)
  | dialFails e hf hd => exact inv.stop rfl (by simp)
  | dialStops hf hc => exact inv.stop rfl (by simp)
  | loopStops hf hc => exact inv.stop rfl (by simp)
  | takeChunk chunk rest hf hq =>
      refine inv.carry (fun _ => by rw [hf]; rfl) (by simp) ?_ ?_
      · simp [State.carried, hf, hq, Forwarder.held]
      · intro c h
        exact inv.carried_chunks c (by simpa [State.carried, hf, hq, Forwarder.held] using h)
  | queueEnds hr hf hq =>
      refine inv.carry (fun _ => by rw [hf]; rfl) (by simp) ?_ ?_
      · simp [State.carried, hf, Forwarder.held]
      · intro c h
        exact inv.carried_chunks c (by simpa [State.carried, hf, Forwarder.held] using h)
  | accept chunk hf => exact inv.accept hf
  | acceptClose hf => exact inv.acceptClose hf
  | refuse chunk hf => exact inv.stop rfl (by simp)
  | refuseClose hf => exact inv.stop rfl (by simp)
  | takeMessage n m rest hw hi =>
      obtain ⟨w, c, heq⟩ := handle_eq { s with inbox := rest } n m
      rw [heq]
      exact inv.delivers
  | streamEnds n hw hi he => exact inv.delivers
  | deliver n m rest size hw h₁ h₂ hg => exact inv.delivers
  | deliverFails n rest size hw hg => exact inv.delivers
  | writerEnds deadline n hf hw =>
      exact inv.stop rfl (by intro counts h; split at h <;> cases h; rfl)
  | graceEnds deadline hf hw hd =>
      exact inv.stop rfl (by intro counts h; split at h <;> cases h; rfl)

end Forwarding

theorem Run.forwarding {steps : List Step} {s : State} (run : Run steps s) :
    Forwarding (events steps) s := by
  induction run with
  | start => exact .initial
  | event _ e ih => rw [events_append_event]; exact ih.event e
  | action _ a ha ih => rw [events_append_action]; exact ih.action (move_of_step? ha)

/-! ### At ssh's end -/

/-- A failed read, a failed send, or the cancellation. -/
def Step.isDisturbance : Step → Bool
  | .event .cancel => true
  | .action .readFails => true
  | .action .refuse => true
  | _ => false

/-- What has become of the bytes once the reader or the forwarder has come to its end, as long as
nothing has disturbed the run. -/
structure Drained (es : List Event) (s : State) : Prop where
  not_cancelled : s.cancelled = false
  /-- The reader has left nothing behind, and nothing more will come. -/
  reader_done : s.reader = .done → s.forwarder.isForwarding = true →
    s.inbound = [] ∧ es.any Event.endsSsh = true
  ending : s.forwarder = .ending → s.reader = .done ∧ s.queue = []
  /-- The forwarder has left nothing behind. -/
  stopped : s.forwarder.isForwarding = false →
    (∃ e, s.forwarder = .finished (.error e)) ∨
      (es.any Event.endsSsh = true ∧ accepted s.sent = written es ∧
        ∃ chunks : List Bytes, s.sent = chunks.map .binary ++ [.close])

namespace Drained

variable {es : List Event} {s t : State}

theorem initial : Drained [] .initial where
  not_cancelled := rfl
  reader_done := by simp [State.initial]
  ending := by simp [State.initial]
  stopped := by simp [State.initial, Forwarder.isForwarding]

/-- What happens behind ssh's end changes nothing of all this. -/
theorem mono (inv : Drained es s) {e : Event} {inbound : Bytes}
    (hi : es.any Event.endsSsh = true → inbound = s.inbound) {ended gone : Bool} {dial : Dial}
    {inbox : List Message} {workerEnded : Bool} {now : Nat} :
    Drained (es ++ [e])
      { s with
        inbound := inbound, sshEnded := ended, sshGone := gone, dial := dial, inbox := inbox
        workerEnded := workerEnded, now := now } where
  not_cancelled := inv.not_cancelled
  reader_done := fun hr hf => by
    obtain ⟨hnil, hend⟩ := inv.reader_done hr hf
    exact ⟨(hi hend).trans hnil, by simp [hend]⟩
  ending := inv.ending
  stopped := fun hf => by
    rcases inv.stopped hf with he | ⟨hend, hw, hs⟩
    · exact .inl he
    · exact .inr ⟨by simp [hend], by simp [written_append, hend, hw], hs⟩

theorem event (inv : Drained es s) (fwd : Forwarding es s) {e : Event}
    (he : (Step.event e).isDisturbance = false) : Drained (es ++ [e]) (s.apply e) := by
  cases e with
  | sshWrites data =>
      simp only [State.apply, fwd.ended]
      split
      next => exact inv.mono (fun _ => rfl)
      next h => exact inv.mono (fun hend => absurd hend h)
  | sshEnds => exact inv.mono (fun _ => rfl)
  | sshVanishes => exact inv.mono (fun _ => rfl)
  | dialEnds r =>
      simp only [State.apply]
      split <;> exact inv.mono (fun _ => rfl)
  | workerSends m =>
      simp only [State.apply]
      split <;> exact inv.mono (fun _ => rfl)
  | workerEnds => exact inv.mono (fun _ => rfl)
  | cancel => cases he
  | timePasses ms => exact inv.mono (fun _ => rfl)

theorem acceptClose (inv : Drained es s) (fwd : Forwarding es s) (hf : s.forwarder = .ending) :
    es.any Event.endsSsh = true ∧ accepted (s.sent ++ [.close]) = written es ∧
      ∃ chunks : List Bytes, s.sent ++ [Frame.close] = chunks.map .binary ++ [.close] := by
  have hfwd : s.forwarder.isForwarding = true := by rw [hf]; rfl
  obtain ⟨hr, hq⟩ := inv.ending hf
  obtain ⟨hi, hend⟩ := inv.reader_done hr hfwd
  obtain ⟨heq, hcl⟩ := fwd.intact hfwd
  obtain ⟨chunks, hs, -⟩ := exists_chunks hcl
  refine ⟨hend, ?_, chunks, by rw [hs]⟩
  rw [← heq]
  simp [State.carried, hf, hr, hq, hi, Forwarder.held, Reader.held]

theorem finishClosing (inv : Drained es s) {deadline : Nat} (hf : s.forwarder = .closing deadline)
    (n : Nat) : Drained es (s.finishClosing n) := by
  have hs : es.any Event.endsSsh = true ∧ accepted s.sent = written es ∧
      ∃ chunks : List Bytes, s.sent = chunks.map .binary ++ [.close] := by
    rcases inv.stopped (by rw [hf]; rfl) with ⟨e, he⟩ | hs
    · rw [hf] at he; cases he
    · exact hs
  exact ⟨inv.not_cancelled, nofun, nofun, fun _ => .inr hs⟩

theorem action {a : Action} (inv : Drained es s) (fwd : Forwarding es s)
    (ha : (Step.action a).isDisturbance = false) (h : Move s a t) : Drained es t := by
  have hreading : s.reader ≠ .done → s.forwarder ≠ .ending := fun hr hf => hr (inv.ending hf).1
  cases h with
  | read n hr h₁ h₂ h₃ =>
      exact ⟨inv.not_cancelled, nofun, fun h => absurd h (hreading (by simp [hr])), inv.stopped⟩
  | readEnd hr hi he =>
      exact ⟨inv.not_cancelled, fun _ _ => ⟨hi, fwd.ended ▸ he⟩,
        fun h => absurd h (hreading (by simp [hr])), inv.stopped⟩
  | readFails hr hg => cases ha
  | enqueue chunk hr hq =>
      exact ⟨inv.not_cancelled, nofun, fun h => absurd h (hreading (by simp [hr])), inv.stopped⟩
  | readerStops hr hc => exact absurd hc (by simp [inv.not_cancelled])
  | dialOpens hf hd =>
      exact ⟨inv.not_cancelled, fun hr _ => inv.reader_done hr (by rw [hf]; rfl), nofun, nofun⟩
  | dialFails e hf hd => exact ⟨inv.not_cancelled, nofun, nofun, fun _ => .inl ⟨e, rfl⟩⟩
  | dialStops hf hc => exact absurd hc (by simp [inv.not_cancelled])
  | loopStops hf hc => exact absurd hc (by simp [inv.not_cancelled])
  | takeChunk chunk rest hf hq =>
      exact ⟨inv.not_cancelled, fun hr _ => inv.reader_done hr (by rw [hf]; rfl), nofun, nofun⟩
  | queueEnds hr hf hq =>
      exact ⟨inv.not_cancelled, fun hr _ => inv.reader_done hr (by rw [hf]; rfl),
        fun _ => ⟨hr, hq⟩, nofun⟩
  | accept chunk hf =>
      exact ⟨inv.not_cancelled, fun hr _ => inv.reader_done hr (by rw [hf]; rfl), nofun, nofun⟩
  | acceptClose hf =>
      exact ⟨inv.not_cancelled, nofun, nofun, fun _ => .inr (inv.acceptClose fwd hf)⟩
  | refuse chunk hf => cases ha
  | refuseClose hf => cases ha
  | takeMessage n m rest hw hi =>
      obtain ⟨w, c, heq⟩ := handle_eq { s with inbox := rest } n m
      rw [heq]
      exact { inv with }
  | streamEnds n hw hi he => exact { inv with }
  | deliver n m rest size hw h₁ h₂ hg => exact { inv with }
  | deliverFails n rest size hw hg => exact { inv with }
  | writerEnds deadline n hf hw => exact inv.finishClosing hf n
  | graceEnds deadline hf hw hd => exact inv.finishClosing hf 0

end Drained

theorem Run.drained {steps : List Step} {s : State} (run : Run steps s)
    (h : ∀ x ∈ steps, x.isDisturbance = false) : Drained (events steps) s := by
  induction run with
  | start => exact .initial
  | event run e ih =>
      rw [events_append_event]
      exact (ih fun x hx => h x (by simp [hx])).event run.forwarding (h _ (by simp))
  | action run a ha ih =>
      rw [events_append_action]
      exact (ih fun x hx => h x (by simp [hx])).action run.forwarding (h _ (by simp))
        (move_of_step? ha)

/-- **From ssh to the worker.** At every moment of every run the WebSocket has accepted a beginning
of what ssh has written, in chunks that a read could give, with nothing behind a close frame, and
the count of a relay that returns is the length of what was accepted. If the relay returns its
counts and there was no failed send, no failed read and no cancellation, ssh has come to its end,
the worker has got all that ssh wrote, and then one close frame. -/
theorem accepted_of_run {steps : List Step} {s : State} (run : Run steps s) :
    accepted s.sent <+: written (events steps) ∧
    (∀ chunk, .binary chunk ∈ s.sent → 1 ≤ chunk.length ∧ chunk.length ≤ readSize) ∧
    (∀ before after, s.sent = before ++ .close :: after → after = []) ∧
    ∀ counts, s.result? = some (.ok counts) →
      counts.toWorker = (accepted s.sent).length ∧
      (.action .refuse ∉ steps → .action .readFails ∉ steps → .event .cancel ∉ steps →
        (events steps).any Event.endsSsh = true ∧
        ∃ chunks : List Bytes,
          s.sent = chunks.map .binary ++ [.close] ∧ chunks.flatten = written (events steps)) := by
  have fwd := run.forwarding
  refine ⟨fwd.accepted_isPrefix, fwd.sent_chunks, ?_, ?_⟩
  · intro before after hs
    cases after with
    | nil => rfl
    | cons f after =>
        have hlast : .close ∉ (before ++ Frame.close :: f :: after).dropLast := hs ▸ fwd.close_last
        rw [List.dropLast_append_of_ne_nil (by simp)] at hlast
        exact absurd (by simp) hlast
  · intro counts hr
    have hf := State.result?_eq_some_iff.mp hr
    refine ⟨by rw [fwd.result_eq counts hf, fwd.toWorker_eq], ?_⟩
    intro hrefuse hread hcancel
    have hquiet : ∀ x ∈ steps, x.isDisturbance = false := by
      intro x hx
      cases hd : x.isDisturbance with
      | false => rfl
      | true =>
          unfold Step.isDisturbance at hd
          split at hd
          · exact absurd hx hcancel
          · exact absurd hx hread
          · exact absurd hx hrefuse
          · cases hd
    rcases (run.drained hquiet).stopped (by rw [hf]; rfl) with ⟨e, he⟩ | ⟨hend, hw, chunks, hs⟩
    · rw [hf] at he; cases he
    · refine ⟨hend, chunks, hs, ?_⟩
      rw [← hw, hs, accepted_append, accepted_close, List.append_nil]
      simp [accepted, List.flatMap_map, Frame.payload, List.flatMap_id']

/-- ssh writes before the dial ends, in two reads, and leaves. -/
def greeting : List Step :=
  [.event (.sshWrites [83, 83, 72]), .action (.read 2), .action .enqueue, .action (.read 1),
    .event (.dialEnds (.ok ())), .action .dialEnds, .action .takeChunk, .action .enqueue,
    .event .sshEnds, .action .accept, .action .readEnd, .action .takeChunk, .action .accept,
    .action .queueEnds, .action .accept, .event .workerEnds, .action .streamEnds,
    .action .writerEnds]

theorem accepted_of_run_greeting :
    ∃ s, Run greeting s ∧ s.result? = some (.ok ⟨3, 0⟩) ∧ (accepted s.sent).length = 3 ∧
      ∃ chunks : List Bytes,
        s.sent = chunks.map .binary ++ [.close] ∧ chunks.flatten = [83, 83, 72] := by
  obtain ⟨s, hs⟩ : ∃ s, greeting.foldlM State.perform? .initial = some s := ⟨_, rfl⟩
  have run : Run greeting s := Run.start.append hs
  have hr : s.result? = some (.ok ⟨3, 0⟩) := by cases hs; rfl
  obtain ⟨-, -, -, hok⟩ := accepted_of_run run
  obtain ⟨hcount, hend⟩ := hok _ hr
  obtain ⟨-, chunks, hc⟩ := hend (by simp [greeting]) (by simp [greeting]) (by simp [greeting])
  exact ⟨s, run, hr, hcount.symm, chunks, hc⟩

end TunnelSync.Relay
