import TunnelSync.Proofs.Relay.Run

/-!
# From the worker to ssh

The writer takes the messages of the worker one by one and writes each payload as a whole before it
takes the next. So what ssh has received is what the messages taken so far carry, less the rest of
the payload that is being written, and a message that ends the stream is the last one taken.

* `payloads` : what messages carry, up to the first that ends them
* `State.Delivered` : what ssh has received when these messages have been taken
* `Delivery` : the invariant of all runs
-/

namespace TunnelSync.Relay

/-- What a message carries, or `none` if it ends the stream. -/
def Message.payload? : Message → Option Bytes
  | .binary data => some data
  | .text data => some data
  | .ping => some []
  | .pong => some []
  | .close => none
  | .failure => none

/-- What messages carry, up to the first that ends the stream. -/
def payloads : List Message → Bytes
  | [] => []
  | m :: ms =>
      match m.payload? with
      | some data => data ++ payloads ms
      | none => []

/-- None of the messages ends the stream. -/
def IsOpen (ms : List Message) : Prop := ∀ m ∈ ms, m.payload? ≠ none

theorem isOpen_nil : IsOpen [] := fun _ hm => absurd hm List.not_mem_nil

theorem IsOpen.append {ms : List Message} {m : Message} (h : IsOpen ms) (hm : m.payload? ≠ none) :
    IsOpen (ms ++ [m]) := by
  intro x hx
  rcases List.mem_append.mp hx with hx | hx
  · exact h x hx
  · obtain rfl : x = m := by simpa using hx
    exact hm

theorem payloads_append {ms : List Message} (h : IsOpen ms) (more : List Message) :
    payloads (ms ++ more) = payloads ms ++ payloads more := by
  induction ms with
  | nil => rfl
  | cons m ms ih =>
      cases hp : m.payload? with
      | none => exact absurd hp (h m (by simp))
      | some data => simp [payloads, hp, ih fun x hx => h x (by simp [hx])]

theorem payloads_append_of_not_open {ms : List Message} (h : ¬ IsOpen ms) (more : List Message) :
    payloads (ms ++ more) = payloads ms := by
  induction ms with
  | nil => exact absurd (fun m hm => by cases hm) h
  | cons m ms ih =>
      cases hp : m.payload? with
      | none => simp [payloads, hp]
      | some data =>
          have hms : ¬ IsOpen ms := fun hms => h fun x hx => by
            rcases List.mem_cons.mp hx with rfl | hx
            · simp [hp]
            · exact hms x hx
          simp [payloads, hp, ih hms]

theorem payloads_concat {ms : List Message} (h : IsOpen ms) (m : Message) :
    payloads (ms ++ [m]) = payloads ms ++ m.payload?.getD [] := by
  rw [payloads_append h]
  cases hp : m.payload? <;> simp [payloads, hp]

theorem payloads_isPrefix (ms more : List Message) : payloads ms <+: payloads (ms ++ more) := by
  by_cases h : IsOpen ms
  · rw [payloads_append h]
    exact List.prefix_append _ _
  · exact (payloads_append_of_not_open h more) ▸ List.prefix_rfl

/-! ### What the writer makes of a message -/

theorem handle_of_none {s : State} {n : Nat} {m : Message} (h : m.payload? = none) :
    s.handle n m = s.endWriter n := by
  cases m <;> first | rfl | cases h

theorem handle_of_nil {s : State} {n : Nat} {m : Message} (h : m.payload? = some []) :
    s.handle n m = s := by
  cases m with
  | binary data => cases h; rfl
  | text data => cases h; rfl
  | ping => rfl
  | pong => rfl
  | close => cases h
  | failure => cases h

theorem handle_of_cons {s : State} {n : Nat} {m : Message} {b : UInt8} {bs : Bytes}
    (h : m.payload? = some (b :: bs)) :
    s.handle n m = { s with writer := .writing n (b :: bs) (b :: bs).length } := by
  cases m <;> first | (cases h; rfl) | cases h

/-! ### The invariant -/

/-- What ssh has received when the writer has taken these messages. -/
def State.Delivered (s : State) (taken : List Message) : Prop :=
  match s.writer with
  | .notStarted => taken = [] ∧ s.received = []
  | .waiting _ => IsOpen taken ∧ s.received = payloads taken
  | .writing _ rest _ => rest ≠ [] ∧ IsOpen taken ∧ s.received ++ rest = payloads taken
  | .done _ =>
      s.received <+: payloads taken ∧
        (s.sshGone = false → s.received = payloads taken ∧ s.readClosed = true ∧
          (IsOpen taken → s.inbox = [] ∧ s.workerEnded = true))
  | .aborted => s.received <+: payloads taken

theorem State.Delivered.isPrefix {s : State} {taken : List Message} (h : s.Delivered taken) :
    s.received <+: payloads taken := by
  unfold State.Delivered at h
  split at h
  · rw [h.2]
    exact List.nil_prefix
  · exact h.2 ▸ List.prefix_rfl
  · rw [← h.2.2]
    exact List.prefix_append _ _
  · exact h.1
  · exact h

theorem State.Delivered.around {s : State} {taken : List Message} (h : s.Delivered taken)
    {inbound : Bytes} {ended gone : Bool} {dial : Dial} {inbox : List Message}
    {workerEnded cancelled : Bool} {now : Nat} (hg : gone = false → s.sshGone = false)
    (hi : s.inbox = [] → s.workerEnded = true → inbox = [] ∧ workerEnded = true) :
    { s with
      inbound := inbound, sshEnded := ended, sshGone := gone, dial := dial, inbox := inbox
      workerEnded := workerEnded, cancelled := cancelled, now := now }.Delivered taken := by
  unfold State.Delivered at h ⊢
  cases hw : s.writer with
  | done n =>
      simp only [hw] at h ⊢
      refine ⟨h.1, fun hgone => ?_⟩
      obtain ⟨hr, hc, hend⟩ := h.2 (hg hgone)
      exact ⟨hr, hc, fun ho => hi (hend ho).1 (hend ho).2⟩
  | _ => simpa only [hw] using h

/-- What ssh's side of a relay has in common with what the worker did. -/
structure Delivery (es : List Event) (s : State) : Prop where
  ended : s.workerEnded = es.any Event.endsWorker
  dialing : s.forwarder = .dialing → s.writer = .notStarted
  taken : ∃ taken, workerMessages es = taken ++ s.inbox ∧ s.Delivered taken

namespace Delivery

variable {es : List Event} {s t : State}

theorem initial : Delivery [] .initial where
  ended := rfl
  dialing := fun _ => rfl
  taken := ⟨[], rfl, rfl, rfl⟩

theorem received_isPrefix (inv : Delivery es s) : s.received <+: payloads (workerMessages es) := by
  obtain ⟨taken, hms, hd⟩ := inv.taken
  rw [hms]
  exact hd.isPrefix.trans (payloads_isPrefix taken s.inbox)

theorem event (inv : Delivery es s) (e : Event) : Delivery (es ++ [e]) (s.apply e) := by
  obtain ⟨taken, hms, hd⟩ := inv.taken
  have hquiet : e.message? = none → workerMessages (es ++ [e]) = taken ++ s.inbox := fun h => by
    simp [workerMessages_append, h, hms]
  have hended : e.endsWorker = false → s.workerEnded = (es ++ [e]).any Event.endsWorker :=
    fun h => by simp [inv.ended, h]
  cases e with
  | sshWrites data =>
      simp only [State.apply]
      split <;> exact ⟨hended rfl, inv.dialing, taken, hquiet rfl, hd.around id .intro⟩
  | sshEnds => exact ⟨hended rfl, inv.dialing, taken, hquiet rfl, hd.around id .intro⟩
  | sshVanishes =>
      have hgone : true = false → s.sshGone = false := fun h => by cases h
      exact ⟨hended rfl, inv.dialing, taken, hquiet rfl, hd.around hgone .intro⟩
  | dialEnds r =>
      simp only [State.apply]
      split <;> exact ⟨hended rfl, inv.dialing, taken, hquiet rfl, hd.around id .intro⟩
  | workerSends m =>
      cases hw : s.workerEnded with
      | true =>
          have hs : s.apply (.workerSends m) = s := by simp [State.apply, hw]
          have hms' : workerMessages (es ++ [.workerSends m]) = taken ++ s.inbox := by
            simp [workerMessages_append, ← inv.ended, hw, hms]
          rw [hs]
          exact ⟨hended rfl, inv.dialing, taken, hms', hd⟩
      | false =>
          have hs : s.apply (.workerSends m) = { s with inbox := s.inbox ++ [m] } := by
            simp [State.apply, hw]
          have hms' : workerMessages (es ++ [.workerSends m]) = taken ++ (s.inbox ++ [m]) := by
            simp [workerMessages_append, ← inv.ended, hw, hms, Event.message?]
          rw [hs]
          exact ⟨hended rfl, inv.dialing, taken, hms', hd.around id fun _ h => by simp [hw] at h⟩
  | workerEnds =>
      exact ⟨by simp [State.apply, Event.endsWorker], inv.dialing, taken, hquiet rfl,
        hd.around id fun hi _ => ⟨hi, rfl⟩⟩
  | cancel => exact ⟨hended rfl, inv.dialing, taken, hquiet rfl, hd.around id .intro⟩
  | timePasses ms => exact ⟨hended rfl, inv.dialing, taken, hquiet rfl, hd.around id .intro⟩

theorem carries (inv : Delivery es s) {inbound : Bytes} {reader : Reader} {queue : List Bytes}
    {forwarder : Forwarder} {sent : List Frame} {toWorker : Nat}
    (hf : forwarder = .dialing → s.forwarder = .dialing) :
    Delivery es
      { s with
        inbound := inbound, reader := reader, queue := queue
        forwarder := forwarder, sent := sent, toWorker := toWorker } where
  ended := inv.ended
  dialing := fun h => inv.dialing (hf h)
  taken := inv.taken

/-- The relay returns, and the writer with it. -/
theorem finish (inv : Delivery es s) (r : Except SyncError Counts) : Delivery es (s.finish r) where
  ended := inv.ended
  dialing := nofun
  taken := by
    obtain ⟨taken, hms, hd⟩ := inv.taken
    refine ⟨taken, hms, ?_⟩
    have hpre : s.received <+: payloads taken := hd.isPrefix
    unfold State.Delivered at hd ⊢
    simp only [State.finish, State.closeRead, Writer.abort]
    cases hw : s.writer with
    | notStarted => simpa [hw, Writer.isRunning] using hd
    | waiting n => simpa [Writer.isRunning] using hpre
    | writing n rest size => simpa [Writer.isRunning] using hpre
    | done n =>
        simp only [hw, Writer.isRunning, Bool.false_eq_true, if_false] at hd ⊢
        refine ⟨hpre, fun hg => ?_⟩
        obtain ⟨hr, hc, hend⟩ := hd.2 hg
        exact ⟨hr, by simp [hc], hend⟩
    | aborted => simpa [Writer.isRunning] using hpre

theorem endWriter (inv : Delivery es s) {taken : List Message} {inbox : List Message} {n : Nat}
    (hf : s.forwarder ≠ .dialing) (hms : workerMessages es = taken ++ inbox)
    (hpre : s.received <+: payloads taken)
    (hend : s.sshGone = false →
      s.received = payloads taken ∧ (IsOpen taken → inbox = [] ∧ s.workerEnded = true)) :
    Delivery es ({ s with inbox := inbox }.endWriter n) where
  ended := inv.ended
  dialing := fun h => absurd h hf
  taken := by
    refine ⟨taken, hms, hpre, fun hg => ?_⟩
    obtain ⟨hr, ho⟩ := hend hg
    refine ⟨hr, ?_, ho⟩
    have hg' : s.sshGone = false := hg
    simp [State.endWriter, State.closeRead, hg']

/-- The writer takes a message. -/
theorem takeMessage (inv : Delivery es s) {n : Nat} {m : Message} {rest : List Message}
    (hw : s.writer = .waiting n) (hi : s.inbox = m :: rest) :
    Delivery es ({ s with inbox := rest }.handle n m) := by
  have hf : s.forwarder ≠ .dialing := fun hf => by
    have hw' := inv.dialing hf
    rw [hw] at hw'
    cases hw'
  obtain ⟨taken, hms, hd⟩ := inv.taken
  have hms' : workerMessages es = (taken ++ [m]) ++ rest := by rw [hms, hi]; simp
  simp only [State.Delivered, hw] at hd
  obtain ⟨ho, hr⟩ := hd
  cases hp : m.payload? with
  | none =>
      have hpay : payloads (taken ++ [m]) = s.received := by rw [payloads_concat ho, hp, hr]; simp
      rw [handle_of_none hp]
      refine inv.endWriter hf hms' (hpay ▸ List.prefix_rfl) fun _ => ⟨hpay.symm, ?_⟩
      intro hopen
      exact absurd hp (hopen m (by simp))
  | some data =>
      have ho' : IsOpen (taken ++ [m]) := ho.append (by rw [hp]; simp)
      have hpay : payloads (taken ++ [m]) = s.received ++ data := by
        rw [payloads_concat ho, hp, hr]; rfl
      cases data with
      | nil =>
          rw [handle_of_nil hp]
          refine ⟨inv.ended, fun h => absurd h hf, taken ++ [m], hms', ?_⟩
          simp only [State.Delivered, hw]
          exact ⟨ho', by rw [hpay, List.append_nil]⟩
      | cons b bs =>
          rw [handle_of_cons hp]
          refine ⟨inv.ended, fun h => absurd h hf, taken ++ [m], hms', ?_⟩
          exact ⟨by simp, ho', hpay.symm⟩

/-- ssh's connection takes a part of the payload. -/
theorem deliver (inv : Delivery es s) {k n : Nat} {rest : Bytes} {size : Nat}
    (hw : s.writer = .writing n rest size) (hk : k ≤ rest.length) :
    Delivery es
      { s with
        received := s.received ++ rest.take k
        writer := if k = rest.length then .waiting (n + size)
          else .writing n (rest.drop k) size } where
  ended := inv.ended
  dialing := fun h => by
    have hw' := inv.dialing h
    rw [hw] at hw'
    cases hw'
  taken := by
    obtain ⟨taken, hms, hd⟩ := inv.taken
    refine ⟨taken, hms, ?_⟩
    simp only [State.Delivered, hw] at hd
    obtain ⟨-, ho, hr⟩ := hd
    by_cases hlen : k = rest.length
    · simp only [State.Delivered, hlen, if_true, List.take_length]
      exact ⟨ho, hr⟩
    · simp only [State.Delivered, hlen, if_false]
      refine ⟨?_, ho, by rw [List.append_assoc, List.take_append_drop, hr]⟩
      intro hnil
      have hle := List.drop_eq_nil_iff.mp hnil
      omega

theorem action {a : Action} (inv : Delivery es s) (h : Move s a t) : Delivery es t := by
  have hrun : s.writer ≠ .notStarted → s.forwarder ≠ .dialing := fun hw hf => hw (inv.dialing hf)
  cases h with
  | read n hr h₁ h₂ h₃ => exact inv.carries id
  | readEnd hr hi he => exact inv.carries id
  | readFails hr hg => exact inv.carries id
  | enqueue chunk hr hq => exact inv.carries id
  | readerStops hr hc => exact inv.carries id
  | dialOpens hf hd =>
      refine ⟨inv.ended, nofun, ?_⟩
      obtain ⟨taken, hms, hd⟩ := inv.taken
      simp only [State.Delivered, inv.dialing hf] at hd
      obtain ⟨rfl, hr⟩ := hd
      refine ⟨[], hms, ?_⟩
      exact ⟨isOpen_nil, hr⟩
  | dialFails e hf hd => exact inv.finish _
  | dialStops hf hc => exact inv.finish _
  | loopStops hf hc => exact inv.carries nofun
  | takeChunk chunk rest hf hq => exact inv.carries nofun
  | queueEnds hr hf hq => exact inv.carries nofun
  | accept chunk hf => exact inv.carries nofun
  | acceptClose hf => exact inv.carries nofun
  | refuse chunk hf => exact inv.carries nofun
  | refuseClose hf => exact inv.carries nofun
  | takeMessage n m rest hw hi => exact inv.takeMessage hw hi
  | streamEnds n hw hi he =>
      obtain ⟨taken, hms, hd⟩ := inv.taken
      simp only [State.Delivered, hw] at hd
      exact inv.endWriter (hrun (by rw [hw]; simp)) hms (hd.2 ▸ List.prefix_rfl)
        fun _ => ⟨hd.2, fun _ => ⟨hi, he⟩⟩
  | deliver k n rest size hw h₁ h₂ hg => exact inv.deliver hw h₂
  | deliverFails n rest size hw hg =>
      obtain ⟨taken, hms, hd⟩ := inv.taken
      exact inv.endWriter (hrun (by rw [hw]; simp)) hms hd.isPrefix fun hg' => by simp [hg] at hg'
  | writerEnds deadline n hf hw => exact inv.finish _
  | graceEnds deadline hf hw hd => exact inv.finish _

theorem received_eq (inv : Delivery es s) {n : Nat} (hw : s.writer = .done n)
    (hg : s.sshGone = false) :
    s.received = payloads (workerMessages es) ∧ s.readClosed = true := by
  obtain ⟨taken, hms, hd⟩ := inv.taken
  simp only [State.Delivered, hw] at hd
  obtain ⟨hr, hc, hend⟩ := hd.2 hg
  refine ⟨?_, hc⟩
  rw [hr, hms]
  by_cases h : IsOpen taken
  · rw [(hend h).1, List.append_nil]
  · rw [payloads_append_of_not_open h]

end Delivery

theorem Run.delivery {steps : List Step} {s : State} (run : Run steps s) :
    Delivery (events steps) s := by
  induction run with
  | start => exact .initial
  | event _ e ih => rw [events_append_event]; exact ih.event e
  | action _ a ha ih => rw [events_append_action]; exact ih.action (move_of_step? ha)

/-! ### The end of the writer -/

theorem Writer.isRunning_abort (w : Writer) : w.abort.isRunning = false := by
  cases w <;> rfl

/-- When the relay has returned, the writer is over. -/
theorem Run.isRunning_eq_false {steps : List Step} {s : State} (run : Run steps s)
    {r : Except SyncError Counts} (hf : s.forwarder = .finished r) :
    s.writer.isRunning = false := by
  induction run with
  | start => cases hf
  | event run e ih =>
      rw [apply_forwarder] at hf
      rw [apply_writer]
      exact ih hf
  | @action _ s _ run a ha ih =>
      have hover : s.writer.isRunning = true → s.forwarder ≠ .finished r := fun hw hf' => by
        rw [ih hf'] at hw
        cases hw
      cases move_of_step? ha with
      | dialFails e hf' hd => exact Writer.isRunning_abort _
      | dialStops hf' hc => exact Writer.isRunning_abort _
      | takeMessage n m rest hw hi =>
          obtain ⟨w, c, heq⟩ := handle_eq { s with inbox := rest } n m
          rw [heq] at hf
          exact absurd hf (hover (by rw [hw]; rfl))
      | streamEnds n hw hi he => rfl
      | deliver k n rest size hw h₁ h₂ hg => exact absurd hf (hover (by rw [hw]; rfl))
      | deliverFails n rest size hw hg => rfl
      | writerEnds deadline n hf' hw => exact Writer.isRunning_abort _
      | graceEnds deadline hf' hw hd => exact Writer.isRunning_abort _
      | _ => first | exact ih hf | cases hf

/-- At this time of the run the forwarder had nothing more to send. -/
def StoppedAt (steps : List Step) (time : Nat) : Prop :=
  ∃ before after u, steps = before ++ after ∧ Run before u ∧ u.forwarder.isForwarding = false ∧
    u.now = time

theorem StoppedAt.append {steps : List Step} {time : Nat} (h : StoppedAt steps time)
    (more : List Step) : StoppedAt (steps ++ more) time := by
  obtain ⟨before, after, u, rfl, run, hf, ht⟩ := h
  exact ⟨before, after ++ more, u, by simp, run, hf, ht⟩

/-- The forwarder stopped so long ago that the grace is over. -/
def GraceOver (steps : List Step) (s : State) : Prop :=
  ∃ stop, StoppedAt steps stop ∧ stop + closeGrace ≤ s.now

/-- The deadline of the forwarder is the end of the grace, and no writer is stopped before. -/
structure Grace (steps : List Step) (s : State) : Prop where
  closing : ∀ deadline, s.forwarder = .closing deadline →
    ∃ stop, StoppedAt steps stop ∧ stop + closeGrace = deadline
  aborted : s.writer = .aborted → GraceOver steps s

section
variable {s t : State} {a : Action}

theorem Move.now_eq (h : Move s a t) : t.now = s.now := by
  cases h with
  | takeMessage n m rest hw hi =>
      obtain ⟨w, c, heq⟩ := handle_eq { s with inbox := rest } n m
      rw [heq]
  | _ => rfl

theorem Move.closing (h : Move s a t) {deadline : Nat} (ht : t.forwarder = .closing deadline) :
    s.forwarder = .closing deadline ∨ deadline = s.now + closeGrace := by
  cases h with
  | takeMessage n m rest hw hi =>
      obtain ⟨w, c, heq⟩ := handle_eq { s with inbox := rest } n m
      rw [heq] at ht
      exact .inl ht
  | loopStops hf hc => cases ht; exact .inr rfl
  | acceptClose hf => cases ht; exact .inr rfl
  | refuse chunk hf => cases ht; exact .inr rfl
  | refuseClose hf => cases ht; exact .inr rfl
  | _ => first | exact .inl ht | cases ht

theorem handle_writer_ne_aborted {n : Nat} (hw : s.writer ≠ .aborted) (m : Message) :
    (s.handle n m).writer ≠ .aborted := by
  cases hp : m.payload? with
  | none => rw [handle_of_none hp]; exact nofun
  | some data =>
      cases data with
      | nil => rwa [handle_of_nil hp]
      | cons b bs => rw [handle_of_cons hp]; exact nofun

/-- Only the deadline of the forwarder stops the writer before its end. -/
theorem Move.aborted (h : Move s a t) (hdial : s.forwarder = .dialing → s.writer = .notStarted)
    (ht : t.writer = .aborted) :
    s.writer = .aborted ∨ ∃ deadline, s.forwarder = .closing deadline ∧ deadline ≤ s.now := by
  have hfinish : s.forwarder = .dialing → s.writer.abort ≠ .aborted := fun hf => by
    rw [hdial hf]
    exact nofun
  cases h with
  | dialFails e hf hd => exact absurd ht (hfinish hf)
  | dialStops hf hc => exact absurd ht (hfinish hf)
  | takeMessage n m rest hw hi =>
      refine absurd ht (handle_writer_ne_aborted ?_ m)
      simp [hw]
  | deliver k n rest size hw h₁ h₂ hg =>
      by_cases hk : k = rest.length
      · simp [hk] at ht
      · simp [hk] at ht
  | writerEnds deadline n hf hw =>
      have hdone : s.writer.abort = .aborted := ht
      rw [hw] at hdone
      cases hdone
  | graceEnds deadline hf hw hd => exact .inr ⟨deadline, hf, hd⟩
  | _ => first | exact .inl ht | cases ht

end

theorem Run.grace {steps : List Step} {s : State} (run : Run steps s) : Grace steps s := by
  induction run with
  | start => exact ⟨nofun, nofun⟩
  | @event steps s run e ih =>
      have hnow : s.now ≤ (s.apply e).now := by
        cases e <;> simp only [State.apply] <;> (try split) <;> simp
      refine ⟨fun deadline hf => ?_, fun hw => ?_⟩
      · rw [apply_forwarder] at hf
        obtain ⟨stop, hstop, hd⟩ := ih.closing deadline hf
        exact ⟨stop, hstop.append _, hd⟩
      · rw [apply_writer] at hw
        obtain ⟨stop, hstop, hle⟩ := ih.aborted hw
        exact ⟨stop, hstop.append _, Nat.le_trans hle hnow⟩
  | @action steps s t run a ha ih =>
      have hm := move_of_step? ha
      have hnow := hm.now_eq
      refine ⟨fun deadline hf => ?_, fun hw => ?_⟩
      · rcases hm.closing hf with hf' | rfl
        · obtain ⟨stop, hstop, hd⟩ := ih.closing deadline hf'
          exact ⟨stop, hstop.append _, hd⟩
        · exact ⟨s.now, ⟨_, [], t, by simp, run.action a ha, by rw [hf]; rfl, hnow⟩, rfl⟩
      · rcases hm.aborted run.delivery.dialing hw with hw' | ⟨deadline, hf, hle⟩
        · obtain ⟨stop, hstop, hle⟩ := ih.aborted hw'
          exact ⟨stop, hstop.append _, by omega⟩
        · obtain ⟨stop, hstop, hd⟩ := ih.closing deadline hf
          exact ⟨stop, hstop.append _, by omega⟩

/-! ### The writer alone -/

/-- The writer alone brings a relay from one state to another. -/
inductive WriterReaches : State → State → Prop
  | refl (s : State) : WriterReaches s s
  | takeMessage {s t u : State} (h : s.step? .takeMessage = some t) (more : WriterReaches t u) :
      WriterReaches s u
  | streamEnds {s t u : State} (h : s.step? .streamEnds = some t) (more : WriterReaches t u) :
      WriterReaches s u
  | deliver {s t u : State} (n : Nat) (h : s.step? (.deliver n) = some t)
      (more : WriterReaches t u) : WriterReaches s u

theorem WriterReaches.delivery {es : List Event} {s t : State} (h : WriterReaches s t)
    (inv : Delivery es s) : Delivery es t := by
  induction h with
  | refl => exact inv
  | takeMessage h _ ih => exact ih (inv.action (move_of_step? h))
  | streamEnds h _ ih => exact ih (inv.action (move_of_step? h))
  | deliver n h _ ih => exact ih (inv.action (move_of_step? h))

theorem step?_deliver {s : State} {n : Nat} {rest : Bytes} {size : Nat}
    (hw : s.writer = .writing n rest size) (hr : rest ≠ []) (hg : s.sshGone = false) :
    s.step? (.deliver rest.length) =
      some { s with received := s.received ++ rest, writer := .waiting (n + size) } := by
  have hlen := List.length_pos_iff.mpr hr
  have hle : 1 ≤ rest.length := by omega
  simp [State.step?, hw, hg, hle]

/-- From a writer that waits for messages, with the end of the stream among them or behind. -/
theorem exists_done_of_waiting {inbox : List Message} {s : State} {n : Nat}
    (hw : s.writer = .waiting n) (hg : s.sshGone = false) (hi : s.inbox = inbox)
    (hend : s.workerEnded = true ∨ ¬ IsOpen inbox) :
    ∃ t, WriterReaches s t ∧ t.sshGone = false ∧ ∃ k, t.writer = .done k := by
  induction inbox generalizing s n with
  | nil =>
      have he : s.workerEnded = true := by
        rcases hend with he | ho
        · exact he
        · exact absurd isOpen_nil ho
      have hstep : s.step? .streamEnds = some (s.endWriter n) := by
        simp [State.step?, hw, hi, he]
      exact ⟨_, .streamEnds hstep (.refl _), hg, n, rfl⟩
  | cons m rest ih =>
      have hstep : s.step? .takeMessage = some ({ s with inbox := rest }.handle n m) := by
        simp only [State.step?, hw, hi]
      have hrest : m.payload? ≠ none → s.workerEnded = true ∨ ¬ IsOpen rest := fun hp => by
        rcases hend with he | ho
        · exact .inl he
        · refine .inr fun hrest => ho fun x hx => ?_
          rcases List.mem_cons.mp hx with rfl | hx
          · exact hp
          · exact hrest x hx
      cases hp : m.payload? with
      | none =>
          rw [handle_of_none hp] at hstep
          exact ⟨_, .takeMessage hstep (.refl _), hg, n, rfl⟩
      | some data =>
          have hend' := hrest (by simp [hp])
          cases data with
          | nil =>
              rw [handle_of_nil hp] at hstep
              obtain ⟨t, ht, hdone⟩ := ih (s := { s with inbox := rest }) hw hg rfl hend'
              exact ⟨t, .takeMessage hstep ht, hdone⟩
          | cons b bs =>
              rw [handle_of_cons hp] at hstep
              have hdeliver := step?_deliver
                (s := { s with
                  inbox := rest, writer := .writing n (b :: bs) (b :: bs).length })
                rfl (by simp) hg
              obtain ⟨t, ht, hdone⟩ := ih
                (s := { s with
                  inbox := rest, received := s.received ++ b :: bs
                  writer := .waiting (n + (b :: bs).length) }) rfl hg rfl hend'
              exact ⟨t, .takeMessage hstep (.deliver _ hdeliver ht), hdone⟩

/-- A running writer comes to the end of the stream when the worker has. -/
theorem Delivery.exists_done {es : List Event} {s : State} (inv : Delivery es s)
    (hw : s.writer.isRunning = true) (hg : s.sshGone = false)
    (hend : es.any Event.endsWorker = true ∨ ¬ IsOpen (workerMessages es)) :
    ∃ t, WriterReaches s t ∧ t.sshGone = false ∧ ∃ k, t.writer = .done k := by
  obtain ⟨taken, hms, hd⟩ := inv.taken
  have hinbox : IsOpen taken → s.workerEnded = true ∨ ¬ IsOpen s.inbox := fun ho => by
    rcases hend with he | hc
    · exact .inl (inv.ended.trans he)
    · refine .inr fun hi => hc ?_
      intro m hm
      rw [hms] at hm
      rcases List.mem_append.mp hm with hm | hm
      · exact ho m hm
      · exact hi m hm
  cases hwriter : s.writer with
  | waiting n =>
      simp only [State.Delivered, hwriter] at hd
      exact exists_done_of_waiting hwriter hg rfl (hinbox hd.1)
  | writing n rest size =>
      simp only [State.Delivered, hwriter] at hd
      obtain ⟨hr, ho, -⟩ := hd
      obtain ⟨t, ht, hdone⟩ := exists_done_of_waiting
        (s := { s with received := s.received ++ rest, writer := .waiting (n + size) })
        rfl hg rfl (hinbox ho)
      exact ⟨t, .deliver _ (step?_deliver hwriter hr hg) ht, hdone⟩
  | _ => simp [hwriter, Writer.isRunning] at hw

/-- **From the worker to ssh.** At every moment of every run ssh has received a beginning of what
the worker's messages carry, up to the first that ends the stream. As long as ssh is there, it has
received all of it and then the end when the writer has come to the end of the stream, and also when
the relay has returned before the grace was over; and a writer that has not been stopped needs
nobody else to bring it there once the worker has ended the stream. -/
theorem received_of_run {steps : List Step} {s : State} (run : Run steps s) :
    s.received <+: payloads (workerMessages (events steps)) ∧
    (s.sshGone = false → s.writer ≠ .notStarted →
      (∃ n, s.writer = .done n) ∨ (s.result?.isSome = true ∧ ¬ GraceOver steps s) →
      s.received = payloads (workerMessages (events steps)) ∧ s.readClosed = true) ∧
    (s.sshGone = false → s.writer.isRunning = true →
      (events steps).any Event.endsWorker = true ∨ ¬ IsOpen (workerMessages (events steps)) →
      ∃ t, WriterReaches s t ∧ t.received = payloads (workerMessages (events steps)) ∧
        t.readClosed = true) ∧
    (s.writer = .aborted → GraceOver steps s) := by
  have inv := run.delivery
  refine ⟨inv.received_isPrefix, ?_, ?_, run.grace.aborted⟩
  · rintro hg hstarted (⟨n, hw⟩ | ⟨hr, hgrace⟩)
    · exact inv.received_eq hw hg
    · obtain ⟨r, hr⟩ := Option.isSome_iff_exists.mp hr
      have hover := run.isRunning_eq_false (State.result?_eq_some_iff.mp hr)
      cases hw : s.writer with
      | notStarted => exact absurd hw hstarted
      | waiting n => simp [hw, Writer.isRunning] at hover
      | writing n rest size => simp [hw, Writer.isRunning] at hover
      | done n => exact inv.received_eq hw hg
      | aborted => exact absurd (run.grace.aborted hw) hgrace
  · intro hg hw hend
    obtain ⟨t, ht, hgt, k, hk⟩ := inv.exists_done hw hg hend
    obtain ⟨hr, hc⟩ := (ht.delivery inv).received_eq hk hgt
    exact ⟨t, ht, hr, hc⟩

/-- The worker answers before the dial has ended, and the cancellation comes in the middle of its
first payload. -/
def answer : List Step :=
  [.event (.workerSends (.binary [1, 2])), .event (.dialEnds (.ok ())), .action .dialEnds,
    .action .takeMessage, .action (.deliver 1), .event .cancel, .action .forwarderStops,
    .event (.workerSends .ping), .event (.workerSends (.text [3])), .event (.workerSends .close),
    .event (.workerSends (.binary [4]))]

/-- The writer comes to the close within the grace, and the relay returns. -/
def answerTaken : List Step :=
  [.action (.deliver 1), .event (.timePasses 1999), .action .takeMessage, .action .takeMessage,
    .action (.deliver 1), .action .takeMessage, .action .writerEnds]

theorem received_of_run_answer :
    (∃ s, Run answer s ∧ s.received = [1] ∧
      ∃ t, WriterReaches s t ∧ t.received = [1, 2, 3] ∧ t.readClosed = true) ∧
    ∃ s, Run (answer ++ answerTaken) s ∧ s.result?.isSome = true ∧
      s.received = [1, 2, 3] ∧ s.readClosed = true := by
  constructor
  · obtain ⟨s, hs⟩ : ∃ s, answer.foldlM State.perform? .initial = some s := ⟨_, rfl⟩
    have run : Run answer s := Run.start.append hs
    obtain ⟨-, -, hend, -⟩ := received_of_run run
    obtain ⟨t, ht, hr, hc⟩ := hend (by cases hs; rfl) (by cases hs; rfl)
      (.inr fun h => h .close (by simp [answer, events, workerMessages, Event.endsWorker,
        Event.message?]) rfl)
    exact ⟨s, run, by cases hs; rfl, t, ht, hr, hc⟩
  · obtain ⟨s, hs⟩ : ∃ s, (answer ++ answerTaken).foldlM State.perform? .initial = some s :=
      ⟨_, rfl⟩
    have run : Run (answer ++ answerTaken) s := Run.start.append hs
    have hnow : s.now = 1999 := by cases hs; rfl
    have hreturned : s.result?.isSome = true := by cases hs; rfl
    have hgrace : ¬ GraceOver (answer ++ answerTaken) s := by
      rintro ⟨stop, -, hle⟩
      simp only [closeGrace, hnow] at hle
      omega
    obtain ⟨-, hall, -, -⟩ := received_of_run run
    obtain ⟨hr, hc⟩ := hall (by cases hs; rfl) (by cases hs; decide) (.inr ⟨hreturned, hgrace⟩)
    exact ⟨s, run, hreturned, hr, hc⟩

end TunnelSync.Relay
