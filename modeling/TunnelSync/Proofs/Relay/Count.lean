import TunnelSync.Proofs.Relay.ToSsh

/-!
# What the relay counts towards ssh

The writer counts a payload when all of it is written, and a relay that returns takes its count. So
a payload of which ssh has taken a part before it was gone is not counted, and a relay that stops
its writer counts nothing at all.

* `wholeBytes` : the bytes that the writer counts
* `Counting` : the invariant of the writer's count
* `Run.counted` : where the count of a relay comes from
* `toSsh_of_run` : what a relay counts, and when that is what ssh has received
-/

namespace TunnelSync.Relay

/-- Of the first bytes that messages carry, those of payloads that are among them as a whole. -/
def wholeBytes : List Message → Nat → Nat
  | [], _ => 0
  | m :: ms, n =>
      match m.payload? with
      | some data => if data.length ≤ n then data.length + wholeBytes ms (n - data.length) else 0
      | none => 0

theorem wholeBytes_le (ms : List Message) (n : Nat) : wholeBytes ms n ≤ n := by
  induction ms generalizing n with
  | nil => simp [wholeBytes]
  | cons m ms ih =>
      unfold wholeBytes
      split
      next data _ =>
        split
        next hle =>
          have hrest := ih (n - data.length)
          omega
        next => omega
      next => omega

theorem wholeBytes_append {whole : List Message} (h : IsOpen whole) (more : List Message) (k : Nat) :
    wholeBytes (whole ++ more) ((payloads whole).length + k) =
      (payloads whole).length + wholeBytes more k := by
  induction whole with
  | nil => simp [payloads]
  | cons m whole ih =>
      cases hp : m.payload? with
      | none => exact absurd hp (h m (by simp))
      | some data =>
          have hrest := ih fun x hx => h x (by simp [hx])
          have hlen : (payloads (m :: whole)).length = data.length + (payloads whole).length := by
            simp [payloads, hp]
          rw [List.cons_append, wholeBytes, hp, hlen]
          simp only [Nat.add_assoc, Nat.le_add_right, if_true, Nat.add_sub_cancel_left, hrest]

/-- What ssh can have received of some messages says nothing about those behind them. -/
theorem wholeBytes_append_of_le {taken : List Message} {n : Nat} (h : n ≤ (payloads taken).length)
    (more : List Message) : wholeBytes (taken ++ more) n = wholeBytes taken n := by
  induction taken generalizing n with
  | nil =>
      obtain rfl : n = 0 := by simpa [payloads] using h
      have hle := wholeBytes_le more 0
      simp only [List.nil_append, wholeBytes]
      omega
  | cons m taken ih =>
      cases hp : m.payload? with
      | none => simp [wholeBytes, hp]
      | some data =>
          have hrest : n - data.length ≤ (payloads taken).length := by
            simp only [payloads, hp, List.length_append] at h
            omega
          simp [wholeBytes, hp, ih hrest]

theorem wholeBytes_payloads (ms : List Message) :
    wholeBytes ms (payloads ms).length = (payloads ms).length := by
  induction ms with
  | nil => rfl
  | cons m ms ih =>
      cases hp : m.payload? with
      | none => simp [wholeBytes, payloads, hp]
      | some data => simp [wholeBytes, payloads, hp, ih]

theorem exists_wholeBytes_eq (ms : List Message) (n : Nat) :
    ∃ whole, whole <+: ms ∧ wholeBytes ms n = (payloads whole).length := by
  induction ms generalizing n with
  | nil => exact ⟨[], List.prefix_rfl, rfl⟩
  | cons m ms ih =>
      cases hp : m.payload? with
      | none => exact ⟨[], List.nil_prefix, by simp [wholeBytes, payloads, hp]⟩
      | some data =>
          by_cases hle : data.length ≤ n
          · obtain ⟨whole, hpre, hcount⟩ := ih (n - data.length)
            refine ⟨m :: whole, List.cons_prefix_cons.mpr ⟨rfl, hpre⟩, ?_⟩
            simp [wholeBytes, payloads, hp, hle, hcount]
          · exact ⟨[], List.nil_prefix, by simp [wholeBytes, payloads, hp, hle]⟩

theorem wholeBytes_eq_length_iff {ms : List Message} {received : Bytes}
    (h : received <+: payloads ms) :
    wholeBytes ms received.length = received.length ↔
      ∃ whole, whole <+: ms ∧ received = payloads whole := by
  constructor
  · intro hcount
    obtain ⟨whole, hpre, hwhole⟩ := exists_wholeBytes_eq ms received.length
    obtain ⟨more, rfl⟩ := hpre
    have hlen : received.length = (payloads whole).length := hcount.symm.trans hwhole
    exact ⟨whole, List.prefix_append _ _, (List.prefix_of_prefix_length_le h
      (payloads_isPrefix whole more) (Nat.le_of_eq hlen)).eq_of_length hlen⟩
  · rintro ⟨whole, ⟨more, rfl⟩, rfl⟩
    rw [wholeBytes_append_of_le (Nat.le_refl _), wholeBytes_payloads]

/-! ### The count of the writer -/

/-- What the writer has counted when it has taken these messages. -/
def State.Counted (s : State) (taken : List Message) : Prop :=
  match s.writer with
  | .waiting n => n = (payloads taken).length
  | .writing n rest size =>
      rest.length ≤ size ∧ n + size = (payloads taken).length ∧
        ∃ whole m, taken = whole ++ [m] ∧ n = (payloads whole).length
  | .done n => n = wholeBytes taken s.received.length
  | _ => True

/-- The count of the writer goes with the messages that it has taken. -/
def Counting (es : List Event) (s : State) : Prop :=
  ∀ taken, workerMessages es = taken ++ s.inbox → s.Counted taken

/-- The messages that the writer has taken are those that are no longer before it. -/
theorem Delivery.delivered {es : List Event} {s : State} (inv : Delivery es s)
    {taken : List Message} (h : workerMessages es = taken ++ s.inbox) : s.Delivered taken := by
  obtain ⟨taken', h', hd⟩ := inv.taken
  obtain rfl : taken' = taken := List.append_cancel_right (h'.symm.trans h)
  exact hd

theorem exists_inbox_apply {es : List Event} {s : State}
    (hended : s.workerEnded = es.any Event.endsWorker) (e : Event) :
    ∃ more, (s.apply e).inbox = s.inbox ++ more ∧
      workerMessages (es ++ [e]) = workerMessages es ++ more := by
  refine ⟨if s.workerEnded then [] else e.message?.toList, ?_, ?_⟩
  · cases e <;> simp only [State.apply, Event.message?] <;> split <;> simp_all
  · rw [workerMessages_append, hended]

theorem apply_received (s : State) (e : Event) : (s.apply e).received = s.received := by
  cases e <;> simp only [State.apply] <;> split <;> rfl

namespace Counting

variable {es : List Event} {s t : State}

theorem event (inv : Counting es s) (hended : s.workerEnded = es.any Event.endsWorker) (e : Event) :
    Counting (es ++ [e]) (s.apply e) := by
  intro taken h
  obtain ⟨more, hinbox, hms⟩ := exists_inbox_apply hended e
  rw [hinbox, hms, ← List.append_assoc] at h
  have hcount := inv taken (List.append_cancel_right h)
  unfold State.Counted at hcount ⊢
  rwa [apply_writer, apply_received]

theorem finish (inv : Counting es s) (r : Except SyncError Counts) : Counting es (s.finish r) := by
  intro taken h
  have hcount := inv taken h
  unfold State.Counted at hcount ⊢
  simp only [State.finish, State.closeRead, Writer.abort]
  cases hw : s.writer with
  | done n => simpa [hw, Writer.isRunning] using hcount
  | _ => simp [Writer.isRunning]

/-- The writer takes a message. -/
theorem takeMessage (inv : Counting es s) (del : Delivery es s) {n : Nat} {m : Message}
    {rest : List Message} (hw : s.writer = .waiting n) (hi : s.inbox = m :: rest) :
    Counting es ({ s with inbox := rest }.handle n m) := by
  obtain ⟨taken, hms, hd⟩ := del.taken
  have hcount := inv taken hms
  simp only [State.Counted, State.Delivered, hw] at hcount hd
  obtain ⟨ho, hr⟩ := hd
  have hpay := payloads_concat ho m
  -- the message is the last one taken
  suffices h : ({ s with inbox := rest }.handle n m).Counted (taken ++ [m]) by
    intro taken' h'
    obtain ⟨w, c, heq⟩ := handle_eq { s with inbox := rest } n m
    have hrest : ({ s with inbox := rest }.handle n m).inbox = rest := by rw [heq]
    rw [hrest, hms, hi, List.append_cons] at h'
    rwa [List.append_cancel_right h'] at h
  cases hp : m.payload? with
  | none =>
      rw [handle_of_none hp]
      have hlen : s.received.length = (payloads (taken ++ [m])).length := by rw [hpay, hp, hr]; simp
      simp only [State.endWriter, State.closeRead, State.Counted]
      rw [hlen, wholeBytes_payloads, ← hlen, hr, hcount]
  | some data =>
      cases data with
      | nil =>
          rw [handle_of_nil hp]
          simp [State.Counted, hw, hpay, hp, hcount]
      | cons b bs =>
          rw [handle_of_cons hp]
          exact ⟨Nat.le_refl _, by simp [hpay, hp, hcount], taken, m, rfl, hcount⟩

/-- ssh's connection takes a part of the payload. -/
theorem deliver (inv : Counting es s) {k n : Nat} {rest : Bytes} {size : Nat}
    (hw : s.writer = .writing n rest size) :
    Counting es
      { s with
        received := s.received ++ rest.take k
        writer := if k = rest.length then .waiting (n + size)
          else .writing n (rest.drop k) size } := by
  intro taken h
  have hcount := inv taken h
  simp only [State.Counted, hw] at hcount
  obtain ⟨hle, hsize, hwhole⟩ := hcount
  by_cases hlen : k = rest.length
  · simp only [State.Counted, hlen, if_true]
    exact hsize
  · simp only [State.Counted, hlen, if_false, List.length_drop]
    exact ⟨by omega, hsize, hwhole⟩

/-- The writer finds ssh gone with a part of the payload left. -/
theorem deliverFails (inv : Counting es s) (del : Delivery es s) {n : Nat} {rest : Bytes}
    {size : Nat} (hw : s.writer = .writing n rest size) : Counting es (s.endWriter n) := by
  intro taken h
  have hcount := inv taken h
  have hd := del.delivered h
  simp only [State.Counted, State.Delivered, hw] at hcount hd
  obtain ⟨hle, hsize, whole, m, rfl, rfl⟩ := hcount
  obtain ⟨hne, ho, hr⟩ := hd
  have hwhole : IsOpen whole := fun x hx => ho x (by simp [hx])
  have hpos : 0 < rest.length := List.length_pos_iff.mpr hne
  have hlen := congrArg List.length hr
  rw [List.length_append] at hlen
  obtain ⟨data, hp⟩ := Option.ne_none_iff_exists'.mp (ho m (by simp))
  have hdata : size = data.length := by
    rw [payloads_concat hwhole, hp, List.length_append] at hsize
    simpa using hsize
  have hreceived : s.received.length = (payloads whole).length + (size - rest.length) := by omega
  have hpart : wholeBytes [m] (size - rest.length) = 0 := by
    have hlt : ¬ data.length ≤ size - rest.length := by omega
    simp [wholeBytes, hp, hlt]
  simp only [State.endWriter, State.closeRead, State.Counted]
  rw [hreceived, wholeBytes_append hwhole, hpart, Nat.add_zero]

theorem action {a : Action} (inv : Counting es s) (del : Delivery es s) (h : Move s a t) :
    Counting es t := by
  cases h with
  | dialOpens hf hd =>
      intro taken h
      have hd := del.delivered h
      simp only [State.Delivered, del.dialing hf] at hd
      rw [hd.1]
      rfl
  | dialFails e hf hd => exact inv.finish _
  | dialStops hf hc => exact inv.finish _
  | takeMessage n m rest hw hi => exact inv.takeMessage del hw hi
  | streamEnds n hw hi he =>
      intro taken h
      have hcount := inv taken h
      have hd := del.delivered h
      simp only [State.Counted, State.Delivered, hw] at hcount hd
      simp only [State.endWriter, State.closeRead, State.Counted]
      rw [hd.2, wholeBytes_payloads, hcount]
  | deliver k n rest size hw h₁ h₂ hg => exact inv.deliver hw
  | deliverFails n rest size hw hg => exact inv.deliverFails del hw
  | writerEnds deadline n hf hw => exact inv.finish _
  | graceEnds deadline hf hw hd => exact inv.finish _
  | _ => exact inv

end Counting

theorem Run.counting {steps : List Step} {s : State} (run : Run steps s) :
    Counting (events steps) s := by
  induction run with
  | start => exact fun _ _ => trivial
  | event run e ih => rw [events_append_event]; exact ih.event run.delivery.ended e
  | action run a ha ih => rw [events_append_action]; exact ih.action run.delivery (move_of_step? ha)

/-- The count of a relay is that of its writer, or none if the writer was stopped. -/
theorem Run.counted {steps : List Step} {s : State} (run : Run steps s) {c : Counts}
    (hf : s.forwarder = .finished (.ok c)) :
    s.writer = .done c.toSsh ∨ s.writer = .aborted ∧ c.toSsh = 0 := by
  induction run with
  | start => cases hf
  | event run e ih =>
      rw [apply_forwarder] at hf
      rw [apply_writer]
      exact ih hf
  | @action _ s _ run a ha ih =>
      have hover : s.writer.isRunning = true → s.forwarder ≠ .finished (.ok c) := fun hw hf' => by
        rw [run.isRunning_eq_false hf'] at hw
        cases hw
      have hresult {n : Nat} (h : (s.finishClosing n).forwarder = .finished (.ok c)) :
          c.toSsh = n := by
        cases hc : s.cancelled with
        | true => simp [State.finishClosing, State.finish, State.closeRead, hc] at h
        | false =>
            have hcounts : ⟨s.toWorker, n⟩ = c := by
              simpa [State.finishClosing, State.finish, State.closeRead, hc] using h
            rw [← hcounts]
      cases move_of_step? ha with
      | takeMessage n m rest hw hi =>
          obtain ⟨w, closed, heq⟩ := handle_eq { s with inbox := rest } n m
          rw [heq] at hf
          exact absurd hf (hover (by rw [hw]; rfl))
      | streamEnds n hw hi he => exact absurd hf (hover (by rw [hw]; rfl))
      | deliver k n rest size hw h₁ h₂ hg => exact absurd hf (hover (by rw [hw]; rfl))
      | deliverFails n rest size hw hg => exact absurd hf (hover (by rw [hw]; rfl))
      | writerEnds deadline n hf' hw =>
          refine .inl ?_
          rw [hresult hf]
          simp [State.finishClosing, State.finish, State.closeRead, Writer.abort, hw,
            Writer.isRunning]
      | graceEnds deadline hf' hw hd =>
          refine .inr ⟨?_, hresult hf⟩
          simp [State.finishClosing, State.finish, State.closeRead, Writer.abort, hw]
      | _ => first | exact ih hf | cases hf

/-- What a relay counts towards ssh when it returns. If the writer has come to its end, these are
the payloads that ssh has received as a whole, and all that it has received if ssh is still there.
If the grace was over before the writer, it is nothing. So the count is what ssh has received if, and
only if, that is nothing at all or what some first messages carry, with a writer that was not
stopped. It is never more. -/
theorem toSsh_of_run {steps : List Step} {s : State} {c : Counts} (run : Run steps s)
    (hr : s.result? = some (.ok c)) :
    (s.writer = .done c.toSsh ∧
        c.toSsh = wholeBytes (workerMessages (events steps)) s.received.length ∨
      s.writer = .aborted ∧ c.toSsh = 0 ∧ GraceOver steps s) ∧
    c.toSsh ≤ s.received.length ∧
    (s.sshGone = false → s.writer ≠ .aborted → c.toSsh = s.received.length) ∧
    (c.toSsh = s.received.length ↔
      s.received = [] ∨
        s.writer ≠ .aborted ∧
          ∃ whole, whole <+: workerMessages (events steps) ∧ s.received = payloads whole) := by
  have del := run.delivery
  have hpre := del.received_isPrefix
  rcases run.counted (State.result?_eq_some_iff.mp hr) with hw | ⟨hw, hzero⟩
  · have hcount : c.toSsh = wholeBytes (workerMessages (events steps)) s.received.length := by
      obtain ⟨taken, hms, hd⟩ := del.taken
      have hcount := run.counting taken hms
      simp only [State.Counted, hw] at hcount
      rw [hms, wholeBytes_append_of_le hd.isPrefix.length_le, hcount]
    have hiff := wholeBytes_eq_length_iff hpre
    refine ⟨.inl ⟨hw, hcount⟩, hcount ▸ wholeBytes_le _ _, fun hg _ => ?_, ?_⟩
    · rw [hcount, (del.received_eq hw hg).1, wholeBytes_payloads]
    · rw [hcount, hiff, hw]
      constructor
      · exact fun h => .inr ⟨nofun, h⟩
      · rintro (h | ⟨-, h⟩)
        · exact ⟨[], List.nil_prefix, h⟩
        · exact h
  · refine ⟨.inr ⟨hw, hzero, run.grace.aborted hw⟩, by omega, fun _ h => absurd hw h, ?_⟩
    rw [hzero, hw]
    constructor
    · exact fun h => .inl (List.length_eq_zero_iff.mp h.symm)
    · rintro (h | ⟨h, -⟩)
      · rw [h]; rfl
      · exact absurd rfl h

/-- ssh ends, and the worker's answer comes and is taken within the grace. -/
def counted : List Step :=
  [.event (.dialEnds (.ok ())), .action .dialEnds, .event (.workerSends (.binary [1, 2])),
    .action .takeMessage, .action (.deliver 1), .event .sshEnds, .action .readEnd,
    .action .queueEnds, .action .accept, .event (.workerSends .ping),
    .event (.workerSends (.text [3])), .event .workerEnds, .action (.deliver 1),
    .action .takeMessage, .action .takeMessage, .action (.deliver 1), .action .streamEnds,
    .action .writerEnds]

theorem toSsh_of_run_answered :
    ∃ s c, Run counted s ∧ s.result? = some (.ok c) ∧ s.received = [1, 2, 3] ∧ c.toSsh = 3 := by
  obtain ⟨s, hs⟩ : ∃ s, counted.foldlM State.perform? .initial = some s := ⟨_, rfl⟩
  have run : Run counted s := Run.start.append hs
  have hreceived : s.received = [1, 2, 3] := by cases hs; rfl
  obtain ⟨c, hc⟩ : ∃ c, s.result? = some (.ok c) := by cases hs; exact ⟨_, rfl⟩
  obtain ⟨-, -, hall, -⟩ := toSsh_of_run run hc
  refine ⟨s, c, run, hc, hreceived, ?_⟩
  rw [hall (by cases hs; rfl) (by cases hs; decide), hreceived]
  rfl

/-- ssh has received everything, but the worker does not answer the close within the grace. -/
def unanswered : List Step :=
  [.event (.dialEnds (.ok ())), .action .dialEnds,
    .event (.workerSends (.binary [104, 105, 33])), .action .takeMessage, .action (.deliver 3),
    .event .sshEnds, .action .readEnd, .action .queueEnds, .action .accept,
    .event (.timePasses 2000), .action .graceEnds]

/-- ssh is gone in the middle of a payload. -/
def interrupted : List Step :=
  [.event (.dialEnds (.ok ())), .action .dialEnds,
    .event (.workerSends (.binary [104, 105, 33])), .action .takeMessage, .action (.deliver 2),
    .event .sshVanishes, .action .deliverFails, .action .readEnd, .action .queueEnds,
    .action .accept, .action .writerEnds]

/-- Relays that return without counting what ssh has received. -/
theorem toSsh_ne_received :
    (∃ s c, Run unanswered s ∧ s.result? = some (.ok c) ∧ s.received = [104, 105, 33] ∧
      c.toSsh = 0) ∧
    ∃ s c, Run interrupted s ∧ s.result? = some (.ok c) ∧ s.received = [104, 105] ∧
      c.toSsh = 0 := by
  constructor
  · obtain ⟨s, hs⟩ : ∃ s, unanswered.foldlM State.perform? .initial = some s := ⟨_, rfl⟩
    exact ⟨s, _, Run.start.append hs, by cases hs; rfl, by cases hs; rfl, rfl⟩
  · obtain ⟨s, hs⟩ : ∃ s, interrupted.foldlM State.perform? .initial = some s := ⟨_, rfl⟩
    exact ⟨s, _, Run.start.append hs, by cases hs; rfl, by cases hs; rfl, rfl⟩

end TunnelSync.Relay
