import Mathlib.Algebra.Order.BigOperators.Group.List
import Mathlib.Algebra.Order.Group.Nat
import TunnelSync.Proofs.Relay.Return
import TunnelSync.Proofs.Relay.ToWorker

/-!
# What a relay holds back

A relay holds what it has taken from ssh and the WebSocket has not accepted: a chunk with the
reader, the queue, and, once there is a WebSocket, a chunk with the forwarder. So however much ssh
writes, the relay takes a bounded number of bytes ahead of the worker. The rest waits with ssh, and
comes after the others when the queue drains.

* `taken` : the bytes that a run has taken from ssh
* `Run.inbound_eq` : what ssh has written is taken in order, and the rest is unread
* `Run.taken_le` : the bound, with and without a WebSocket
* `Stalled.run` : a reader that the queue does not relieve takes nothing
* `Run.accepted_of_atRest` : when the tasks rest, everything is with the worker
* `backlog_of_run` : the bound, and that nothing is lost by it
-/

namespace TunnelSync.Relay

/-- The bytes that a part of a run takes from ssh. -/
def Step.taken : Step → Nat
  | .action (.read n) => n
  | _ => 0

@[simp] theorem Step.taken_event (e : Event) : (Step.event e).taken = 0 := rfl

/-- The bytes that a run has taken from ssh. -/
def taken : List Step → Nat
  | [] => 0
  | x :: steps => x.taken + taken steps

@[simp] theorem taken_nil : taken [] = 0 := rfl

@[simp] theorem taken_cons (x : Step) (steps : List Step) :
    taken (x :: steps) = x.taken + taken steps := rfl

@[simp] theorem taken_append (steps more : List Step) :
    taken (steps ++ more) = taken steps + taken more := by
  induction steps with
  | nil => rw [List.nil_append, taken_nil, Nat.zero_add]
  | cons x steps ih =>
      rw [List.cons_append, taken_cons, taken_cons, ih]
      omega

section
variable {steps : List Step} {s t : State} {a : Action}

/-! ### The queue and what is unread -/

theorem Move.queue_le (h : Move s a t) (hq : s.queue.length ≤ queueDepth) :
    t.queue.length ≤ queueDepth := by
  cases h with
  | enqueue chunk hr hroom =>
      simp only [List.length_append, List.length_singleton]
      omega
  | takeChunk chunk rest hf hqueue =>
      rw [hqueue, List.length_cons] at hq
      dsimp only
      omega
  | takeMessage n m rest hw hi =>
      obtain ⟨w, closed, heq⟩ := handle_eq { s with inbox := rest } n m
      rw [heq]
      exact hq
  | _ => exact hq

theorem apply_queue (s : State) (e : Event) : (s.apply e).queue = s.queue := by
  cases e <;> simp only [State.apply] <;> split <;> rfl

theorem Run.queue_le (run : Run steps s) : s.queue.length ≤ queueDepth := by
  induction run with
  | start => simp [State.initial]
  | event _ e ih =>
      rw [apply_queue]
      exact ih
  | action _ a ha ih => exact (move_of_step? ha).queue_le ih

/-- A step takes from the beginning of what is unread. -/
theorem Move.inbound_eq (h : Move s a t) :
    (Step.action a).taken ≤ s.inbound.length ∧
      t.inbound = s.inbound.drop (Step.action a).taken := by
  cases h with
  | read n hr h₁ h₂ h₃ => exact ⟨h₃, rfl⟩
  | takeMessage n m rest hw hi =>
      obtain ⟨w, closed, heq⟩ := handle_eq { s with inbox := rest } n m
      rw [heq]
      exact ⟨Nat.zero_le _, rfl⟩
  | _ => exact ⟨Nat.zero_le _, rfl⟩

/-- What ssh writes goes behind what is unread. -/
theorem apply_inbound (fwd : Forwarding (events steps) s) (e : Event) :
    ∃ data, (s.apply e).inbound = s.inbound ++ data ∧
      written (events steps ++ [e]) = written (events steps) ++ data := by
  refine ⟨if (events steps).any Event.endsSsh then [] else e.data, ?_, written_append _ _⟩
  cases e with
  | sshWrites data =>
      simp only [State.apply, fwd.ended]
      split
      · exact (List.append_nil _).symm
      · rfl
  | dialEnds r =>
      simp only [State.apply, Event.data, ite_self, List.append_nil]
      split <;> rfl
  | workerSends m =>
      simp only [State.apply, Event.data, ite_self, List.append_nil]
      split <;> rfl
  | _ => simp only [State.apply, Event.data, ite_self, List.append_nil]

/-- What ssh has written is taken from its beginning on, and the rest is unread. -/
theorem Run.inbound_eq (run : Run steps s) :
    taken steps ≤ (written (events steps)).length ∧
      s.inbound = (written (events steps)).drop (taken steps) := by
  induction run with
  | start => exact ⟨Nat.le_refl _, rfl⟩
  | event run e ih =>
      obtain ⟨hle, hin⟩ := ih
      obtain ⟨data, hdata, hwritten⟩ := apply_inbound run.forwarding e
      rw [events_append_event, hwritten, taken_append, hdata, hin]
      simp only [taken_cons, taken_nil, Step.taken_event, List.length_append, Nat.add_zero]
      exact ⟨by omega, (List.drop_append_of_le_length hle).symm⟩
  | action _ a ha ih =>
      obtain ⟨hle, hin⟩ := ih
      obtain ⟨hstep, hrest⟩ := (move_of_step? ha).inbound_eq
      rw [hin, List.length_drop] at hstep
      rw [events_append_action, taken_append, taken_cons, taken_nil, hrest, hin, List.drop_drop]
      exact ⟨by omega, by rw [Nat.add_zero]⟩

/-! ### The bound -/

theorem length_flatten_le {chunks : List Bytes} (h : ∀ chunk ∈ chunks, IsChunk chunk) :
    chunks.flatten.length ≤ chunks.length * readSize := by
  rw [List.length_flatten]
  have hsum : (chunks.map List.length).sum ≤ (chunks.map List.length).length • readSize := by
    refine List.sum_le_card_nsmul _ _ ?_
    intro n hn
    obtain ⟨chunk, hchunk, rfl⟩ := List.mem_map.mp hn
    exact (h chunk hchunk).2
  simpa using hsum

theorem Reader.length_held_le (r : Reader) : r.held.length ≤ 1 := by
  cases r <;> simp [Reader.held]

/-- As long as the forwarder may send, what has been taken is accepted or on its way, and each of
the three places on the way has a bound. -/
theorem Run.taken_le_of_forwarding (run : Run steps s) (hf : s.forwarder.isForwarding = true) :
    taken steps ≤
      (accepted s.sent).length + (queueDepth + 1 + s.forwarder.held.length) * readSize := by
  obtain ⟨hle, hin⟩ := run.inbound_eq
  have hlength := congrArg List.length (run.forwarding.intact hf).1
  rw [List.length_append, List.length_append, hin, List.length_drop] at hlength
  have hcarried := length_flatten_le run.forwarding.carried_chunks
  have hplaces : s.carried.length ≤ queueDepth + 1 + s.forwarder.held.length := by
    have hreader := s.reader.length_held_le
    have hqueue := run.queue_le
    unfold State.carried
    rw [List.length_append, List.length_append]
    omega
  have hbound := Nat.mul_le_mul_right readSize hplaces
  omega

/-- The chunks that a forwarder may hold, for its dial: without a WebSocket it holds none. -/
def Dial.held : Dial → Nat
  | .open => 1
  | _ => 0

theorem Dial.held_le (d : Dial) : d.held ≤ 1 := by cases d <;> simp [Dial.held]

theorem Dial.held_of_ne {d : Dial} (h : d ≠ .open) : d.held = 0 := by
  cases d with
  | «open» => exact absurd rfl h
  | _ => rfl

theorem Run.held_le (run : Run steps s) : s.forwarder.held.length ≤ s.dial.held := by
  cases hf : s.forwarder with
  | sending chunk =>
      rw [run.standing.opened (by rw [hf]; rfl)]
      simp [Forwarder.held, Dial.held]
  | _ => simp [Forwarder.held]

theorem apply_held_le (s : State) (e : Event) : s.dial.held ≤ (s.apply e).dial.held := by
  cases hd : s.dial with
  | «open» => rw [apply_dial hd e]
  | _ => exact Nat.zero_le _

theorem Move.sent_isPrefix (h : Move s a t) : s.sent <+: t.sent := by
  cases h with
  | accept chunk hf => exact List.prefix_append _ _
  | acceptClose hf => exact List.prefix_append _ _
  | takeMessage n m rest hw hi =>
      obtain ⟨w, closed, heq⟩ := handle_eq { s with inbox := rest } n m
      exact ⟨[], by rw [heq, List.append_nil]⟩
  | _ => exact List.prefix_rfl

theorem length_accepted_le {sent sent' : List Frame} (h : sent <+: sent') :
    (accepted sent).length ≤ (accepted sent').length := by
  obtain ⟨rest, rfl⟩ := h
  simp

theorem Move.isForwarding_of_taken (run : Run steps s) (h : Move s a t)
    (ht : (Step.action a).taken ≠ 0) : t.forwarder.isForwarding = true := by
  cases h with
  | read n hr h₁ h₂ h₃ =>
      by_contra hf
      rw [run.reader_done (by simpa using hf)] at hr
      cases hr
  | _ => exact absurd rfl ht

/-- What has been taken and not accepted is bounded, also when the forwarder has stopped: the
reader has stopped with it. -/
theorem Run.taken_le (run : Run steps s) :
    taken steps ≤ (accepted s.sent).length + (queueDepth + 1 + s.dial.held) * readSize := by
  induction run with
  | start => exact Nat.zero_le _
  | @event _ s _ e ih =>
      have hbound := Nat.mul_le_mul_right readSize
        (Nat.add_le_add_left (apply_held_le s e) (queueDepth + 1))
      rw [taken_append, taken_cons, taken_nil, Step.taken_event, apply_sent]
      omega
  | @action steps s t run a ha ih =>
      have hmove := move_of_step? ha
      cases hf : t.forwarder.isForwarding with
      | true =>
          have run' := run.action a ha
          have hbound := Nat.mul_le_mul_right readSize
            (Nat.add_le_add_left run'.held_le (queueDepth + 1))
          have hle := run'.taken_le_of_forwarding hf
          omega
      | false =>
          have hnone : (Step.action a).taken = 0 := by
            by_contra h
            rw [hmove.isForwarding_of_taken run h] at hf
            cases hf
          have haccepted := length_accepted_le hmove.sent_isPrefix
          rw [taken_append, taken_cons, taken_nil, hnone, hmove.known.1]
          omega

/-! ### A full queue -/

/-- A reader that is held up by the queue, or stopped, beside a queue that is full. -/
structure Stalled (queue : List Bytes) (chunk : Bytes) (s : State) : Prop where
  reader : s.reader = .holding chunk ∨ s.reader = .done
  queue_eq : s.queue = queue
  full : s.queue.length = queueDepth

namespace Stalled

variable {queue : List Bytes} {chunk : Bytes}

/-- Nothing but the forwarder relieves the reader. -/
theorem action (inv : Stalled queue chunk s) (h : Move s a t) (ha : a ≠ .takeChunk) :
    (Step.action a).taken = 0 ∧ Stalled queue chunk t := by
  obtain ⟨hr, hq, hfull⟩ := inv
  have hreading : s.reader ≠ .reading := by
    rintro h
    rcases hr with hr | hr <;> rw [h] at hr <;> cases hr
  cases h with
  | read n hr' h₁ h₂ h₃ => exact absurd hr' hreading
  | enqueue c hr' hroom => omega
  | takeChunk c rest hf hqueue => exact absurd rfl ha
  | takeMessage n m rest hw hi =>
      obtain ⟨w, closed, heq⟩ := handle_eq { s with inbox := rest } n m
      rw [heq]
      exact ⟨rfl, hr, hq, hfull⟩
  | dialOpens hf hd => exact ⟨rfl, hr, hq, hfull⟩
  | queueEnds hr' hf hq' => exact ⟨rfl, hr, hq, hfull⟩
  | accept c hf => exact ⟨rfl, hr, hq, hfull⟩
  | streamEnds n hw hi he => exact ⟨rfl, hr, hq, hfull⟩
  | deliver k n rest size hw h₁ h₂ hg => exact ⟨rfl, hr, hq, hfull⟩
  | deliverFails n rest size hw hg => exact ⟨rfl, hr, hq, hfull⟩
  | _ => exact ⟨rfl, .inr rfl, hq, hfull⟩

theorem event (inv : Stalled queue chunk s) (e : Event) : Stalled queue chunk (s.apply e) := by
  refine ⟨?_, ?_, ?_⟩
  · rw [apply_reader]
    exact inv.reader
  · rw [apply_queue]
    exact inv.queue_eq
  · rw [apply_queue]
    exact inv.full

/-- As long as the forwarder takes no chunk, nothing is taken from ssh. -/
theorem run {more : List Step} (inv : Stalled queue chunk s)
    (h : more.foldlM State.perform? s = some t) (htake : .action .takeChunk ∉ more) :
    taken more = 0 ∧ Stalled queue chunk t := by
  induction more generalizing s with
  | nil =>
      obtain rfl : s = t := by simpa using h
      exact ⟨rfl, inv⟩
  | cons x more ih =>
      obtain ⟨u, hu, ht⟩ : ∃ u, s.perform? x = some u ∧ more.foldlM State.perform? u = some t := by
        simpa [List.foldlM_cons, Option.bind_eq_some_iff] using h
      obtain ⟨hx, hmore⟩ : x ≠ .action .takeChunk ∧ .action .takeChunk ∉ more := by
        simpa [eq_comm] using htake
      have hstep : x.taken = 0 ∧ Stalled queue chunk u := by
        cases x with
        | event e =>
            cases hu
            exact ⟨rfl, inv.event e⟩
        | action a => exact inv.action (move_of_step? hu) (fun heq => hx (by rw [heq]))
      obtain ⟨hnone, inv'⟩ := ih hstep.2 ht hmore
      rw [taken_cons]
      exact ⟨by omega, inv'⟩

end Stalled

/-! ### The queue drains -/

/-- A relay with a WebSocket that nothing cancels returns its counts. -/
theorem Run.exists_counts_of_open (run : Run steps s) (hd : s.dial = .open)
    (hc : .event .cancel ∉ steps) {r : Except SyncError Counts} (hr : s.result? = some r) :
    ∃ c, r = .ok c := by
  obtain ⟨before, after, v, rfl, hv, -⟩ := run.exists_returns hr
  have inv := hv.run.1.recorded
  have hopen := Dial.ofResult_eq_open_iff.mp (run.recorded.dial.symm.trans hd)
  rw [events_append, dialed_append] at hopen
  cases hv.decided.1 with
  | dialFailed e hfailed =>
      rw [Dial.ofResult_eq_failed_iff.mp (inv.dial.symm.trans hfailed), Option.some_or] at hopen
      cases hopen
  | cancelled h => exact absurd (List.mem_append_left _ (inv.cancelled.mp h)) hc
  | counted c _ _ => exact ⟨c, rfl⟩

/-- With a WebSocket, and without a failed send, a failed read or a cancellation, the tasks rest
only when the worker has everything that ssh has written. -/
theorem Run.accepted_of_atRest (run : Run steps s) (hd : s.dial = .open)
    (hquiet : ∀ x ∈ steps, x.isDisturbance = false) (hrest : s.AtRest) :
    accepted s.sent = written (events steps) := by
  have fwd := run.forwarding
  have hc : .event .cancel ∉ steps := fun h => by
    have := hquiet _ h
    cases this
  cases hforwarding : s.forwarder.isForwarding with
  | false =>
      rcases (run.drained hquiet).stopped hforwarding with ⟨e, he⟩ | ⟨-, hw, -⟩
      · obtain ⟨c, hok⟩ := run.exists_counts_of_open hd hc (State.result?_eq_some_iff.mpr he)
        cases hok
      · exact hw
  | true =>
      have heq := (fwd.intact hforwarding).1
      cases hf : s.forwarder with
      | dialing =>
          rw [(hrest.of_dialing hf).2] at hd
          cases hd
      | ready =>
          obtain ⟨-, hq, hended, hgone⟩ := hrest.of_ready hf
          have hreader : s.reader ≠ .done := fun hr => by
            have hend := ((run.drained hquiet).reader_done hr hforwarding).2
            rw [← fwd.ended, hended, hgone] at hend
            cases hend
          obtain ⟨hr, hin, -, -⟩ := hrest.of_room (by simp [hq, queueDepth]) hreader
          simpa [State.carried, hf, hq, hr, hin, Forwarder.held, Reader.held] using heq
      | sending chunk => exact absurd hf (hrest.not_sending chunk)
      | ending => exact absurd hf hrest.not_ending
      | closing deadline => rw [hf] at hforwarding; cases hforwarding
      | finished r => rw [hf] at hforwarding; cases hforwarding

/-- Where something can be done, it can be done without a failed send or read. -/
theorem exists_step_of_not_atRest (h : ¬ s.AtRest) :
    ∃ a t, s.step? a = some t ∧ a ≠ .refuse ∧ a ≠ .readFails := by
  obtain ⟨a, ha⟩ := not_forall.mp h
  obtain ⟨t, ht⟩ := Option.ne_none_iff_exists'.mp ha
  by_cases hrefuse : a = .refuse
  · subst hrefuse
    cases move_of_step? ht with
    | refuse chunk hf => exact ⟨.accept, _, by simp only [State.step?, hf]; rfl, by simp, by simp⟩
    | refuseClose hf => exact ⟨.accept, _, by simp only [State.step?, hf]; rfl, by simp, by simp⟩
  by_cases hfails : a = .readFails
  · subst hfails
    cases move_of_step? ht with
    | readFails hr hg =>
        cases hi : s.inbound with
        | nil => exact ⟨.readEnd, _, by simp [State.step?, hr, hi, hg]; rfl, by simp, by simp⟩
        | cons b bs =>
            exact ⟨.read 1, _, by simp only [State.step?, hr, hi]; rfl, by simp, by simp⟩
  exact ⟨a, t, ht, hrefuse, hfails⟩

theorem exists_atRest (s : State) :
    ∃ (as : List Action) (t : State), as.foldlM State.step? s = some t ∧ .refuse ∉ as ∧
      .readFails ∉ as ∧ t.AtRest := by
  induction hn : s.rank using Nat.strongRecOn generalizing s with
  | _ n ih =>
    by_cases hrest : s.AtRest
    · exact ⟨[], s, rfl, by simp, by simp, hrest⟩
    · obtain ⟨a, u, hu, hrefuse, hfails⟩ := exists_step_of_not_atRest hrest
      have hlt := (move_of_step? hu).rank_lt
      obtain ⟨as, t, ht, hrefuse', hfails', hrest'⟩ := ih u.rank (by omega) u rfl
      refine ⟨a :: as, t, ?_, ?_, ?_, hrest'⟩
      · simpa [List.foldlM_cons, hu] using ht
      · simpa using ⟨hrefuse.symm, hrefuse'⟩
      · simpa using ⟨hfails.symm, hfails'⟩

end

/-- **What a relay holds back.** In every state of every run the queue has no more chunks than its
depth, each of a size that one read could give, and what has been taken from ssh and not been
accepted is no more than the queue, the reader and the forwarder can hold; before there is a
WebSocket, no more than the queue and the reader can hold. What ssh has written is taken in order,
and the rest of it is unread. As long as the forwarder may send, nothing is lost between ssh and the
worker. A reader with a chunk for a full queue takes nothing until the forwarder takes a chunk,
whatever else happens. With a WebSocket, and without a failed send, a failed read or a cancellation,
the tasks can run on until they rest, and wherever they rest the worker has everything that ssh has
written. -/
theorem backlog_of_run {steps : List Step} {s : State} (run : Run steps s) :
    (s.queue.length ≤ queueDepth ∧
      ∀ chunk ∈ s.queue, 1 ≤ chunk.length ∧ chunk.length ≤ readSize) ∧
    taken steps ≤ (accepted s.sent).length + (queueDepth + 2) * readSize ∧
    (s.dial ≠ .open ∨ s.forwarder = .dialing →
      taken steps ≤ (accepted s.sent).length + (queueDepth + 1) * readSize) ∧
    (taken steps ≤ (written (events steps)).length ∧
      s.inbound = (written (events steps)).drop (taken steps)) ∧
    (s.forwarder.isForwarding = true →
      accepted s.sent ++ s.carried.flatten ++ s.inbound = written (events steps)) ∧
    (∀ chunk, s.reader = .holding chunk → s.queue.length = queueDepth →
      ∀ (more : List Step) (t : State), more.foldlM State.perform? s = some t →
        .action .takeChunk ∉ more → taken (steps ++ more) = taken steps ∧ t.queue = s.queue ∧
          (t.reader = .holding chunk ∨ t.reader = .done)) ∧
    (s.dial = .open → .event .cancel ∉ steps → .action .refuse ∉ steps →
      .action .readFails ∉ steps →
      (∃ (as : List Action) (t : State), as.foldlM State.step? s = some t ∧ .refuse ∉ as ∧
        .readFails ∉ as ∧ t.AtRest) ∧
      ∀ (as : List Action) (t : State), as.foldlM State.step? s = some t → .refuse ∉ as →
        .readFails ∉ as → t.AtRest → accepted t.sent = written (events steps)) := by
  have fwd := run.forwarding
  refine ⟨⟨run.queue_le, ?_⟩, ?_, ?_, run.inbound_eq, fun hf => (fwd.intact hf).1, ?_, ?_⟩
  · intro chunk hchunk
    exact fwd.carried_chunks chunk (by simp [State.carried, hchunk])
  · have hplaces : queueDepth + 1 + s.dial.held ≤ queueDepth + 2 := by
      have := s.dial.held_le
      omega
    have hbound := Nat.mul_le_mul_right readSize hplaces
    have hle := run.taken_le
    omega
  · rintro (hd | hf)
    · simpa [Dial.held_of_ne hd] using run.taken_le
    · simpa [hf, Forwarder.held] using run.taken_le_of_forwarding (by rw [hf]; rfl)
  · intro chunk hr hfull more t hmore htake
    have inv : Stalled s.queue chunk s := ⟨.inl hr, rfl, hfull⟩
    obtain ⟨hnone, inv'⟩ := inv.run hmore htake
    rw [taken_append, hnone]
    exact ⟨rfl, inv'.queue_eq, inv'.reader⟩
  · intro hd hcancel hrefuse hread
    refine ⟨exists_atRest s, ?_⟩
    intro as t has hrefuse' hread' hrest
    have hmore : (as.map Step.action).foldlM State.perform? s = some t := by
      rw [List.foldlM_map]
      exact has
    have run' := run.append hmore
    have hevents : events (steps ++ as.map Step.action) = events steps := by
      rw [events_append, List.append_right_eq_self]
      simp [events]
    have hopen : t.dial = .open := by
      rw [run'.recorded.dial, hevents, ← run.recorded.dial, hd]
    have hquiet : ∀ x ∈ steps ++ as.map Step.action, x.isDisturbance = false := by
      intro x hx
      cases hx' : x.isDisturbance with
      | false => rfl
      | true =>
          unfold Step.isDisturbance at hx'
          split at hx' <;> simp_all
    rw [← hevents]
    exact run'.accepted_of_atRest hopen hquiet hrest

set_option maxRecDepth 4000 in
/-- The queue is full before the dial ends, and the reader waits for it. When the dial has succeeded
the tasks bring all of it to the worker. -/
theorem backlog_of_run_fullQueue :
    (∃ s t, Run fullQueue s ∧ s.reader = .holding [0] ∧ s.queue.length = queueDepth ∧
      Run (fullQueue ++ [.event (.sshWrites [1]), .event (.timePasses 1)]) t ∧
      taken (fullQueue ++ [.event (.sshWrites [1]), .event (.timePasses 1)]) = taken fullQueue ∧
      t.inbound = [1]) ∧
    ∃ (s : State) (as : List Action) (t : State), Run (fullQueue ++ [.event (.dialEnds (.ok ()))]) s ∧
      as.foldlM State.step? s = some t ∧ t.AtRest ∧
      accepted t.sent = List.replicate (queueDepth + 1) 0 := by
  constructor
  · obtain ⟨s, hs⟩ : ∃ s, fullQueue.foldlM State.perform? .initial = some s := ⟨_, rfl⟩
    have run : Run fullQueue s := Run.start.append hs
    have hr : s.reader = .holding [0] := by cases hs; rfl
    have hfull : s.queue.length = queueDepth := by cases hs; rfl
    obtain ⟨t, ht⟩ : ∃ t, [Step.event (.sshWrites [1]), .event (.timePasses 1)].foldlM
        State.perform? s = some t := ⟨_, rfl⟩
    obtain ⟨-, -, -, -, -, hstalled, -⟩ := backlog_of_run run
    obtain ⟨htaken, -, -⟩ := hstalled [0] hr hfull _ t ht (by simp)
    exact ⟨s, t, run, hr, hfull, run.append ht, htaken, by cases hs; cases ht; rfl⟩
  · obtain ⟨s, hs⟩ : ∃ s, (fullQueue ++ [Step.event (.dialEnds (.ok ()))]).foldlM
        State.perform? .initial = some s := ⟨_, rfl⟩
    have run : Run (fullQueue ++ [.event (.dialEnds (.ok ()))]) s := Run.start.append hs
    have hd : s.dial = .open := by cases hs; rfl
    obtain ⟨-, -, -, -, -, -, hdrains⟩ := backlog_of_run run
    obtain ⟨⟨as, t, has, hrefuse, hread, hrest⟩, hall⟩ :=
      hdrains hd (by simp [fullQueue]) (by simp [fullQueue]) (by simp [fullQueue])
    refine ⟨s, as, t, run, has, hrest, ?_⟩
    rw [hall as t has hrefuse hread hrest]
    rfl

end TunnelSync.Relay
