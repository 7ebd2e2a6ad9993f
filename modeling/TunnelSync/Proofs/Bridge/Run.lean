import TunnelSync.Bridge.Step

/-!
# Runs of a bridge

A `Run` is everything that happens to a bridge, in order: the events around it and what it notices,
and the state that they lead to.

* `Run` : a run from the start of rsync on, with the state that it leads to
* `noticed` : what the bridge has noticed, in order
* `produced?` : what rsync produced
* `Move` : what each action needs and what it changes, one constructor for each case
* `Course` : what the bridge can have noticed in each phase, the invariant of all runs

A bridge notices four things at most, so the list of what it has noticed tells which way it went.
-/

namespace TunnelSync.Bridge

open Copy (Event RelayEnd)

/-- A part of a run: something happens around the bridge, or it notices something. -/
inductive Step
  | event (e : Event)
  | action (a : Action)
  deriving Repr

/-- The runs of a bridge from the start of its rsync on. -/
inductive Run (t : Timeouts) : List Step → State → Prop
  | start : Run t [] (.initial t)
  | event {steps : List Step} {s : State} (run : Run t steps s) (e : Event) :
      Run t (steps ++ [.event e]) (s.apply e)
  | action {steps : List Step} {s u : State} (run : Run t steps s) (a : Action)
      (ha : s.step? t a = some u) : Run t (steps ++ [.action a]) u

/-- The state after a part of a run, or `none` where it is not possible. -/
def State.perform? (t : Timeouts) (s : State) : Step → Option State
  | .event e => some (s.apply e)
  | .action a => s.step? t a

theorem Run.append {t : Timeouts} {steps more : List Step} {s u : State} (run : Run t steps s)
    (h : more.foldlM (State.perform? t) s = some u) : Run t (steps ++ more) u := by
  induction more generalizing steps s with
  | nil =>
      obtain rfl : s = u := by simpa using h
      simpa using run
  | cons x more ih =>
      obtain ⟨v, hv, hu⟩ : ∃ v, s.perform? t x = some v ∧
          more.foldlM (State.perform? t) v = some u := by
        simpa [List.foldlM_cons, Option.bind_eq_some_iff] using h
      have hx : Run t (steps ++ [x]) v := by
        cases x with
        | event e => cases hv; exact run.event e
        | action a => exact run.action a hv
      simpa using ih hx hu

theorem exists_run {t : Timeouts} {s : State} (h : Reaches t (.initial t) s) :
    ∃ steps, Run t steps s := by
  induction h with
  | refl => exact ⟨[], .start⟩
  | event _ e ih =>
      obtain ⟨steps, run⟩ := ih
      exact ⟨_, run.event e⟩
  | action _ a ha ih =>
      obtain ⟨steps, run⟩ := ih
      exact ⟨_, run.action a ha⟩

/-- A result in the one order is that of a run, so what holds of every run holds of it. -/
theorem exists_run_of_run {t : Timeouts} {events : List Event}
    {r : Except SyncError Rsync.Output} (h : Bridge.run t events = some r) :
    ∃ steps s, Run t steps s ∧ s.result? = some r := by
  obtain ⟨s, hs, hr⟩ := reaches_of_run h
  obtain ⟨steps, run⟩ := exists_run hs
  exact ⟨steps, s, run, hr⟩

/-! ### What happened and what was noticed -/

/-- What the bridge has noticed, in order. -/
def noticed (steps : List Step) : List Action :=
  steps.filterMap fun
    | .event _ => none
    | .action a => some a

@[simp] theorem noticed_append_event (steps : List Step) (e : Event) :
    noticed (steps ++ [.event e]) = noticed steps := by simp [noticed]

@[simp] theorem noticed_append_action (steps : List Step) (a : Action) :
    noticed (steps ++ [.action a]) = noticed steps ++ [a] := by simp [noticed]

theorem mem_noticed_iff {steps : List Step} {a : Action} :
    a ∈ noticed steps ↔ .action a ∈ steps := by
  simp only [noticed, List.mem_filterMap]
  constructor
  · rintro ⟨x, hx, h⟩
    cases x with
    | event e => cases h
    | action b => cases h; exact hx
  · intro h
    exact ⟨_, h, rfl⟩

/-- The output of an rsync that ends. -/
def Step.output? : Step → Option Rsync.Output
  | .event (.exits o) => some o
  | _ => none

/-- What rsync produced: a process ends once. -/
def produced? (steps : List Step) : Option Rsync.Output := steps.findSome? Step.output?

theorem produced?_append (steps : List Step) (x : Step) :
    produced? (steps ++ [x]) = (produced? steps).or x.output? := by
  cases h : x.output? <;> simp [produced?, List.findSome?_append, h]

/-! ### What an action needs and changes -/

/-- The actions of a state with the states that they lead to. -/
inductive Move (t : Timeouts) (s : State) : Action → State → Prop
  | accept (deadline : Nat) (hp : s.phase = .accepting deadline) (hc : s.connected = true) :
      Move t s .accept { s with phase := .copying }
  | listenerFails (deadline : Nat) (why : Text) (hp : s.phase = .accepting deadline)
      (hf : s.listenerFailure = some why) :
      Move t s .listenerFails (s.abandon (.connectionWhile "bridge accept failed" why))
  | acceptExpires (deadline : Nat) (hp : s.phase = .accepting deadline) (hd : deadline ≤ s.now) :
      Move t s .acceptExpires (s.abandon (State.acceptTimeout t))
  | exitUnconnected (deadline : Nat) (o : Rsync.Output) (hp : s.phase = .accepting deadline)
      (he : s.exited = some o) : Move t s .exit { s with phase := .unused }
  | cancelUnconnected (deadline : Nat) (hp : s.phase = .accepting deadline)
      (hc : s.cancelled = true) : Move t s .cancel (s.abandon .cancelled)
  | exitUnused (o : Rsync.Output) (hp : s.phase = .unused) (he : s.exited = some o) :
      Move t s .exit (s.finish (.ok o))
  | cancelUnused (hp : s.phase = .unused) (hc : s.cancelled = true) :
      Move t s .cancel (s.abandon .cancelled)
  | exit (o : Rsync.Output) (hp : s.phase = .copying) (he : s.exited = some o) :
      Move t s .exit { s with phase := .closing (.ok o) (s.now + t.bridgeShutdown) }
  | cancel (hp : s.phase = .copying) (hc : s.cancelled = true) :
      Move t s .cancel
        { s with
          killed := true
          phase := .closing (.error .cancelled) (s.now + t.bridgeShutdown) }
  | relayEnds (copy : Except SyncError Rsync.Output) (deadline : Nat) (r : RelayEnd)
      (hp : s.phase = .closing copy deadline) (hr : s.relayEnd = some r) :
      Move t s .relayEnds (s.finish (verdict copy r))
  | shutdownExpires (copy : Except SyncError Rsync.Output) (deadline : Nat)
      (hp : s.phase = .closing copy deadline) (hd : deadline ≤ s.now) (hr : s.relayEnd = none) :
      Move t s .shutdownExpires { s with phase := .stopping copy }
  | relayStops (copy : Except SyncError Rsync.Output) (r : RelayEnd)
      (hp : s.phase = .stopping copy) (hr : s.relayEnd = some r) :
      Move t s .relayEnds (s.finish (verdict copy r))

section
variable {t : Timeouts} {s u : State} {a : Action}

theorem move_of_accepting {deadline : Nat} (hp : s.phase = .accepting deadline)
    (h : s.step? t a = some u) : Move t s a u := by
  cases a with
  | accept =>
      simp only [State.step?, hp, Option.ite_none_right_eq_some, Option.some.injEq] at h
      obtain ⟨hc, rfl⟩ := h
      exact .accept deadline hp hc
  | listenerFails =>
      simp only [State.step?, hp, Option.map_eq_some_iff] at h
      obtain ⟨why, hf, rfl⟩ := h
      exact .listenerFails deadline why hp hf
  | acceptExpires =>
      simp only [State.step?, hp, Option.ite_none_right_eq_some, Option.some.injEq] at h
      obtain ⟨⟨hd, -, -⟩, rfl⟩ := h
      exact .acceptExpires deadline hp hd
  | exit =>
      simp only [State.step?, hp, Option.ite_none_right_eq_some, Option.some.injEq] at h
      obtain ⟨he, rfl⟩ := h
      obtain ⟨o, ho⟩ := Option.isSome_iff_exists.mp he
      exact .exitUnconnected deadline o hp ho
  | cancel =>
      simp only [State.step?, hp, Option.ite_none_right_eq_some, Option.some.injEq] at h
      obtain ⟨hc, rfl⟩ := h
      exact .cancelUnconnected deadline hp hc
  | _ => simp [State.step?, hp] at h

theorem move_of_unused (hp : s.phase = .unused) (h : s.step? t a = some u) : Move t s a u := by
  cases a with
  | exit =>
      simp only [State.step?, hp, Option.map_eq_some_iff] at h
      obtain ⟨o, he, rfl⟩ := h
      exact .exitUnused o hp he
  | cancel =>
      simp only [State.step?, hp, Option.ite_none_right_eq_some, Option.some.injEq] at h
      obtain ⟨hc, rfl⟩ := h
      exact .cancelUnused hp hc
  | _ => simp [State.step?, hp] at h

theorem move_of_copying (hp : s.phase = .copying) (h : s.step? t a = some u) : Move t s a u := by
  cases a with
  | exit =>
      simp only [State.step?, hp, Option.map_eq_some_iff] at h
      obtain ⟨o, he, rfl⟩ := h
      exact .exit o hp he
  | cancel =>
      simp only [State.step?, hp, Option.ite_none_right_eq_some, Option.some.injEq] at h
      obtain ⟨hc, rfl⟩ := h
      exact .cancel hp hc
  | _ => simp [State.step?, hp] at h

theorem move_of_closing {copy : Except SyncError Rsync.Output} {deadline : Nat}
    (hp : s.phase = .closing copy deadline) (h : s.step? t a = some u) : Move t s a u := by
  cases a with
  | relayEnds =>
      simp only [State.step?, hp, Option.map_eq_some_iff] at h
      obtain ⟨r, hr, rfl⟩ := h
      exact .relayEnds copy deadline r hp hr
  | shutdownExpires =>
      simp only [State.step?, hp, Option.ite_none_right_eq_some, Option.some.injEq,
        Option.isNone_iff_eq_none] at h
      obtain ⟨⟨hd, hr⟩, rfl⟩ := h
      exact .shutdownExpires copy deadline hp hd hr
  | _ => simp [State.step?, hp] at h

theorem move_of_stopping {copy : Except SyncError Rsync.Output} (hp : s.phase = .stopping copy)
    (h : s.step? t a = some u) : Move t s a u := by
  cases a with
  | relayEnds =>
      simp only [State.step?, hp, Option.map_eq_some_iff] at h
      obtain ⟨r, hr, rfl⟩ := h
      exact .relayStops copy r hp hr
  | _ => simp [State.step?, hp] at h

/-- An action does nothing but what one of the moves says. -/
theorem move_of_step? (h : s.step? t a = some u) : Move t s a u := by
  cases hp : s.phase with
  | accepting deadline => exact move_of_accepting hp h
  | unused => exact move_of_unused hp h
  | copying => exact move_of_copying hp h
  | closing copy deadline => exact move_of_closing hp h
  | stopping copy => exact move_of_stopping hp h
  | finished r => simp [State.step?, hp] at h

end

/-! ### The courses of a bridge -/

/-- How rsync was seen to end while the relay ran: by itself, or killed for the cancellation. -/
inductive CopyEnds (exited : Option Rsync.Output) (killed : Bool) :
    Action → Except SyncError Rsync.Output → Prop
  | exit (o : Rsync.Output) (he : exited = some o) (hk : killed = false) :
      CopyEnds exited killed .exit (.ok o)
  | cancel (hk : killed = true) : CopyEnds exited killed .cancel (.error .cancelled)

/-- What a bridge can have noticed, for each phase. -/
inductive Course (t : Timeouts) (steps : List Step) (exited : Option Rsync.Output)
    (killed : Bool) (relayEnd : Option RelayEnd) : List Action → Phase → Prop
  | accepting (deadline : Nat) (hk : killed = false) (hr : relayEnd = none) :
      Course t steps exited killed relayEnd [] (.accepting deadline)
  | unused (o : Rsync.Output) (he : exited = some o) (hk : killed = false)
      (hr : relayEnd = none) : Course t steps exited killed relayEnd [.exit] .unused
  | copying (hk : killed = false) : Course t steps exited killed relayEnd [.accept] .copying
  | closing {a : Action} {copy : Except SyncError Rsync.Output} (h : CopyEnds exited killed a copy)
      (deadline : Nat) :
      Course t steps exited killed relayEnd [.accept, a] (.closing copy deadline)
  | stopping {a : Action} {copy : Except SyncError Rsync.Output}
      (h : CopyEnds exited killed a copy) :
      Course t steps exited killed relayEnd [.accept, a, .shutdownExpires] (.stopping copy)
  | listenerFailed (why : Text) (hw : .event (.listenerFails why) ∈ steps) (hk : killed = true) :
      Course t steps exited killed relayEnd [.listenerFails]
        (.finished (.error (.connectionWhile "bridge accept failed" why)))
  | acceptExpired (hk : killed = true) :
      Course t steps exited killed relayEnd [.acceptExpires]
        (.finished (.error (State.acceptTimeout t)))
  | cancelled {as : List Action} (has : as = [.cancel] ∨ as = [.exit, .cancel])
      (hk : killed = true) :
      Course t steps exited killed relayEnd as (.finished (.error .cancelled))
  | unconnected (o : Rsync.Output) (he : exited = some o) (hr : relayEnd = none) :
      Course t steps exited killed relayEnd [.exit, .exit] (.finished (.ok o))
  | ended {a : Action} {copy : Except SyncError Rsync.Output} (h : CopyEnds exited killed a copy)
      {as : List Action} (has : as = [] ∨ as = [.shutdownExpires]) (r : RelayEnd)
      (hr : relayEnd = some r) :
      Course t steps exited killed relayEnd (.accept :: a :: as ++ [.relayEnds])
        (.finished (verdict copy r))

/-- What the state of a bridge has in common with what happened to it. -/
structure Witnessed (t : Timeouts) (steps : List Step) (s : State) : Prop where
  exited : ∀ o, s.exited = some o → produced? steps = some o
  /-- Nothing keeps an rsync that was not killed from ending. -/
  alive : s.killed = false → s.exited = produced? steps
  cancelled : s.cancelled = true → .event .cancel ∈ steps
  given_up : .cancel ∈ noticed steps → .event .cancel ∈ steps
  listener : ∀ why, s.listenerFailure = some why → .event (.listenerFails why) ∈ steps
  relay : ∀ r, s.relayEnd = some r → .event (.relayEnds r) ∈ steps
  course : Course t steps s.exited s.killed s.relayEnd (noticed steps) s.phase

/-! ### The courses are those of the runs -/

section
variable {t : Timeouts} {steps : List Step} {s u : State}

/-- A course goes on while things happen around the bridge. -/
theorem Course.event {as : List Action} {e : Event}
    (h : Course t steps s.exited s.killed s.relayEnd as s.phase) (hk : u.killed = s.killed)
    (he : ∀ o, s.exited = some o → u.exited = some o)
    (hr : ∀ r, s.relayEnd = some r → u.relayEnd = some r)
    (hn : s.relayEnd = none → s.hasRelay = false → u.relayEnd = none) :
    Course t (steps ++ [.event e]) u.exited u.killed u.relayEnd as s.phase := by
  have hends : ∀ {a copy}, CopyEnds s.exited s.killed a copy →
      CopyEnds u.exited u.killed a copy := by
    intro a copy h
    cases h with
    | exit o ho hkilled => exact .exit o (he o ho) (hk.trans hkilled)
    | cancel hkilled => exact .cancel (hk.trans hkilled)
  generalize hp : s.phase = p at h
  cases h with
  | accepting deadline hkilled hrelay =>
      exact .accepting deadline (hk.trans hkilled) (hn hrelay (by simp [State.hasRelay, hp]))
  | unused o ho hkilled hrelay =>
      exact .unused o (he o ho) (hk.trans hkilled) (hn hrelay (by simp [State.hasRelay, hp]))
  | copying hkilled => exact .copying (hk.trans hkilled)
  | closing h deadline => exact .closing (hends h) deadline
  | stopping h => exact .stopping (hends h)
  | listenerFailed why hw hkilled => exact .listenerFailed why (by simp [hw]) (hk.trans hkilled)
  | acceptExpired hkilled => exact .acceptExpired (hk.trans hkilled)
  | cancelled has hkilled => exact .cancelled has (hk.trans hkilled)
  | unconnected o ho hrelay =>
      exact .unconnected o (he o ho) (hn hrelay (by simp [State.hasRelay, hp]))
  | ended h has r hrelay => exact .ended (hends h) has r (hr r hrelay)

namespace Witnessed

theorem initial : Witnessed t [] (.initial t) where
  exited := nofun
  alive := fun _ => rfl
  cancelled := nofun
  given_up := nofun
  listener := nofun
  relay := nofun
  course := .accepting t.accept rfl rfl

/-- Something happens that is neither the end of rsync nor that of the relay. -/
theorem around (inv : Witnessed t steps s) {e : Event} (hout : (Step.event e).output? = none)
    {connected cancelled : Bool} {failure : Option Text} {now : Nat}
    (hc : cancelled = true → s.cancelled = true ∨ e = .cancel)
    (hf : ∀ why, failure = some why → s.listenerFailure = some why ∨ e = .listenerFails why) :
    Witnessed t (steps ++ [.event e])
      { s with
        connected := connected, listenerFailure := failure, cancelled := cancelled
        now := now } where
  exited := fun o ho => by rw [produced?_append, inv.exited o ho]; rfl
  alive := fun hk => by
    rw [produced?_append, hout, Option.or_none]
    exact inv.alive hk
  cancelled := fun h => by
    rcases hc h with h | rfl
    · simp [inv.cancelled h]
    · simp
  given_up := fun h => by
    rw [noticed_append_event] at h
    simp [inv.given_up h]
  listener := fun why h => by
    rcases hf why h with h | rfl
    · simp [inv.listener why h]
    · simp
  relay := fun r h => by simp [inv.relay r h]
  course := by
    rw [noticed_append_event]
    exact inv.course.event rfl (fun _ h => h) (fun _ h => h) fun h _ => h

/-- rsync ends, unless it has ended or was killed before. -/
theorem exits (inv : Witnessed t steps s) (o : Rsync.Output) :
    Witnessed t (steps ++ [.event (.exits o)]) (s.apply (.exits o)) := by
  by_cases hover : (s.killed || s.exited.isSome) = true
  · have hs : s.apply (.exits o) = s := by simp only [State.apply, hover, if_true]
    rw [hs]
    refine
      { exited := fun o' ho => by rw [produced?_append, inv.exited o' ho]; rfl
        alive := fun hk => ?_
        cancelled := fun h => by simp [inv.cancelled h]
        given_up := fun h => by simp [inv.given_up (by simpa using h)]
        listener := fun why h => by simp [inv.listener why h]
        relay := fun r h => by simp [inv.relay r h]
        course := ?_ }
    · obtain ⟨o', ho⟩ := Option.isSome_iff_exists.mp (by simpa [hk] using hover)
      rw [produced?_append, inv.exited o' ho]
      exact ho
    · rw [noticed_append_event]
      exact inv.course.event rfl (fun _ h => h) (fun _ h => h) fun h _ => h
  · have hs : s.apply (.exits o) = { s with exited := some o } := by
      simp only [State.apply, hover, Bool.false_eq_true, if_false]
    obtain ⟨hk, hnone⟩ : s.killed = false ∧ s.exited = none := by simpa using hover
    have hfirst : produced? (steps ++ [.event (.exits o)]) = some o := by
      rw [produced?_append, ← inv.alive hk, hnone]
      rfl
    rw [hs]
    refine
      { exited := fun o' ho => by cases ho; exact hfirst
        alive := fun _ => hfirst.symm
        cancelled := fun h => by simp [inv.cancelled h]
        given_up := fun h => by simp [inv.given_up (by simpa using h)]
        listener := fun why h => by simp [inv.listener why h]
        relay := fun r h => by simp [inv.relay r h]
        course := ?_ }
    rw [noticed_append_event]
    exact inv.course.event rfl (fun o' ho => by rw [hnone] at ho; cases ho) (fun _ h => h)
      fun h _ => h

/-- The relay ends, if there is one. -/
theorem relayEnds (inv : Witnessed t steps s) (r : RelayEnd) :
    Witnessed t (steps ++ [.event (.relayEnds r)]) (s.apply (.relayEnds r)) := by
  cases hrelay : s.hasRelay with
  | false =>
      have hs : s.apply (.relayEnds r) = s := by
        simp only [State.apply, hrelay, Bool.false_eq_true, if_false]
      rw [hs]
      exact inv.around rfl (fun h => .inl h) fun _ h => .inl h
  | true =>
      have hs : s.apply (.relayEnds r) = { s with relayEnd := some r } := by
        simp only [State.apply, hrelay, if_true]
      have hnone : s.relayEnd = none := by
        unfold State.hasRelay at hrelay
        split at hrelay <;> first | exact Option.isNone_iff_eq_none.mp hrelay | cases hrelay
      rw [hs]
      refine
        { exited := fun o ho => by rw [produced?_append, inv.exited o ho]; rfl
          alive := fun hk => by
            rw [produced?_append, ← inv.alive hk]
            exact (Option.or_none).symm
          cancelled := fun h => by simp [inv.cancelled h]
          given_up := fun h => by simp [inv.given_up (by simpa using h)]
          listener := fun why h => by simp [inv.listener why h]
          relay := fun r' h => by cases h; simp
          course := ?_ }
      rw [noticed_append_event]
      refine inv.course.event rfl (fun _ h => h) (fun r' h => ?_) fun _ hno => ?_
      · rw [hnone] at h
        cases h
      · exact absurd hrelay (by simpa using hno)

theorem event (inv : Witnessed t steps s) (e : Event) :
    Witnessed t (steps ++ [.event e]) (s.apply e) := by
  cases e with
  | sshConnects => exact inv.around rfl (fun h => .inl h) fun _ h => .inl h
  | listenerFails why =>
      exact inv.around rfl (fun h => .inl h) fun why' h => .inr (by cases h; rfl)
  | exits o => exact inv.exits o
  | relayEnds r => exact inv.relayEnds r
  | cancel => exact inv.around rfl (fun _ => .inr rfl) fun _ h => .inl h
  | timePasses ms => exact inv.around rfl (fun h => .inl h) fun _ h => .inl h

/-- The bridge notices something, and its course goes on. -/
theorem notice (inv : Witnessed t steps s) {a : Action} {phase : Phase} {killed : Bool}
    (hc : a = .cancel → s.cancelled = true) (hk : killed = false → s.killed = false)
    (h : Course t (steps ++ [.action a]) s.exited killed s.relayEnd (noticed steps ++ [a]) phase) :
    Witnessed t (steps ++ [.action a]) { s with phase := phase, killed := killed } where
  exited := fun o ho => by rw [produced?_append, inv.exited o ho]; rfl
  alive := fun hkilled => by
    rw [produced?_append, ← inv.alive (hk hkilled)]
    exact (Option.or_none).symm
  cancelled := fun h => by simp [inv.cancelled h]
  given_up := fun h => by
    rw [noticed_append_action, List.mem_append, List.mem_singleton] at h
    rcases h with h | h
    · simp [inv.given_up h]
    · simp [inv.cancelled (hc h.symm)]
  listener := fun why h => by simp [inv.listener why h]
  relay := fun r h => by simp [inv.relay r h]
  course := by rwa [noticed_append_action]

/-! The courses that lead to a phase. -/

theorem of_accepting (inv : Witnessed t steps s) {deadline : Nat}
    (hp : s.phase = .accepting deadline) :
    noticed steps = [] ∧ s.killed = false ∧ s.relayEnd = none := by
  have h := inv.course
  rw [hp] at h
  generalize noticed steps = as at h
  cases h with
  | accepting _ hk hr => exact ⟨rfl, hk, hr⟩

theorem of_unused (inv : Witnessed t steps s) (hp : s.phase = .unused) :
    noticed steps = [.exit] ∧ s.killed = false ∧ s.relayEnd = none ∧ s.exited.isSome = true := by
  have h := inv.course
  rw [hp] at h
  generalize noticed steps = as at h
  cases h with
  | unused o he hk hr => exact ⟨rfl, hk, hr, by simp [he]⟩

theorem of_copying (inv : Witnessed t steps s) (hp : s.phase = .copying) :
    noticed steps = [.accept] ∧ s.killed = false := by
  have h := inv.course
  rw [hp] at h
  generalize noticed steps = as at h
  cases h with
  | copying hk => exact ⟨rfl, hk⟩

theorem of_closing (inv : Witnessed t steps s) {copy : Except SyncError Rsync.Output}
    {deadline : Nat} (hp : s.phase = .closing copy deadline) :
    ∃ a, noticed steps = [.accept, a] ∧ CopyEnds s.exited s.killed a copy := by
  have h := inv.course
  rw [hp] at h
  generalize noticed steps = as at h
  cases h with
  | closing h _ => exact ⟨_, rfl, h⟩

theorem of_stopping (inv : Witnessed t steps s) {copy : Except SyncError Rsync.Output}
    (hp : s.phase = .stopping copy) :
    ∃ a, noticed steps = [.accept, a, .shutdownExpires] ∧ CopyEnds s.exited s.killed a copy := by
  have h := inv.course
  rw [hp] at h
  generalize noticed steps = as at h
  cases h with
  | stopping h => exact ⟨_, rfl, h⟩

theorem action {a : Action} (inv : Witnessed t steps s) (h : Move t s a u) :
    Witnessed t (steps ++ [.action a]) u := by
  cases h with
  | accept deadline hp hc =>
      obtain ⟨hn, hk, -⟩ := inv.of_accepting hp
      exact inv.notice nofun id (by rw [hn]; exact .copying hk)
  | listenerFails deadline why hp hf =>
      obtain ⟨hn, -, -⟩ := inv.of_accepting hp
      have hw : Step.event (.listenerFails why) ∈ steps ++ [.action .listenerFails] := by
        simp [inv.listener why hf]
      exact inv.notice nofun nofun (by rw [hn]; exact .listenerFailed why hw rfl)
  | acceptExpires deadline hp hd =>
      obtain ⟨hn, -, -⟩ := inv.of_accepting hp
      exact inv.notice nofun nofun (by rw [hn]; exact .acceptExpired rfl)
  | exitUnconnected deadline o hp he =>
      obtain ⟨hn, hk, hr⟩ := inv.of_accepting hp
      exact inv.notice nofun id (by rw [hn]; exact .unused o he hk hr)
  | cancelUnconnected deadline hp hc =>
      obtain ⟨hn, -, -⟩ := inv.of_accepting hp
      exact inv.notice (fun _ => hc) nofun (by rw [hn]; exact .cancelled (.inl rfl) rfl)
  | exitUnused o hp he =>
      obtain ⟨hn, -, hr, -⟩ := inv.of_unused hp
      exact inv.notice nofun id (by rw [hn]; exact .unconnected o he hr)
  | cancelUnused hp hc =>
      obtain ⟨hn, -, -, -⟩ := inv.of_unused hp
      exact inv.notice (fun _ => hc) nofun (by rw [hn]; exact .cancelled (.inr rfl) rfl)
  | exit o hp he =>
      obtain ⟨hn, hk⟩ := inv.of_copying hp
      exact inv.notice nofun id (by rw [hn]; exact .closing (.exit o he hk) _)
  | cancel hp hc =>
      obtain ⟨hn, -⟩ := inv.of_copying hp
      exact inv.notice (fun _ => hc) nofun (by rw [hn]; exact .closing (.cancel rfl) _)
  | relayEnds copy deadline r hp hr =>
      obtain ⟨a, hn, hends⟩ := inv.of_closing hp
      exact inv.notice nofun id (by rw [hn]; exact .ended hends (.inl rfl) r hr)
  | shutdownExpires copy deadline hp hd hr =>
      obtain ⟨a, hn, hends⟩ := inv.of_closing hp
      exact inv.notice nofun id (by rw [hn]; exact .stopping hends)
  | relayStops copy r hp hr =>
      obtain ⟨a, hn, hends⟩ := inv.of_stopping hp
      exact inv.notice nofun id (by rw [hn]; exact .ended hends (.inr rfl) r hr)

end Witnessed

theorem Run.witnessed (run : Run t steps s) : Witnessed t steps s := by
  induction run with
  | start => exact .initial
  | event _ e ih => exact ih.event e
  | action _ a ha ih => exact ih.action (move_of_step? ha)

end

end TunnelSync.Bridge
