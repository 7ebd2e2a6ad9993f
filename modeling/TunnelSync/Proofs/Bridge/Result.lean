import TunnelSync.Proofs.Bridge.Run

/-!
# The result of a bridge

Whatever comes first of ssh's connection, the end of rsync, the cancellation, the end of the relay
and the two deadlines, the result says what became of rsync: an output is rsync's own, an rsync that
was killed leaves an error, and the error of the relay stands in for the output only of an rsync
that failed.

* `Course.result` : the result that goes with each course
* `result_of_run` : the results of all runs
-/

namespace TunnelSync.Bridge

open Copy (Event RelayEnd)

/-! ### What becomes of the relay's end -/

theorem verdict_ok (o : Rsync.Output) (r : RelayEnd) :
    verdict (.ok o) r = .ok o ∨
      ∃ e, r.error? = some e ∧ e.isConnection = true ∧ o.success = false ∧
        verdict (.ok o) r = .error e := by
  cases hr : r.error? with
  | none => simp [verdict, hr]
  | some e =>
      cases hs : o.success <;> cases hc : e.isConnection <;> simp [verdict, hr, hs, hc]

theorem verdict_of_failed {o : Rsync.Output} {r : RelayEnd} {e : SyncError}
    (hs : o.success = false) (hr : r.error? = some e) (hc : e.isConnection = true) :
    verdict (.ok o) r = .error e := by simp [verdict, hr, hs, hc]

/-! ### The result of a course -/

/-- Where rsync was not killed and was not given up, its output is the result, or the connection
error of the relay in place of the output of a failed rsync. -/
def Settles (relayEnd : Option RelayEnd) (o : Rsync.Output)
    (r : Except SyncError Rsync.Output) : Prop :=
  (o.success = true → r = .ok o) ∧
  (o.success = false → ∀ x e, relayEnd = some x → x.error? = some e → e.isConnection = true →
    r = .error e) ∧
  ((∀ x e, relayEnd = some x → x.error? = some e → e.isConnection = false) → r = .ok o)

theorem settles_unconnected (o : Rsync.Output) : Settles none o (.ok o) :=
  ⟨fun _ => rfl, fun _ _ _ h => (by cases h), fun _ => rfl⟩

theorem settles_verdict (o : Rsync.Output) (x : RelayEnd) :
    Settles (some x) o (verdict (.ok o) x) := by
  refine ⟨fun hs => ?_, fun hs y e hy he hc => ?_, fun hno => ?_⟩
  · rcases verdict_ok o x with h | ⟨e, -, -, hf, -⟩
    · exact h
    · rw [hs] at hf
      cases hf
  · cases hy
    exact verdict_of_failed hs he hc
  · rcases verdict_ok o x with h | ⟨e, he, hc, -, -⟩
    · exact h
    · rw [hno x e rfl he] at hc
      cases hc

section
variable {t : Timeouts} {steps : List Step} {s : State} {exited : Option Rsync.Output}
  {killed : Bool} {relayEnd : Option RelayEnd} {as : List Action} {p : Phase}

namespace Course

/-- An output is that of rsync. -/
theorem exited_eq {o : Rsync.Output}
    (h : Course t steps exited killed relayEnd as (.finished (.ok o))) : exited = some o := by
  generalize hp : Phase.finished (.ok o) = p at h
  cases h with
  | unconnected o' he hr => cases hp; exact he
  | @ended a copy hends as has r hr =>
      have hv : verdict copy r = .ok o := (Phase.finished.inj hp).symm
      cases hends with
      | exit o' he hk =>
          rcases verdict_ok o' r with h | ⟨e, -, -, -, h⟩
          · rw [h] at hv
            cases hv
            exact he
          · rw [h] at hv
            cases hv
      | cancel hk => cases hv
  | _ => cases hp

theorem settles {r : Except SyncError Rsync.Output}
    (h : Course t steps exited killed relayEnd as (.finished r)) (hcancel : .cancel ∉ as)
    (hlistener : .listenerFails ∉ as) (haccept : .acceptExpires ∉ as) :
    ∃ o, exited = some o ∧ Settles relayEnd o r := by
  cases h with
  | listenerFailed why hw hk => simp at hlistener
  | acceptExpired hk => simp at haccept
  | cancelled has hk => rcases has with rfl | rfl <;> simp at hcancel
  | unconnected o he hr => exact ⟨o, he, hr ▸ settles_unconnected o⟩
  | ended hends has x hr =>
      cases hends with
      | exit o he hk => exact ⟨o, he, hr ▸ settles_verdict o x⟩
      | cancel hk => simp at hcancel

theorem unaccepted (h : Course t steps exited killed relayEnd as p)
    (ha : .listenerFails ∈ as ∨ .acceptExpires ∈ as) :
    killed = true ∧ ∃ text, p = .finished (.error (.connection text)) := by
  cases h with
  | listenerFailed why hw hk => exact ⟨hk, _, rfl⟩
  | acceptExpired hk => exact ⟨hk, _, rfl⟩
  | cancelled has hk => rcases has with rfl | rfl <;> simp at ha
  | closing hends deadline => cases hends <;> simp at ha
  | stopping hends => cases hends <;> simp at ha
  | ended hends has x hr => cases hends <;> rcases has with rfl | rfl <;> simp at ha
  | _ => simp at ha

/-- A sync that was given up before rsync was seen to end leaves nothing but that. -/
theorem given_up (h : Course t steps exited killed relayEnd as p) (hc : .cancel ∈ as) :
    killed = true ∧ ∀ r, p = .finished r → r = .error .cancelled := by
  cases h with
  | cancelled has hk => exact ⟨hk, fun r hr => by cases hr; rfl⟩
  | closing hends deadline =>
      cases hends with
      | exit o he hk => simp at hc
      | cancel hk => exact ⟨hk, nofun⟩
  | stopping hends =>
      cases hends with
      | exit o he hk => simp at hc
      | cancel hk => exact ⟨hk, nofun⟩
  | ended hends has x hr =>
      cases hends with
      | exit o he hk => rcases has with rfl | rfl <;> simp at hc
      | cancel hk => exact ⟨hk, fun r hr => by cases hr; rfl⟩
  | _ => simp at hc

theorem length_le (h : Course t steps exited killed relayEnd as p) : as.length ≤ maxPhases := by
  cases h with
  | cancelled has hk => rcases has with rfl | rfl <;> decide
  | ended hends has x hr => rcases has with rfl | rfl <;> simp [maxPhases]
  | _ => simp [maxPhases]

end Course

/-! ### Bridges with nothing to notice -/

/-- A bridge that has nothing to notice has its result when rsync and the relay are over. -/
theorem Witnessed.finished_of_atRest (inv : Witnessed t steps s) (hrest : ∀ a, s.step? t a = none)
    (hover : s.killed = true ∨ (produced? steps).isSome = true)
    (hrelay : .accept ∈ noticed steps → s.relayEnd.isSome = true) :
    ∃ r, s.phase = .finished r := by
  have hexited : s.killed = false → s.exited.isSome = true := fun hk => by
    rw [inv.alive hk]
    rcases hover with h | h
    · rw [hk] at h
      cases h
    · exact h
  cases hp : s.phase with
  | accepting deadline =>
      obtain ⟨-, hk, -⟩ := inv.of_accepting hp
      have hexit := hrest .exit
      simp [State.step?, hp, hexited hk] at hexit
  | unused =>
      obtain ⟨-, -, -, he⟩ := inv.of_unused hp
      have hexit := hrest .exit
      simp only [State.step?, hp, Option.map_eq_none_iff] at hexit
      simp [hexit] at he
  | copying =>
      obtain ⟨-, hk⟩ := inv.of_copying hp
      have hexit := hrest .exit
      simp only [State.step?, hp, Option.map_eq_none_iff] at hexit
      simpa [hexit] using hexited hk
  | closing copy deadline =>
      obtain ⟨a, hn, -⟩ := inv.of_closing hp
      have hr := hrelay (by simp [hn])
      have hend := hrest .relayEnds
      simp only [State.step?, hp, Option.map_eq_none_iff] at hend
      simp [hend] at hr
  | stopping copy =>
      obtain ⟨a, hn, -⟩ := inv.of_stopping hp
      have hr := hrelay (by simp [hn])
      have hend := hrest .relayEnds
      simp only [State.step?, hp, Option.map_eq_none_iff] at hend
      simp [hend] at hr
  | finished r => exact ⟨r, rfl⟩

theorem result?_eq_some_iff {r : Except SyncError Rsync.Output} :
    s.result? = some r ↔ s.phase = .finished r := by
  unfold State.result?
  cases s.phase <;> simp

end

/-- **The result of a bridge, in every order of what happens around it.**

1. An output is what rsync produced.
2. Where the bridge has noticed no cancellation and ssh's connection was not lost for the listener
   or the time, the output of an rsync with exit code 0 is the result; that of another one is too,
   unless the relay ended with a connection error, its own death among them, which is then the
   result.
3. Without a connection of ssh in time, or with a listener that fails, the result is a connection
   error, and rsync was killed.
4. A cancellation that is noticed before the end of rsync has happened and kills rsync, and the
   result is the cancellation.
5. The end of the relay is one that happened. A bridge notices at most four things. When there is
   nothing left to notice and rsync is over, and the relay too if it was started, the bridge has its
   result. -/
theorem outcome_of_run {t : Timeouts} {steps : List Step} {s : State} (run : Run t steps s) :
    (∀ o, s.result? = some (.ok o) → produced? steps = some o) ∧
    (.action .cancel ∉ steps → .action .listenerFails ∉ steps → .action .acceptExpires ∉ steps →
      ∀ r, s.result? = some r → ∃ o, produced? steps = some o ∧ Settles s.relayEnd o r) ∧
    (.action .listenerFails ∈ steps ∨ .action .acceptExpires ∈ steps →
      s.killed = true ∧ ∃ text, s.result? = some (.error (.connection text))) ∧
    (.action .cancel ∈ steps →
      .event .cancel ∈ steps ∧ s.killed = true ∧
        ∀ r, s.result? = some r → r = .error .cancelled) ∧
    (∀ x, s.relayEnd = some x → .event (.relayEnds x) ∈ steps) ∧
    (noticed steps).length ≤ maxPhases ∧
    ((∀ a, s.step? t a = none) → s.killed = true ∨ (produced? steps).isSome = true →
      (.action .accept ∈ steps → s.relayEnd.isSome = true) → s.result?.isSome = true) := by
  have inv := run.witnessed
  simp only [← mem_noticed_iff, result?_eq_some_iff]
  refine ⟨?_, ?_, ?_, ?_, inv.relay, inv.course.length_le, ?_⟩
  · intro o hr
    exact inv.exited o (hr ▸ inv.course).exited_eq
  · intro hc hl ha r hr
    obtain ⟨o, he, hsettles⟩ := (hr ▸ inv.course).settles hc hl ha
    exact ⟨o, inv.exited o he, hsettles⟩
  · exact inv.course.unaccepted
  · intro hc
    exact ⟨inv.given_up hc, inv.course.given_up hc⟩
  · intro hrest hover hrelay
    obtain ⟨r, hr⟩ := inv.finished_of_atRest hrest hover hrelay
    rw [result?_eq_some_iff.mpr hr]
    rfl

/-- What rsync says when its connection breaks. -/
def broken : Rsync.Output := ⟨some 12, [], "connection unexpectedly closed"⟩

/-- rsync fails, and the relay ends only after it was told to. -/
def stalled (x : RelayEnd) : List Step :=
  [.event .sshConnects, .action .accept, .event (.exits broken), .action .exit,
    .event (.timePasses 5000), .action .shutdownExpires, .event (.relayEnds x),
    .action .relayEnds]

/-- The cancellation comes while rsync runs, and rsync would have ended well. -/
def givenUp : List Step :=
  [.event .sshConnects, .action .accept, .event .cancel, .action .cancel,
    .event (.exits ⟨some 0, [], []⟩), .event (.relayEnds (.returned (.ok ⟨3, 4⟩))),
    .action .relayEnds]

/-- A relay whose task dies explains the failure, one that was cancelled does not, and an rsync that
was killed has no output. -/
theorem outcome_of_run_stalled :
    (∃ s, Run .standard (stalled (.crashed "panicked")) s ∧
      s.result? = some (.error (.connectionWhile "bridge task failed" "panicked"))) ∧
    (∃ s, Run .standard (stalled (.returned (.error .cancelled))) s ∧
      s.result? = some (.ok broken)) ∧
    ∃ s, Run .standard givenUp s ∧ s.killed = true ∧ s.result? = some (.error .cancelled) := by
  refine ⟨?_, ?_, ?_⟩
  · obtain ⟨s, hs⟩ : ∃ s, (stalled (.crashed "panicked")).foldlM (State.perform? .standard)
        (.initial .standard) = some s := ⟨_, rfl⟩
    have run : Run .standard (stalled (.crashed "panicked")) s := Run.start.append hs
    obtain ⟨-, hsettle, -, -, -, -, hend⟩ := outcome_of_run run
    have hrelay : s.relayEnd = some (.crashed "panicked") := by cases hs; rfl
    obtain ⟨r, hr⟩ := Option.isSome_iff_exists.mp <|
      hend (by cases hs; exact fun a => rfl) (.inr rfl) fun _ => by rw [hrelay]; rfl
    obtain ⟨o, ho, -, hlost, -⟩ := hsettle (by simp [stalled]) (by simp [stalled])
      (by simp [stalled]) r hr
    obtain rfl : broken = o := by cases ho; rfl
    exact ⟨s, run, by rw [hr, hlost rfl _ _ hrelay rfl rfl]⟩
  · obtain ⟨s, hs⟩ : ∃ s, (stalled (.returned (.error .cancelled))).foldlM
        (State.perform? .standard) (.initial .standard) = some s := ⟨_, rfl⟩
    have run : Run .standard (stalled (.returned (.error .cancelled))) s := Run.start.append hs
    obtain ⟨-, hsettle, -, -, -, -, hend⟩ := outcome_of_run run
    have hrelay : s.relayEnd = some (.returned (.error .cancelled)) := by cases hs; rfl
    obtain ⟨r, hr⟩ := Option.isSome_iff_exists.mp <|
      hend (by cases hs; exact fun a => rfl) (.inr rfl) fun _ => by rw [hrelay]; rfl
    obtain ⟨o, ho, -, -, hkept⟩ := hsettle (by simp [stalled]) (by simp [stalled])
      (by simp [stalled]) r hr
    obtain rfl : broken = o := by cases ho; rfl
    have hno : ∀ x e, s.relayEnd = some x → x.error? = some e → e.isConnection = false := by
      intro x e hx he
      rw [hrelay] at hx
      cases hx
      cases he
      rfl
    exact ⟨s, run, by rw [hr, hkept hno]⟩
  · obtain ⟨s, hs⟩ : ∃ s, givenUp.foldlM (State.perform? .standard) (.initial .standard) =
        some s := ⟨_, rfl⟩
    have run : Run .standard givenUp s := Run.start.append hs
    obtain ⟨-, -, -, hcancel, -, -, hend⟩ := outcome_of_run run
    obtain ⟨-, hkilled, hresult⟩ := hcancel (by simp [givenUp])
    obtain ⟨r, hr⟩ := Option.isSome_iff_exists.mp <|
      hend (by cases hs; exact fun a => rfl) (.inl hkilled) fun _ => by cases hs; rfl
    exact ⟨s, run, hkilled, by rw [hr, hresult r hr]⟩

end TunnelSync.Bridge
