import TunnelSync.Proofs.Plan
import TunnelSync.Proofs.Sync.Gather

/-!
# Copies side by side, in any order

Every call is at one place: without a task, with a task that has not called the transport, with the
transport, or ended; and every result of an ended call is with its task, in the channel, or with the
collector. A step moves one of them on, so the places together are always the calls and their
results in some order (`Accounted`). A collector that finds all places but the last ones empty has
what `gather_eq` needs.

* `Move` : what each action needs and what it changes
* `Accounted` : the invariant of all runs
* `State.rank` : how many steps are left at most
-/

namespace TunnelSync.Fanout

variable {ending : Call → Ending Rsync.Output} {calls : List Call}

/-- The actions of a state with the states that they lead to. -/
inductive Move (ending : Call → Ending Rsync.Output) (s : State) : Action → State → Prop
  | spawn (c : Call) (rest : List Call) (hu : s.unspawned = c :: rest) :
      Move ending s .spawn { s with unspawned := rest, ready := s.ready ++ [c] }
  | call (i : Nat) (c : Call) (hc : s.ready[i]? = some c) :
      Move ending s (.call i)
        { s with
          ready := s.ready.eraseIdx i
          calling := s.calling ++ [c]
          called := s.called ++ [c] }
  | finish (i : Nat) (c : Call) (hc : s.calling[i]? = some c) :
      Move ending s (.finish i)
        { s with
          calling := s.calling.eraseIdx i
          ended := s.ended ++ [c]
          sending := s.sending ++ (arrival? ending c).toList }
  | send (i : Nat) (a : Arrival) (ha : s.sending[i]? = some a)
      (hroom : s.channel.length < s.total) :
      Move ending s (.send i)
        { s with sending := s.sending.eraseIdx i, channel := s.channel ++ [a] }
  | receive (a : Arrival) (rest : List Arrival) (hr : s.result = none) (hu : s.unspawned = [])
      (hc : s.channel = a :: rest) : Move ending s .receive (s.collect a rest)
  | close (hr : s.result = none) (hq : s.isQuiet = true) :
      Move ending s .close
        { s with result := some (some (s.tally.verdict s.total s.cancelled)) }
  | cancel (hr : s.result = none) : Move ending s .cancel { s with cancelled := true }

/-- An action does nothing but what one of the moves says. -/
theorem move_of_step? {s t : State} {a : Action} (h : s.step? ending a = some t) :
    Move ending s a t := by
  cases a with
  | spawn =>
      cases hu : s.unspawned with
      | nil => simp [State.step?, hu] at h
      | cons c rest =>
          simp only [State.step?, hu, Option.some.injEq] at h
          subst h
          exact .spawn c rest hu
  | call i =>
      obtain ⟨c, hc, rfl⟩ := Option.map_eq_some_iff.mp h
      exact .call i c hc
  | finish i =>
      obtain ⟨c, hc, rfl⟩ := Option.map_eq_some_iff.mp h
      exact .finish i c hc
  | send i =>
      obtain ⟨a, ha, h⟩ := Option.bind_eq_some_iff.mp h
      simp only [Option.ite_none_right_eq_some, Option.some.injEq] at h
      obtain ⟨hroom, rfl⟩ := h
      exact .send i a ha hroom
  | receive =>
      simp only [State.step?] at h
      split at h
      next hr hu hc =>
        obtain rfl := Option.some.inj h
        exact .receive _ _ hr hu hc
      next => cases h
  | close =>
      simp only [State.step?, Option.ite_none_right_eq_some, Bool.and_eq_true,
        Option.isNone_iff_eq_none, Option.some.injEq] at h
      obtain ⟨⟨hr, hq⟩, rfl⟩ := h
      exact .close hr hq
  | cancel =>
      simp only [State.step?, Option.ite_none_right_eq_some, Option.isNone_iff_eq_none,
        Option.some.injEq] at h
      obtain ⟨hr, rfl⟩ := h
      exact .cancel hr

theorem isQuiet_iff {s : State} :
    s.isQuiet = true ↔
      s.unspawned = [] ∧ s.ready = [] ∧ s.calling = [] ∧ s.sending = [] ∧ s.channel = [] := by
  simp [State.isQuiet, and_assoc]

section
variable {s : State} {a : Arrival} {rest : List Arrival}

theorem collect_of_none (h : s.tally.take? a = none) :
    s.collect a rest =
      { s with channel := rest, received := s.received ++ [a], result := some none } := by
  simp only [State.collect, h]

theorem collect_of_some {tally : Tally} (h : s.tally.take? a = some tally) :
    s.collect a rest =
      { s with channel := rest, received := s.received ++ [a], tally := tally } := by
  simp only [State.collect, h]

end

/-! ### Nothing is lost -/

theorem perm_pass {α : Type} {l l' m : List α} {a : α} (h : l.Perm (a :: l')) :
    (l' ++ (m ++ [a])).Perm (l ++ m) := by
  rw [← List.append_assoc]
  exact (List.perm_append_singleton a (l' ++ m)).trans (h.append_right m).symm

theorem perm_pass_at {α : Type} {l m : List α} {i : Nat} {a : α} (h : l[i]? = some a) :
    (l.eraseIdx i ++ (m ++ [a])).Perm (l ++ m) := by
  obtain ⟨hi, ha⟩ := List.getElem?_eq_some_iff.mp h
  have hperm := List.getElem_cons_eraseIdx_perm hi
  rw [ha] at hperm
  exact perm_pass hperm.symm

/-- What the collector knows, unless it has died. -/
def State.known? (s : State) : Option Tally :=
  match s.result with
  | some none => none
  | _ => some s.tally

/-- Where the calls and their results are. -/
structure Accounted (ending : Call → Ending Rsync.Output) (calls : List Call) (s : State) :
    Prop where
  total : s.total = calls.length
  places : (s.unspawned ++ (s.ready ++ (s.calling ++ s.ended))).Perm calls
  called : s.called.Perm (s.calling ++ s.ended)
  results : (s.sending ++ (s.channel ++ s.received)).Perm (s.ended.filterMap (arrival? ending))
  tallied : s.received.foldlM Tally.take? (.start (calls.map (·.worker))) = s.known?
  returned : ∀ v, s.result = some (some v) →
    s.isQuiet = true ∧ v = s.tally.verdict s.total s.cancelled

namespace Accounted

variable {s t : State}

theorem start (h : start? calls = some s) : Accounted ending calls s := by
  simp only [start?, Option.ite_none_left_eq_some, Option.some.injEq] at h
  obtain ⟨-, rfl⟩ := h
  exact
    { total := rfl
      places := by simp
      called := .refl _
      results := .refl _
      tallied := rfl
      returned := nofun }

theorem not_returned (inv : Accounted ending calls s) (hq : ¬ s.isQuiet = true)
    (v : Except SyncError TransferStats) : s.result ≠ some (some v) := fun hr =>
  hq (inv.returned v hr).1

theorem collect (inv : Accounted ending calls s) {a : Arrival} {rest : List Arrival}
    (hr : s.result = none) (hc : s.channel = a :: rest) :
    Accounted ending calls (s.collect a rest) := by
  have hresults : (s.sending ++ (rest ++ (s.received ++ [a]))).Perm
      (s.ended.filterMap (arrival? ending)) := by
    refine .trans ?_ inv.results
    exact (perm_pass (.of_eq hc)).append_left _
  have htallied : (s.received ++ [a]).foldlM Tally.take? (.start (calls.map (·.worker))) =
      s.tally.take? a := by
    have hknown : s.known? = some s.tally := by simp [State.known?, hr]
    rw [List.foldlM_append, inv.tallied, hknown]
    simp
  cases htake : s.tally.take? a with
  | none =>
      rw [collect_of_none htake]
      exact
        { inv with
          results := hresults
          tallied := htallied.trans htake
          returned := nofun }
  | some tally =>
      rw [collect_of_some htake]
      exact
        { inv with
          results := hresults
          tallied := htallied.trans (by simp [htake, State.known?, hr])
          returned := fun v h => by simp [hr] at h }

theorem action {a : Action} (inv : Accounted ending calls s) (h : Move ending s a t) :
    Accounted ending calls t := by
  cases h with
  | spawn c rest hu =>
      refine { inv with places := ?_, returned := fun v h => absurd h (inv.not_returned ?_ v) }
      · refine .trans ?_ inv.places
        rw [hu, ← List.append_assoc, ← List.append_assoc (c :: rest)]
        exact (perm_pass (.refl _)).append_right _
      · simp [State.isQuiet, hu]
  | call i c hc =>
      refine
        { inv with
          places := ?_, called := ?_, returned := fun v h => absurd h (inv.not_returned ?_ v) }
      · refine .trans (.append_left _ ?_) inv.places
        rw [← List.append_assoc, ← List.append_assoc s.ready]
        exact (perm_pass_at hc).append_right _
      · rw [List.append_assoc]
        refine (inv.called.append_right [c]).trans ?_
        rw [List.append_assoc]
        exact List.perm_append_comm.append_left _
      · rw [isQuiet_iff]
        rintro ⟨-, hready, -⟩
        simp [hready] at hc
  | finish i c hc =>
      refine
        { inv with
          places := ?_, called := ?_, results := ?_
          returned := fun v h => absurd h (inv.not_returned ?_ v) }
      · exact .trans (((perm_pass_at hc).append_left _).append_left _) inv.places
      · exact inv.called.trans (perm_pass_at hc).symm
      · rw [List.filterMap_append, List.append_assoc]
        have hsingle : [c].filterMap (arrival? ending) = (arrival? ending c).toList := by
          cases h : arrival? ending c <;> simp [h]
        rw [hsingle]
        refine .trans ?_ (inv.results.append_right _)
        rw [List.append_assoc]
        exact List.perm_append_comm.append_left _
      · rw [isQuiet_iff]
        rintro ⟨-, -, hcalling, -⟩
        simp [hcalling] at hc
  | send i a ha hroom =>
      refine { inv with results := ?_, returned := fun v h => absurd h (inv.not_returned ?_ v) }
      · refine .trans ?_ inv.results
        rw [← List.append_assoc, ← List.append_assoc s.sending]
        exact (perm_pass_at ha).append_right _
      · rw [isQuiet_iff]
        rintro ⟨-, -, -, hsending, -⟩
        simp [hsending] at ha
  | receive a rest hr hu hc => exact inv.collect hr hc
  | close hr hq =>
      refine { inv with tallied := ?_, returned := fun v h => ?_ }
      · exact inv.tallied.trans (by simp [State.known?, hr])
      · cases h
        exact ⟨hq, rfl⟩
  | cancel hr => exact { inv with returned := fun v h => by simp [hr] at h }

end Accounted

theorem Run.accounted {actions : List Action} {s : State} (run : Run ending calls actions s) :
    Accounted ending calls s := by
  induction run with
  | start h => exact .start h
  | action _ a ha ih => exact ih.action (move_of_step? ha)

/-! ### The end -/

/-- The steps that are left at most: five for a call that has no task, and one fewer at each place
that it comes to. -/
def State.rank (s : State) : Nat :=
  5 * s.unspawned.length + 4 * s.ready.length + 3 * s.calling.length + 2 * s.sending.length
    + s.channel.length + if s.result.isNone then 1 else 0

theorem length_eraseIdx_of_getElem? {α : Type} {l : List α} {i : Nat} {a : α} (h : l[i]? = some a) :
    (l.eraseIdx i).length + 1 = l.length := by
  obtain ⟨hi, -⟩ := List.getElem?_eq_some_iff.mp h
  rw [List.length_eraseIdx_of_lt hi]
  omega

theorem rank_collect {s : State} {a : Arrival} {rest : List Arrival} (hr : s.result = none)
    (hc : s.channel = a :: rest) : (s.collect a rest).rank < s.rank := by
  cases htake : s.tally.take? a with
  | none =>
      rw [collect_of_none htake]
      simp only [State.rank, hr, hc, List.length_cons, Option.isNone_none, Option.isNone_some,
        if_true, Bool.false_eq_true, if_false]
      omega
  | some tally =>
      rw [collect_of_some htake]
      simp only [State.rank, hc, List.length_cons]
      omega

theorem Move.rank_lt {s t : State} {a : Action} (h : Move ending s a t) (hne : a ≠ .cancel) :
    t.rank < s.rank := by
  cases h with
  | spawn c rest hu =>
      simp only [State.rank, hu, List.length_cons, List.length_append, List.length_nil]
      omega
  | call i c hc =>
      have hlen := length_eraseIdx_of_getElem? hc
      simp only [State.rank, List.length_append, List.length_singleton]
      omega
  | finish i c hc =>
      have hlen := length_eraseIdx_of_getElem? hc
      have hone : (arrival? ending c).toList.length ≤ 1 := by
        cases arrival? ending c <;> simp
      simp only [State.rank, List.length_append]
      omega
  | send i a ha hroom =>
      have hlen := length_eraseIdx_of_getElem? ha
      simp only [State.rank, List.length_append, List.length_singleton]
      omega
  | receive a rest hr hu hc => exact rank_collect hr hc
  | close hr hq => simp [State.rank, hr]
  | cancel hr => exact absurd rfl hne

/-- Every run comes to its end: there are only so many steps, whatever their order. -/
theorem Run.length_add_rank_le {actions : List Action} {s : State}
    (run : Run ending calls actions s) :
    (actions.filter (· ≠ .cancel)).length + s.rank ≤ 5 * calls.length + 1 := by
  induction run with
  | start h =>
      simp only [start?, Option.ite_none_left_eq_some, Option.some.injEq] at h
      obtain ⟨-, rfl⟩ := h
      simp [State.rank]
  | @action actions s t run a ha ih =>
      have hm := move_of_step? ha
      rw [List.filter_append, List.length_append]
      by_cases hc : a = .cancel
      · subst hc
        have hrank : t.rank = s.rank := by cases hm; rfl
        simp only [hrank]
        simpa using ih
      · have hlt := hm.rank_lt hc
        have hone : [a].filter (· ≠ .cancel) = [a] := by simp [hc]
        rw [hone, List.length_singleton]
        omega

/-- Nothing blocks: the channel has room for all results, and the collector waits for nobody but
tasks that can go on. -/
theorem Accounted.exists_step {s : State} (inv : Accounted ending calls s) (hr : s.result = none) :
    ∃ a, a ≠ .cancel ∧ (s.step? ending a).isSome = true := by
  cases hu : s.unspawned with
  | cons c rest => exact ⟨.spawn, nofun, by simp [State.step?, hu]⟩
  | nil =>
      cases hready : s.ready with
      | cons c rest => exact ⟨.call 0, nofun, by simp [State.step?, hready]⟩
      | nil =>
          cases hcalling : s.calling with
          | cons c rest => exact ⟨.finish 0, nofun, by simp [State.step?, hcalling]⟩
          | nil =>
              cases hsending : s.sending with
              | cons a rest =>
                  have hplaces := inv.places.length_eq
                  have hresults := inv.results.length_eq
                  have hended := List.length_filterMap_le (arrival? ending) s.ended
                  have htotal := inv.total
                  simp only [List.length_append, hsending, List.length_cons] at hplaces hresults
                  have hroom : s.channel.length < s.total := by omega
                  exact ⟨.send 0, nofun, by simp [State.step?, hsending, hroom]⟩
              | nil =>
                  cases hchannel : s.channel with
                  | cons a rest =>
                      exact ⟨.receive, nofun, by simp [State.step?, hr, hu, hchannel]⟩
                  | nil =>
                      have hq : s.isQuiet = true :=
                        isQuiet_iff.mpr ⟨hu, hready, hcalling, hsending, hchannel⟩
                      exact ⟨.close, nofun, by simp [State.step?, hr, hq]⟩

theorem Run.exists_finished {actions : List Action} {s : State} (run : Run ending calls actions s) :
    ∃ more t, Run ending calls (actions ++ more) t ∧ t.result.isSome = true := by
  induction hn : s.rank using Nat.strong_induction_on generalizing actions s with
  | h n ih =>
      cases hr : s.result with
      | some r => exact ⟨[], s, by simpa using run, by simp [hr]⟩
      | none =>
          obtain ⟨a, hne, hstep⟩ := run.accounted.exists_step hr
          obtain ⟨u, hu⟩ := Option.isSome_iff_exists.mp hstep
          have hlt := (move_of_step? hu).rank_lt hne
          obtain ⟨more, t, run', ht⟩ := ih u.rank (hn ▸ hlt) (run.action a hu) rfl
          exact ⟨a :: more, t, by simpa using run', ht⟩

/-! ### The result -/

theorem Accounted.called_subperm {s : State} (inv : Accounted ending calls s) :
    s.called.Subperm calls := by
  refine (List.Perm.subperm inv.called).trans (List.Subperm.trans ?_ inv.places.subperm)
  exact ((List.sublist_append_right _ _).trans (List.sublist_append_right _ _)).subperm

theorem Accounted.received_subperm {s : State} (inv : Accounted ending calls s) :
    (s.received.filterMap Arrival.stats?).Subperm (calls.filterMap (stats? ending)) := by
  have hreceived : s.received.Sublist (s.sending ++ (s.channel ++ s.received)) :=
    (List.sublist_append_right _ _).trans (List.sublist_append_right _ _)
  have hended : s.ended.Sublist (s.unspawned ++ (s.ready ++ (s.calling ++ s.ended))) :=
    (List.sublist_append_right _ _).trans
      ((List.sublist_append_right _ _).trans (List.sublist_append_right _ _))
  have hresults := inv.results.filterMap Arrival.stats?
  rw [filterMap_stats?] at hresults
  have hpart := (hreceived.filterMap Arrival.stats?).subperm.trans hresults.subperm
  exact hpart.trans ((hended.filterMap _).subperm.trans (inv.places.filterMap _).subperm)

theorem Accounted.stats_known? {s : State} (inv : Accounted ending calls s) :
    s.known?.map (·.stats) = TransferStats.sum? (s.received.filterMap Arrival.stats?) := by
  rw [← inv.tallied, Tally.foldlM_take?, Option.map_map]
  exact Option.map_id'

/-- A collector that has not died knows the exact sum. -/
theorem Accounted.tally_stats {s : State} (inv : Accounted ending calls s)
    (hr : s.result ≠ some none) :
    (TransferStats.total (s.received.filterMap Arrival.stats?)).Fits ∧
      s.tally.stats = .total (s.received.filterMap Arrival.stats?) := by
  have hknown : s.known? = some s.tally := by
    unfold State.known?
    split
    next h => exact absurd h hr
    next => rfl
  have hsum := inv.stats_known?
  rw [hknown, TransferStats.sum?_eq] at hsum
  obtain ⟨hfits, hstats⟩ := Option.ite_none_right_eq_some.mp hsum.symm
  exact ⟨hfits, (Option.some.inj hstats).symm⟩

/-- A collector that has died has met a sum that the counters cannot hold. -/
theorem Accounted.not_fits_received {s : State} (inv : Accounted ending calls s)
    (hr : s.result = some none) :
    ¬ (TransferStats.total (s.received.filterMap Arrival.stats?)).Fits := by
  intro hfits
  have hknown : s.known? = none := by simp [State.known?, hr]
  have hsum := inv.stats_known?
  rw [hknown, TransferStats.sum?_eq, if_pos hfits] at hsum
  cases hsum

theorem Accounted.not_fits {s : State} (inv : Accounted ending calls s)
    (hr : s.result = some none) : ¬ (complete ending calls).stats.Fits := fun hfits =>
  inv.not_fits_received hr (hfits.of_subperm inv.received_subperm)

/-- A collector that has returned knows the results of all copies. -/
theorem Accounted.gather_eq {s : State} (inv : Accounted ending calls s)
    {v : Except SyncError TransferStats} (hr : s.result = some (some v)) :
    s.called.Perm calls ∧ s.received.Perm (calls.filterMap (arrival? ending)) ∧
      gather (calls.map (·.worker)) s.received s.cancelled = some v := by
  obtain ⟨hq, rfl⟩ := inv.returned v hr
  obtain ⟨hu, hready, hcalling, hsending, hchannel⟩ := isQuiet_iff.mp hq
  have hended : s.ended.Perm calls := by
    simpa [hu, hready, hcalling] using inv.places
  refine ⟨?_, ?_, ?_⟩
  · refine .trans ?_ hended
    simpa [hcalling] using inv.called
  · refine .trans ?_ (hended.filterMap _)
    simpa [hsending, hchannel] using inv.results
  · have hknown : s.known? = some s.tally := by simp [State.known?, hr]
    unfold gather
    rw [inv.tallied, hknown, inv.total]
    simp

theorem Accounted.fits_of_returned {s : State} (inv : Accounted ending calls s)
    {v : Except SyncError TransferStats} (hr : s.result = some (some v)) :
    (complete ending calls).stats.Fits := by
  obtain ⟨-, hreceived, -⟩ := inv.gather_eq hr
  have hsum := TransferStats.total_perm (hreceived.filterMap Arrival.stats?)
  obtain ⟨hfits, -⟩ := inv.tally_stats (by simp [hr])
  rwa [hsum, filterMap_stats?] at hfits

/-- What a copy counts for among the failures: its own error, or that of a task that died. -/
def Fails (ending : Call → Ending Rsync.Output) (c : Call) (e : SyncError) : Prop :=
  Syncer.outcome (ending c) = some (.error e) ∨
    Syncer.outcome (ending c) = none ∧ e = .noResult

theorem failure?_eq_some_iff {c : Call} {w : Nat} {e : SyncError} :
    failure? ending c = some (w, e) ↔ c.worker = w ∧ Fails ending c e := by
  unfold failure? Fails
  cases Syncer.outcome (ending c) with
  | none => simp [eq_comm]
  | some r => cases r <;> simp

theorem mem_failures_iff {w : Nat} {e : SyncError} :
    (w, e) ∈ (complete ending calls).failures ↔ ∃ c ∈ calls, c.worker = w ∧ Fails ending c e := by
  have hfailures : (complete ending calls).failures =
      sortFailures (calls.filterMap (failure? ending)) := by
    simp [Tally.failures, complete, sortFailures]
  rw [hfailures, mem_sortFailures, List.mem_filterMap]
  simp only [failure?_eq_some_iff]

theorem failures_pairwise (hd : (calls.map (·.worker)).Nodup) :
    (complete ending calls).failures.Pairwise fun a b => a.1 < b.1 := by
  have h := sortFailures_pairwise (@nodup_failures ending calls hd)
  simpa [Tally.failures, complete, sortFailures] using h

theorem Run.result_eq {actions : List Action} {s : State} (run : Run ending calls actions s)
    (hd : (calls.map (·.worker)).Nodup) {r : Ending TransferStats} (hr : s.result = some r) :
    r = if (complete ending calls).stats.Fits then
      some ((complete ending calls).verdict calls.length s.cancelled) else none := by
  have inv := run.accounted
  cases r with
  | none => rw [if_neg (inv.not_fits hr)]
  | some v =>
      obtain ⟨-, hreceived, hgather⟩ := inv.gather_eq hr
      rw [← hgather, Fanout.gather_eq hd hreceived]

theorem nodup_workers {j : Syncer.Job} (hdegree : j.degree ≠ 1) :
    (j.calls.map (·.worker)).Nodup := by
  have hcalls : j.calls.map (·.worker) =
      (List.range (min (max j.degree 1) j.entries.length)).map (· + 1) := by
    rw [Syncer.Job.calls, if_neg hdegree, ← Plan.map_worker_split, List.map_map]
    rfl
  rw [hcalls]
  exact List.nodup_range.map fun a b h => by omega

/-- The result of the copies of a job does not depend on the order in which a host brings their
results in. -/
theorem Run.result_eq_job {j : Syncer.Job} (hdegree : j.degree ≠ 1) {h : Host}
    (horder : (h.order j.calls).Perm j.calls) {actions : List Action} {s : State}
    (run : Run ending j.calls actions s) (hc : s.cancelled = h.cancelled)
    {r : Ending TransferStats} (hr : s.result = some r) : r = j.result h ending := by
  have hd := nodup_workers hdegree
  rw [run.result_eq hd hr, ← Fanout.gather_eq hd (horder.filterMap (arrival? ending)), hc,
    Syncer.Job.result, if_neg hdegree]
  rfl

/-- **Nothing is lost and nothing counts twice.** Copies by distinct workers come to a result in
every order: as long as there is none, something can happen, and only so much can. No call comes to
the transport twice. If the counters can hold the sums over the copies that succeeded, every call
has come to the transport, and the result is the cancellation if there was one; else the error of
each copy that failed or died, once and ascending by worker, if there is one; else the sums. If the
counters cannot hold the sums, the sync dies instead. -/
theorem result_of_run (hne : calls ≠ []) (hd : (calls.map (·.worker)).Nodup) :
    (∃ s, Run ending calls [] s) ∧
    ∀ actions s, Run ending calls actions s →
      (s.result = none → ∃ a, a ≠ .cancel ∧ (s.step? ending a).isSome = true) ∧
      (actions.filter (· ≠ .cancel)).length ≤ 5 * calls.length + 1 ∧
      s.called.Subperm calls ∧
      (s.result = some none → ¬ (TransferStats.total (calls.filterMap (stats? ending))).Fits) ∧
      ∀ v, s.result = some (some v) →
        (TransferStats.total (calls.filterMap (stats? ending))).Fits ∧
        s.called.Perm calls ∧
        (s.cancelled = true → v = .error .cancelled) ∧
        (s.cancelled = false → (∃ c ∈ calls, ∃ e, Fails ending c e) →
          ∃ failed, v = .error (.aggregate failed calls.length) ∧
            (failed.Pairwise fun a b => a.1 < b.1) ∧
            ∀ w e, (w, e) ∈ failed ↔ ∃ c ∈ calls, c.worker = w ∧ Fails ending c e) ∧
        (s.cancelled = false → (∀ c ∈ calls, ∀ e, ¬ Fails ending c e) →
          v = .ok (.total (calls.filterMap (stats? ending)))) := by
  constructor
  · have hempty : calls.isEmpty = false := by simpa using hne
    exact ⟨_, .start (by rw [start?, hempty]; rfl)⟩
  intro actions s run
  have inv := run.accounted
  have hlength := run.length_add_rank_le
  refine ⟨inv.exists_step, by omega, inv.called_subperm, inv.not_fits, fun v hr => ?_⟩
  have hresult := run.result_eq hd hr
  have hfits : (complete ending calls).stats.Fits := by
    by_contra hnot
    rw [if_neg hnot] at hresult
    cases hresult
  rw [if_pos hfits] at hresult
  obtain rfl := Option.some.inj hresult
  refine ⟨hfits, (inv.gather_eq hr).1, fun hc => ?_, fun hc hfail => ?_, fun hc hall => ?_⟩
  · simp [Tally.verdict, hc]
  · obtain ⟨c, hmem, e, hfail⟩ := hfail
    have hfailed : (complete ending calls).failures.isEmpty = false := by
      have hf := mem_failures_iff.mpr ⟨c, hmem, rfl, hfail⟩
      simpa using List.ne_nil_of_mem hf
    exact ⟨_, by simp [Tally.verdict, hc, hfailed], failures_pairwise hd, fun w e =>
      mem_failures_iff⟩
  · have hfailed : (complete ending calls).failures = [] := by
      refine List.eq_nil_iff_forall_not_mem.mpr fun f hf => ?_
      obtain ⟨c, hmem, -, hfail⟩ := mem_failures_iff.mp (show (f.1, f.2) ∈ _ from hf)
      exact hall c hmem f.2 hfail
    simp [Tally.verdict, hc, hfailed]
    rfl

/-! ### Runs of three copies -/

theorem Run.append {actions more : List Action} {s t : State} (run : Run ending calls actions s)
    (h : more.foldlM (State.step? ending) s = some t) : Run ending calls (actions ++ more) t := by
  induction more generalizing actions s with
  | nil =>
      obtain rfl : s = t := by simpa using h
      simpa using run
  | cons a more ih =>
      obtain ⟨u, hu, ht⟩ : ∃ u, s.step? ending a = some u ∧
          more.foldlM (State.step? ending) u = some t := by
        simpa [List.foldlM_cons, Option.bind_eq_some_iff] using h
      simpa using ih (run.action a hu) ht

theorem run_of_foldlM {actions : List Action} {s : State}
    (h : (start? calls).bind (fun s₀ => actions.foldlM (State.step? ending) s₀) = some s) :
    Run ending calls actions s := by
  obtain ⟨s₀, hs₀, h⟩ := Option.bind_eq_some_iff.mp h
  exact (Run.start hs₀).append h

/-- Three copies of one file each. -/
def threeCalls : List Call :=
  [⟨1, .entries [.file "a"]⟩, ⟨2, .entries [.file "b"]⟩, ⟨3, .entries [.file "c"]⟩]

/-- The first copy is refused, the task of the second dies, and the third succeeds. -/
def mixedEnding (c : Call) : Ending Rsync.Output :=
  match c.worker with
  | 1 => some (.error (.connection "refused"))
  | 2 => none
  | _ => some (.ok ⟨some 0, [], []⟩)

/-- The tasks run one into the other, and the result of the last one comes first. -/
def mixedActions : List Action :=
  [.spawn, .spawn, .call 1, .spawn, .call 1, .finish 1, .call 0, .send 0, .finish 1, .receive,
    .finish 0, .send 0, .receive, .close]

theorem result_of_run_mixed :
    ∃ s failed, Run mixedEnding threeCalls mixedActions s ∧
      s.result = some (some (.error (.aggregate failed 3))) ∧
      (1, .connection "refused") ∈ failed ∧ (2, .noResult) ∈ failed ∧ ∀ e, (3, e) ∉ failed := by
  obtain ⟨s, hs⟩ : ∃ s, (start? threeCalls).bind
      (fun s₀ => mixedActions.foldlM (State.step? mixedEnding) s₀) = some s := ⟨_, rfl⟩
  have run : Run mixedEnding threeCalls mixedActions s := run_of_foldlM hs
  obtain ⟨v, hv⟩ : ∃ v, s.result = some (some v) := by cases hs; exact ⟨_, rfl⟩
  have hc : s.cancelled = false := by cases hs; rfl
  obtain ⟨-, hall⟩ := @result_of_run mixedEnding threeCalls (by simp [threeCalls]) (by decide)
  obtain ⟨-, -, -, -, hreturned⟩ := hall _ _ run
  obtain ⟨-, -, -, hfailed, -⟩ := hreturned v hv
  have hrefused : Fails mixedEnding ⟨1, .entries [.file "a"]⟩ (.connection "refused") := .inl rfl
  have hdead : Fails mixedEnding ⟨2, .entries [.file "b"]⟩ .noResult := .inr ⟨rfl, rfl⟩
  obtain ⟨failed, rfl, -, hmem⟩ := hfailed hc ⟨_, by simp [threeCalls], _, hrefused⟩
  refine ⟨s, failed, run, hv, ?_, ?_, fun e he => ?_⟩
  · exact (hmem _ _).mpr ⟨_, by simp [threeCalls], rfl, hrefused⟩
  · exact (hmem _ _).mpr ⟨_, by simp [threeCalls], rfl, hdead⟩
  · obtain ⟨c, hmem, hw, hfail⟩ := (hmem _ _).mp he
    have hok : Syncer.outcome (mixedEnding c) = some (.ok .zero) := by
      simp only [mixedEnding, hw]
      rfl
    rcases hfail with h | ⟨h, -⟩
    · rw [hok] at h; cases h
    · rw [hok] at h; cases h

/-- The first copy fails, and the others move more than a counter holds. -/
def hugeEnding (c : Call) : Ending Rsync.Output :=
  match c.worker with
  | 1 => some (.ok ⟨some 23, [], "partial"⟩)
  | _ => some (.ok ⟨some 0, "Total transferred file size: 9223372036854775808 bytes", []⟩)

/-- One task after the other. -/
def hugeActions : List Action :=
  [.spawn, .spawn, .spawn, .call 0, .finish 0, .send 0, .call 0, .finish 0, .send 0, .call 0,
    .finish 0, .send 0, .receive, .receive, .receive]

/-- A failure is not reported where the counters cannot hold the sums. -/
theorem failure_lost_in_overflow :
    ∃ s, Run hugeEnding threeCalls hugeActions s ∧ s.cancelled = false ∧
      Fails hugeEnding ⟨1, .entries [.file "a"]⟩ (.process (some 23) "partial") ∧
      s.result = some none := by
  obtain ⟨s, hs⟩ : ∃ s, (start? threeCalls).bind
      (fun s₀ => hugeActions.foldlM (State.step? hugeEnding) s₀) = some s := ⟨_, rfl⟩
  refine ⟨s, run_of_foldlM hs, ?_, .inl rfl, ?_⟩
  · cases hs; rfl
  · cases hs; rfl

end TunnelSync.Fanout
