import Mathlib.Algebra.Ring.Nat
import Mathlib.Data.List.Nodup
import Mathlib.Data.List.Perm.Basic
import TunnelSync.Sync.Fanout

/-!
# The results of copies, in any order

What `gather` makes of results is a sum, a list of failures and a list of workers that sent nothing.
The sum does not depend on the order of the results, the failures are sorted by worker, and distinct
workers leave one way to sort them. So only what became of each copy counts.

* `TransferStats.total` : the sums without a limit
* `stats?`, `failure?` : what a copy adds to the sum, or to the failures
* `gather_eq` : `gather` in terms of these
-/

namespace TunnelSync

namespace TransferStats

/-- Both sums over a list, however great. -/
def total (stats : List TransferStats) : TransferStats :=
  ⟨(stats.map (·.files)).sum, (stats.map (·.bytes)).sum⟩

/-- The counters can hold both numbers. -/
def Fits (s : TransferStats) : Prop := s.files < counterLimit ∧ s.bytes < counterLimit

instance (s : TransferStats) : Decidable s.Fits := inferInstanceAs (Decidable (_ ∧ _))

theorem fits_parse (output : Text) : (parse output).Fits := by
  have hread : ∀ number : Option Text, (number.map counterValue).getD 0 < counterLimit := by
    intro number
    cases number with
    | none => decide
    | some number => exact counterValue_lt number
  exact ⟨hread _, hread _⟩

theorem total_perm {l₁ l₂ : List TransferStats} (h : l₁.Perm l₂) : total l₁ = total l₂ := by
  unfold total
  rw [(h.map _).sum_nat, (h.map _).sum_nat]

theorem Fits.of_subperm {part whole : List TransferStats} (h : (total whole).Fits)
    (hpart : part.Subperm whole) : (total part).Fits := by
  obtain ⟨l, hperm, hsub⟩ := hpart
  obtain ⟨rest, hrest⟩ := hsub.exists_perm_append
  rw [total_perm hrest] at h
  rw [← total_perm hperm]
  simp only [Fits, total, List.map_append, List.sum_append] at h ⊢
  omega

/-- Adding up fails if, and only if, the whole sum does not fit: the sums on the way are smaller. -/
theorem foldlM_add? {a : TransferStats} (ha : a.Fits) (stats : List TransferStats) :
    stats.foldlM add? a =
      if (total (a :: stats)).Fits then some (total (a :: stats)) else none := by
  induction stats generalizing a with
  | nil => simpa [total] using ha
  | cons b stats ih =>
      rw [List.foldlM_cons]
      by_cases hab : a.files + b.files < counterLimit ∧ a.bytes + b.bytes < counterLimit
      · have hadd : a.add? b = some ⟨a.files + b.files, a.bytes + b.bytes⟩ := if_pos hab
        have hfits : Fits ⟨a.files + b.files, a.bytes + b.bytes⟩ := hab
        rw [hadd, Option.bind_eq_bind, Option.bind_some, ih hfits]
        simp [total, Nat.add_assoc]
      · have hadd : a.add? b = none := if_neg hab
        have hnot : ¬ (total (a :: b :: stats)).Fits := by
          simp only [Fits, total, List.map_cons, List.sum_cons]
          omega
        rw [hadd, if_neg hnot]
        rfl

theorem sum?_eq (stats : List TransferStats) :
    sum? stats = if (total stats).Fits then some (total stats) else none := by
  have hzero : zero.Fits := by decide
  have htotal : total (zero :: stats) = total stats := by simp [total, zero]
  rw [sum?, foldlM_add? hzero, htotal]

end TransferStats

/-! ### One result after the other -/

/-- What a result adds to the sum. -/
def Arrival.stats? (a : Arrival) : Option TransferStats :=
  match a.result with
  | .ok stats => some stats
  | .error _ => none

/-- What a result adds to the failures. -/
def Arrival.failure? (a : Arrival) : Option (Nat × SyncError) :=
  match a.result with
  | .ok _ => none
  | .error e => some (a.worker, e)

namespace Tally

theorem foldlM_take? (arrivals : List Arrival) (t : Tally) :
    arrivals.foldlM take? t =
      ((arrivals.filterMap Arrival.stats?).foldlM TransferStats.add? t.stats).map fun sum =>
        ⟨t.pending.filter (· ∉ arrivals.map (·.worker)), sum,
          t.failed ++ arrivals.filterMap Arrival.failure?⟩ := by
  induction arrivals generalizing t with
  | nil => simp
  | cons a arrivals ih =>
      have hpending : ∀ pending : List Nat,
          (pending.filter (· ≠ a.worker)).filter (· ∉ arrivals.map (·.worker)) =
            pending.filter (· ∉ (a :: arrivals).map (·.worker)) := fun pending => by
        rw [List.filter_filter]
        refine List.filter_congr fun w _ => ?_
        by_cases h : w = a.worker <;> simp [h]
      rw [List.foldlM_cons]
      cases hr : a.result with
      | ok stats =>
          have htake : t.take? a = (t.stats.add? stats).map fun sum =>
              ⟨t.pending.filter (· ≠ a.worker), sum, t.failed⟩ := by simp [take?, hr]
          have hstats : (a :: arrivals).filterMap Arrival.stats? =
              stats :: arrivals.filterMap Arrival.stats? := by simp [Arrival.stats?, hr]
          have hfailed : (a :: arrivals).filterMap Arrival.failure? =
              arrivals.filterMap Arrival.failure? := by simp [Arrival.failure?, hr]
          rw [htake, hstats, hfailed, List.foldlM_cons]
          cases hadd : t.stats.add? stats with
          | none => rfl
          | some sum =>
              refine (ih _).trans ?_
              simp only [hpending, Option.bind_eq_bind, Option.bind_some]
      | error e =>
          have htake : t.take? a =
              some ⟨t.pending.filter (· ≠ a.worker), t.stats, t.failed ++ [(a.worker, e)]⟩ := by
            simp [take?, hr]
          have hstats : (a :: arrivals).filterMap Arrival.stats? =
              arrivals.filterMap Arrival.stats? := by simp [Arrival.stats?, hr]
          have hfailed : (a :: arrivals).filterMap Arrival.failure? =
              (a.worker, e) :: arrivals.filterMap Arrival.failure? := by simp [Arrival.failure?, hr]
          rw [htake, hstats, hfailed]
          refine (ih _).trans ?_
          simp only [hpending, List.append_assoc, List.singleton_append]

end Tally

/-! ### Failures in order -/

/-- Failures ascending by worker. -/
def sortFailures (failed : List (Nat × SyncError)) : List (Nat × SyncError) :=
  failed.mergeSort fun a b => a.1 ≤ b.1

theorem mem_sortFailures {failed : List (Nat × SyncError)} {f : Nat × SyncError} :
    f ∈ sortFailures failed ↔ f ∈ failed := List.mem_mergeSort

theorem sortFailures_pairwise {failed : List (Nat × SyncError)} (h : (failed.map (·.1)).Nodup) :
    (sortFailures failed).Pairwise fun a b => a.1 < b.1 := by
  have hperm : ((sortFailures failed).map (·.1)).Perm (failed.map (·.1)) :=
    (List.mergeSort_perm failed _).map _
  have hnodup := List.pairwise_map.mp (hperm.nodup_iff.mpr h)
  have hsorted : (sortFailures failed).Pairwise fun a b => decide (a.1 ≤ b.1) = true := by
    refine List.pairwise_mergeSort (fun a b c hab hbc => ?_) (fun a b => ?_) failed
    · simp only [decide_eq_true_eq] at *
      omega
    · simp only [Bool.or_eq_true, decide_eq_true_eq]
      omega
  refine List.Pairwise.imp₂ (fun a b hle hne => ?_) hsorted hnodup
  simp only [decide_eq_true_eq] at hle
  omega

theorem sortFailures_perm {l₁ l₂ : List (Nat × SyncError)} (h : l₁.Perm l₂)
    (hnodup : (l₁.map (·.1)).Nodup) : sortFailures l₁ = sortFailures l₂ := by
  have hnodup₂ : (l₂.map (·.1)).Nodup := (h.map _).nodup_iff.mp hnodup
  have hperm : (sortFailures l₁).Perm (sortFailures l₂) :=
    ((List.mergeSort_perm l₁ _).trans h).trans (List.mergeSort_perm l₂ _).symm
  refine hperm.eq_of_pairwise (fun a b _ _ hab hba => ?_) (sortFailures_pairwise hnodup)
    (sortFailures_pairwise hnodup₂)
  omega

/-! ### What becomes of each copy -/

namespace Fanout

/-- What a copy adds to the sum. -/
def stats? (ending : Call → Ending Rsync.Output) (c : Call) : Option TransferStats :=
  match Syncer.outcome (ending c) with
  | some (.ok stats) => some stats
  | _ => none

/-- What a copy adds to the failures. A task that dies has no error of its own. -/
def failure? (ending : Call → Ending Rsync.Output) (c : Call) : Option (Nat × SyncError) :=
  match Syncer.outcome (ending c) with
  | some (.ok _) => none
  | some (.error e) => some (c.worker, e)
  | none => some (c.worker, .noResult)

/-- The tally of copies of which nothing is left to come. -/
def complete (ending : Call → Ending Rsync.Output) (calls : List Call) : Tally :=
  ⟨[], .total (calls.filterMap (stats? ending)), calls.filterMap (failure? ending)⟩

variable {ending : Call → Ending Rsync.Output}

theorem filterMap_stats? (calls : List Call) :
    (calls.filterMap (arrival? ending)).filterMap Arrival.stats? =
      calls.filterMap (stats? ending) := by
  rw [List.filterMap_filterMap]
  refine List.filterMap_congr fun c _ => ?_
  unfold arrival? stats?
  cases Syncer.outcome (ending c) with
  | none => rfl
  | some r => cases r <;> rfl

/-- The errors that were sent, and one for each task that died. -/
theorem filterMap_failure?_perm (calls : List Call) :
    ((calls.filterMap (arrival? ending)).filterMap Arrival.failure? ++
      (calls.filter fun c => (arrival? ending c).isNone).map fun c =>
        (c.worker, SyncError.noResult)).Perm (calls.filterMap (failure? ending)) := by
  induction calls with
  | nil => exact .refl _
  | cons c calls ih =>
      cases ho : Syncer.outcome (ending c) with
      | none =>
          have harrival : arrival? ending c = none := by simp [arrival?, ho]
          have hfailure : failure? ending c = some (c.worker, .noResult) := by
            simp [failure?, ho]
          simp only [List.filterMap_cons, harrival, hfailure, List.filter_cons, Option.isNone_none,
            if_true, List.map_cons]
          exact List.perm_middle.trans (ih.cons _)
      | some r =>
          have harrival : arrival? ending c = some ⟨c.worker, r⟩ := by simp [arrival?, ho]
          cases r with
          | ok stats =>
              have hfailure : failure? ending c = none := by simp [failure?, ho]
              simpa [List.filterMap_cons, harrival, hfailure, Arrival.failure?] using ih
          | error e =>
              have hfailure : failure? ending c = some (c.worker, e) := by simp [failure?, ho]
              simpa [List.filterMap_cons, harrival, hfailure, Arrival.failure?] using ih

/-- A worker whose name comes with no result is that of a task that died. -/
theorem filter_workers {calls : List Call} (hd : (calls.map (·.worker)).Nodup)
    {arrivals : List Arrival} (h : arrivals.Perm (calls.filterMap (arrival? ending))) :
    (calls.map (·.worker)).filter (· ∉ arrivals.map (·.worker)) =
      (calls.filter fun c => (arrival? ending c).isNone).map (·.worker) := by
  rw [List.filter_map]
  congr 1
  refine List.filter_congr fun c hc => ?_
  have hmem : c.worker ∈ arrivals.map (·.worker) ↔ (arrival? ending c).isSome = true := by
    rw [(h.map _).mem_iff]
    constructor
    · intro hw
      obtain ⟨a, ha, hw⟩ := List.mem_map.mp hw
      obtain ⟨c', hc', hs⟩ := List.mem_filterMap.mp ha
      have hworker : c'.worker = c.worker := by
        obtain ⟨r, -, rfl⟩ := Option.map_eq_some_iff.mp hs
        exact hw
      obtain rfl : c' = c := List.inj_on_of_nodup_map hd hc' hc hworker
      simp [hs]
    · intro hs
      obtain ⟨a, ha⟩ := Option.isSome_iff_exists.mp hs
      obtain ⟨r, -, rfl⟩ := Option.map_eq_some_iff.mp ha
      exact List.mem_map.mpr ⟨_, List.mem_filterMap.mpr ⟨c, hc, ha⟩, rfl⟩
  show decide (c.worker ∉ arrivals.map (·.worker)) = (arrival? ending c).isNone
  rw [Bool.eq_iff_iff, decide_eq_true_iff, hmem]
  simp

theorem nodup_failures {calls : List Call} (hd : (calls.map (·.worker)).Nodup) :
    ((calls.filterMap (failure? ending)).map (·.1)).Nodup := by
  refine List.Nodup.sublist ?_ hd
  induction calls with
  | nil => exact .slnil
  | cons c calls ih =>
      have ih := ih (List.nodup_cons.mp hd).2
      cases hf : failure? ending c with
      | none => simpa [List.filterMap_cons, hf] using ih.cons c.worker
      | some f =>
          have hw : f.1 = c.worker := by
            unfold failure? at hf
            split at hf <;> cases hf <;> rfl
          simpa [List.filterMap_cons, hf, hw] using ih.cons_cons c.worker

/-- **Results in any order.** What all results amount to depends on what became of each copy, and
not on the order in which the results came in. -/
theorem gather_eq {calls : List Call} (hd : (calls.map (·.worker)).Nodup)
    {arrivals : List Arrival} (h : arrivals.Perm (calls.filterMap (arrival? ending)))
    (cancelled : Bool) :
    gather (calls.map (·.worker)) arrivals cancelled =
      if (complete ending calls).stats.Fits then
        some ((complete ending calls).verdict calls.length cancelled)
      else none := by
  have hstats : TransferStats.total (arrivals.filterMap Arrival.stats?) =
      (complete ending calls).stats := by
    rw [TransferStats.total_perm (h.filterMap _), filterMap_stats?]
    rfl
  have hfailed : (arrivals.filterMap Arrival.failure? ++
      ((calls.map (·.worker)).filter (· ∉ arrivals.map (·.worker))).map fun w =>
        (w, SyncError.noResult)).Perm (calls.filterMap (failure? ending)) := by
    rw [filter_workers hd h, List.map_map]
    exact ((h.filterMap _).append_right _).trans (filterMap_failure?_perm calls)
  unfold gather
  rw [Tally.foldlM_take?]
  show (((TransferStats.sum? _).map _).map _) = _
  rw [TransferStats.sum?_eq, hstats]
  split
  · have hsort := sortFailures_perm hfailed.symm (nodup_failures hd)
    simp only [Tally.start, Option.map_some, List.nil_append, Tally.verdict, Tally.failures,
      complete, List.map_nil, List.append_nil, List.length_map]
    simp only [sortFailures] at hsort
    rw [hsort]
  · rfl

end Fanout

end TunnelSync
