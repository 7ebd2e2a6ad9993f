import Mathlib.Algebra.Group.Action.Defs
import Mathlib.Algebra.Order.BigOperators.Group.List
import Mathlib.Algebra.Order.Group.Nat
import TunnelSync.Proofs.Stats
import TunnelSync.Proofs.Sync.Shape

/-!
# Merging statistics

What is read in one output fits in the counters, but what is read in several may add up to more. If
the whole sum fits, then so does every sum on the way to it, and merging is exact in whatever order
the outputs come. If it does not, it is lost: checked counters fail with a message, and the
collector of a sync dies; counters that begin again at 0 have a wrong sum.

* `wrappedSum` : the sums in counters that begin again
* `reported` : what outputs say, added up without a limit
* `forall_fits_iff` : how many outputs are safe, whatever they say up to a number
* `Fanout.Merged` : what the collector of a sync has made of the outputs
* `Fanout.merging_exact_iff` : merging is exact just where the sums fit
-/

namespace TunnelSync

namespace TransferStats

/-! ### Counters that fail and counters that begin again -/

theorem sum_eq (stats : List TransferStats) :
    sum stats = if (total stats).Fits then .ok (total stats) else .error overflowMessage := by
  rw [sum, sum?_eq]
  by_cases h : (total stats).Fits
  · rw [if_pos h, if_pos h]
  · rw [if_neg h, if_neg h]

theorem sum_eq_ok_iff (stats : List TransferStats) :
    sum stats = .ok (total stats) ↔ (total stats).Fits := by
  rw [sum_eq]
  by_cases h : (total stats).Fits <;> simp [h]

theorem sum_eq_error_iff (stats : List TransferStats) :
    sum stats = .error overflowMessage ↔ ¬ (total stats).Fits := by
  rw [sum_eq]
  by_cases h : (total stats).Fits <;> simp [h]

/-- Both sums in counters that begin again at 0 when they are full. -/
def addWrapping (a b : TransferStats) : TransferStats :=
  ⟨(a.files + b.files) % counterLimit, (a.bytes + b.bytes) % counterLimit⟩

/-- The sums over a list in such counters, added up from the first element on. -/
def wrappedSum (stats : List TransferStats) : TransferStats := stats.foldl addWrapping zero

theorem foldl_addWrapping {a : TransferStats} (ha : a.Fits) (stats : List TransferStats) :
    stats.foldl addWrapping a =
      ⟨(total (a :: stats)).files % counterLimit, (total (a :: stats)).bytes % counterLimit⟩ := by
  induction stats generalizing a with
  | nil => simp [total, Nat.mod_eq_of_lt ha.1, Nat.mod_eq_of_lt ha.2]
  | cons b stats ih =>
      have hpos : 0 < counterLimit := by decide
      have hfits : (addWrapping a b).Fits := ⟨Nat.mod_lt _ hpos, Nat.mod_lt _ hpos⟩
      rw [List.foldl_cons, ih hfits]
      simp only [total, addWrapping, List.map_cons, List.sum_cons, Nat.mod_add_mod, Nat.add_assoc]

theorem wrappedSum_eq (stats : List TransferStats) :
    wrappedSum stats =
      ⟨(total stats).files % counterLimit, (total stats).bytes % counterLimit⟩ := by
  have htotal : total (zero :: stats) = total stats := by simp [total, zero]
  rw [wrappedSum, foldl_addWrapping (by decide), htotal]

theorem wrappedSum_eq_total_iff (stats : List TransferStats) :
    wrappedSum stats = total stats ↔ (total stats).Fits := by
  have hne : counterLimit ≠ 0 := by decide
  rw [wrappedSum_eq]
  show (⟨_, _⟩ : TransferStats) = ⟨(total stats).files, (total stats).bytes⟩ ↔ _
  rw [mk.injEq, Nat.mod_eq_iff_lt hne, Nat.mod_eq_iff_lt hne]
  rfl

/-! ### How much outputs can report -/

/-- What outputs say, added up without a limit. -/
def reported (outputs : List Text) : TransferStats := total (outputs.map parse)

theorem reported_perm {outputs outputs' : List Text} (h : outputs.Perm outputs') :
    reported outputs = reported outputs' := total_perm (h.map parse)

theorem ne_comma_of_mem_ofNat {n : Nat} {c : Char} (hc : c ∈ Text.ofNat n) : c ≠ ',' := by
  have hdigit : c.isDigit = true := Nat.isDigit_of_mem_toDigits (by decide) (by decide) hc
  rintro rfl
  exact absurd hdigit (by decide)

/-- A number as it is printed without commas. -/
def Numeral.ofNat (n : Nat) : Numeral where
  value := n
  text := Text.ofNat n
  head_ne := fun h => ne_comma_of_mem_ofNat (List.mem_of_mem_head? h) rfl
  digits := List.filter_eq_self.mpr fun _ hc => bne_iff_ne.mpr (ne_comma_of_mem_ofNat hc)

theorem isBlank_of_mem_space : ∀ c ∈ " ".toList, Text.isBlank c = true :=
  List.all_eq_true.mp (by decide)

theorem endsLine_newline : EndsLine "\n".toList := fun c hc => by
  cases hc
  exact .inl rfl

/-- The statistics of a copy that has moved so much. -/
def Block.ofStats (s : TransferStats) : Block where
  before := []
  regular := true
  filesGap := " "
  files := .ofNat s.files
  between := "\n"
  bytesGap := " "
  bytes := .ofNat s.bytes
  unit := " bytes"
  after := "\n"
  filesGap_blank := isBlank_of_mem_space
  bytesGap_blank := isBlank_of_mem_space
  unit_mem := by decide
  between_ends := endsLine_newline
  after_ends := endsLine_newline
  files_before := by decide
  bytes_before := by decide
  bytes_between := by decide

theorem parse_ofStats {s : TransferStats} (hs : s.Fits) : parse (Block.ofStats s).text = s := by
  have hfiles := firstAt?_filesHere?_eq_some_iff.mpr (Block.ofStats s).firstAt_files
  have hbytes := firstAt?_bytesHere?_eq_some_iff.mpr (Block.ofStats s).firstAt_bytes
  have hvalue {n : Nat} (hn : n < counterLimit) : counterValue (Numeral.ofNat n).text = n :=
    (Numeral.ofNat n).counterValue_text.trans (if_pos hn)
  rw [parse, hfiles, hbytes]
  exact congrArg₂ TransferStats.mk (hvalue hs.1) (hvalue hs.2)

theorem total_replicate (n : Nat) (s : TransferStats) :
    total (List.replicate n s) = ⟨n * s.files, n * s.bytes⟩ := by
  simp only [total, List.map_replicate, List.sum_replicate_nat]

theorem fits_of_forall_le {stats : List TransferStats} {most : Nat}
    (hle : ∀ s ∈ stats, s.files ≤ most ∧ s.bytes ≤ most)
    (hmost : stats.length * most < counterLimit) : (total stats).Fits := by
  have hsum (count : TransferStats → Nat) (hcount : ∀ s ∈ stats, count s ≤ most) :
      (stats.map count).sum ≤ stats.length * most := by
    have hcard := List.sum_le_card_nsmul (stats.map count) most (List.forall_mem_map.mpr hcount)
    rwa [List.length_map, smul_eq_mul] at hcard
  exact ⟨(hsum _ fun s hs => (hle s hs).1).trans_lt hmost,
    (hsum _ fun s hs => (hle s hs).2).trans_lt hmost⟩

/-- Whatever `n` outputs say, if it is `most` at most, their sums fit exactly if `n` times `most`
does. -/
theorem forall_fits_iff (n : Nat) {most : Nat} (hmost : most < counterLimit) :
    (∀ outputs : List Text, outputs.length = n →
      (∀ t ∈ outputs, (parse t).files ≤ most ∧ (parse t).bytes ≤ most) →
      (reported outputs).Fits) ↔ n * most < counterLimit := by
  constructor
  · intro hall
    have hparse := parse_ofStats (s := ⟨most, most⟩) ⟨hmost, hmost⟩
    have hfits := hall (List.replicate n (Block.ofStats ⟨most, most⟩).text) List.length_replicate
      fun t ht => by
        rw [List.eq_of_mem_replicate ht, hparse]
        exact ⟨Nat.le_refl _, Nat.le_refl _⟩
    rw [reported, List.map_replicate, hparse, total_replicate] at hfits
    exact hfits.1
  · rintro hn outputs rfl hle
    refine fits_of_forall_le (List.forall_mem_map.mpr hle) ?_
    rwa [List.length_map]

end TransferStats

/-! ### The collector of a sync -/

theorem exists_perm_map_eq {α β : Type} {f : α → β} {l : List β} {m : List α}
    (h : l.Perm (m.map f)) : ∃ m' : List α, m'.Perm m ∧ l = m'.map f := by
  have himage : List.Forall₂ (fun b a => b = f a) (m.map f) m :=
    List.forall₂_map_left_iff.mpr (List.forall₂_same.mpr fun _ _ => rfl)
  obtain ⟨m', hforall, hperm⟩ := List.perm_comp_forall₂ h himage
  have heq : List.Forall₂ Eq l (m'.map f) := List.forall₂_map_right_iff.mpr hforall
  exact ⟨m', hperm, List.forall₂_eq_eq_eq ▸ heq⟩

namespace Fanout

open TransferStats (parse reported)

variable {ending : Call → Ending Rsync.Output} {calls : List Call}

/-- What a copy that counts as a success has printed. -/
def printed? (ending : Call → Ending Rsync.Output) (c : Call) : Option Text :=
  match ending c with
  | some (.ok output) => (Rsync.classify output).toOption.map fun _ => output.stdout
  | _ => none

theorem stats?_eq (c : Call) : stats? ending c = (printed? ending c).map parse := by
  unfold stats? printed? Syncer.outcome
  cases ending c with
  | none => rfl
  | some result =>
      cases result with
      | error e => rfl
      | ok output =>
          cases h : Rsync.classify output with
          | error e => simp [Except.bind, h, Except.toOption]
          | ok stats => simp [Except.bind, h, Except.toOption, Syncer.eq_parse_of_classify h]

theorem filterMap_stats?_eq (calls : List Call) :
    calls.filterMap (stats? ending) = (calls.filterMap (printed? ending)).map parse := by
  rw [List.map_filterMap]
  exact List.filterMap_congr fun c _ => stats?_eq c

/-- What the collector has made of the outputs that it knows of. -/
structure Merged (ending : Call → Ending Rsync.Output) (calls : List Call) (s : State)
    (outputs : List Text) : Prop where
  /-- They have come in this order. -/
  taken : s.received.filterMap Arrival.stats? = outputs.map parse
  /-- No copy counts twice. -/
  part : outputs.Subperm (calls.filterMap (printed? ending))
  /-- The sum is exact, unless the collector has died. -/
  alive : s.result ≠ some none → (reported outputs).Fits ∧ s.tally.stats = reported outputs
  /-- It has died only of a sum that does not fit. -/
  dead : s.result = some none → ¬ (reported outputs).Fits
  /-- A collector that returns has them all. -/
  returned : ∀ v, s.result = some (some v) →
    outputs.Perm (calls.filterMap (printed? ending)) ∧
      ∀ stats, v = .ok stats → stats = reported outputs

theorem Accounted.exists_outputs {s : State} (inv : Accounted ending calls s) :
    ∃ outputs : List Text, s.received.filterMap Arrival.stats? = outputs.map parse ∧
      outputs.Subperm (calls.filterMap (printed? ending)) := by
  have hpart := inv.received_subperm
  rw [filterMap_stats?_eq] at hpart
  obtain ⟨l, hl, hsub⟩ := hpart
  obtain ⟨part, hpart, rfl⟩ := List.sublist_map_iff.mp hsub
  obtain ⟨outputs, hperm, heq⟩ := exists_perm_map_eq hl.symm
  exact ⟨outputs, heq, part, hperm.symm, hpart⟩

/-- Whatever has happened, the collector has merged what has come in. -/
theorem Accounted.exists_merged {s : State} (inv : Accounted ending calls s) :
    ∃ outputs, Merged ending calls s outputs := by
  obtain ⟨outputs, htaken, hpart⟩ := inv.exists_outputs
  have hsum : TransferStats.total (s.received.filterMap Arrival.stats?) = reported outputs :=
    congrArg TransferStats.total htaken
  refine ⟨outputs, htaken, hpart, hsum ▸ inv.tally_stats, hsum ▸ inv.not_fits_received,
    fun v hv => ⟨?_, ?_⟩⟩
  · obtain ⟨-, hreceived, -⟩ := inv.gather_eq hv
    have hlen := (hreceived.filterMap Arrival.stats?).length_eq
    rw [filterMap_stats?, filterMap_stats?_eq, htaken, List.length_map, List.length_map] at hlen
    exact hpart.perm_of_length_le hlen.ge
  · rintro stats rfl
    obtain ⟨-, hverdict⟩ := inv.returned _ hv
    obtain ⟨-, hstats⟩ := Syncer.failures_of_verdict hverdict.symm
    have hlive : s.result ≠ some none := by simp [hv]
    rw [← hstats, (inv.tally_stats hlive).2, hsum]

/-- The collector lives in every order exactly if it can hold the sum over all copies. -/
theorem forall_alive_iff :
    (∀ actions s, Run ending calls actions s → s.result ≠ some none) ↔
      (reported (calls.filterMap (printed? ending))).Fits := by
  rw [reported, ← filterMap_stats?_eq]
  constructor
  · intro hlive
    by_cases hne : calls = []
    · -- there are no runs, and nothing to add up
      subst hne
      show TransferStats.zero.Fits
      decide
    · have hempty : calls.isEmpty = false := by simpa using hne
      have run : Run ending calls [] _ := .start (by rw [start?, hempty]; rfl)
      obtain ⟨more, t, run', ht⟩ := run.exists_finished
      obtain ⟨r, hr⟩ := Option.isSome_iff_exists.mp ht
      cases r with
      | none => exact absurd hr (hlive _ _ run')
      | some v => exact run'.accounted.fits_of_returned hr
  · intro hfits actions s run hr
    exact run.accounted.not_fits hr hfits

/-- **Merging is exact where the sums fit.** Whatever outputs say, their sum comes out right if, and
only if, the counters can hold it; if they cannot, checked counters fail with their message, and
counters that begin again have a wrong sum. Outputs of which nothing is known but their number, and
that they say `most` at most, are safe exactly if that number times `most` fits. The collector of a
sync that prints these outputs lives in every order exactly if their sum fits. At every moment it
has the exact sum of what has come in, or has died because that does not fit; and if it returns
statistics, they are the exact sum of all. -/
theorem merging_exact_iff (outputs : List Text) :
    (TransferStats.sum (outputs.map parse) = .ok (reported outputs) ↔
      (reported outputs).Fits) ∧
    (TransferStats.sum (outputs.map parse) = .error TransferStats.overflowMessage ↔
      ¬ (reported outputs).Fits) ∧
    (TransferStats.wrappedSum (outputs.map parse) = reported outputs ↔
      (reported outputs).Fits) ∧
    (∀ most, most < TransferStats.counterLimit →
      ((∀ others : List Text, others.length = outputs.length →
        (∀ t ∈ others, (parse t).files ≤ most ∧ (parse t).bytes ≤ most) →
        (reported others).Fits) ↔ outputs.length * most < TransferStats.counterLimit)) ∧
    ∀ (ending : Call → Ending Rsync.Output) (calls : List Call),
      (calls.filterMap (printed? ending)).Perm outputs →
      ((∀ actions s, Run ending calls actions s → s.result ≠ some none) ↔
        (reported outputs).Fits) ∧
      ∀ actions s, Run ending calls actions s → ∃ merged, Merged ending calls s merged := by
  refine ⟨?_, ?_, ?_, fun most => ?_, fun ending calls hprinted => ⟨?_, fun actions s run => ?_⟩⟩
  · exact TransferStats.sum_eq_ok_iff _
  · exact TransferStats.sum_eq_error_iff _
  · exact TransferStats.wrappedSum_eq_total_iff _
  · exact TransferStats.forall_fits_iff outputs.length
  · rw [← TransferStats.reported_perm hprinted]
    exact forall_alive_iff
  · exact run.accounted.exists_merged

/-- The line of the bytes with a number. -/
def bytesOutput (number : Text) : Text := "Total transferred file size: ".toList ++ number

/-- Two copies report a file of the greatest size there is, and the third reports this number. -/
def limitEnding (third : Text) (c : Call) : Ending Rsync.Output :=
  some (.ok ⟨some 0, bytesOutput (if c.worker = 3 then third else "9223372036854775807"), []⟩)

/-- What they print. -/
def limitOutputs (third : Text) : List Text :=
  [bytesOutput "9223372036854775807", bytesOutput "9223372036854775807", bytesOutput third]

/-- Two such sizes and one byte are the greatest sum that fits. -/
theorem merging_exact_iff_full :
    threeCalls.filterMap (printed? (limitEnding "1")) = limitOutputs "1" ∧
    (∃ s merged, Run (limitEnding "1") threeCalls hugeActions s ∧
      Merged (limitEnding "1") threeCalls s merged ∧ s.result = none ∧
      reported merged = ⟨0, 18446744073709551615⟩) ∧
    6148914691236517205 < TransferStats.counterLimit ∧
    (reported (List.replicate 3 (bytesOutput "6148914691236517205"))).Fits := by
  obtain ⟨-, -, -, hsafe, hruns⟩ := merging_exact_iff (limitOutputs "1")
  have hprinted : threeCalls.filterMap (printed? (limitEnding "1")) = limitOutputs "1" := rfl
  refine ⟨hprinted, ?_, ?_⟩
  · obtain ⟨s, hs⟩ : ∃ s, (start? threeCalls).bind
        (fun s₀ => hugeActions.foldlM (State.step? (limitEnding "1")) s₀) = some s := ⟨_, rfl⟩
    have run : Run (limitEnding "1") threeCalls hugeActions s := run_of_foldlM hs
    have hresult : s.result = none := by cases hs; rfl
    have hstats : s.tally.stats = ⟨0, 18446744073709551615⟩ := by cases hs; rfl
    obtain ⟨-, hmerged⟩ := hruns (limitEnding "1") threeCalls (.of_eq hprinted)
    obtain ⟨merged, hm⟩ := hmerged _ s run
    obtain ⟨-, hsum⟩ := hm.alive (by simp [hresult])
    exact ⟨s, merged, run, hm, hresult, hsum.symm.trans hstats⟩
  · have hlimit : 6148914691236517205 < TransferStats.counterLimit := by decide
    have hlen : (limitOutputs "1").length = 3 := rfl
    have hall := hsafe 6148914691236517205 hlimit
    rw [hlen] at hall
    exact ⟨hlimit, hall.mpr (by decide) _ List.length_replicate (by decide +kernel)⟩

/-- Three outputs that say such a size are too much for checked counters and have a wrong sum in
counters that begin again, and the collector of the copies that print them dies. -/
theorem sums_overflow :
    let outputs := limitOutputs "9223372036854775807"
    reported outputs = ⟨0, 27670116110564327421⟩ ∧
      TransferStats.sum (outputs.map parse) = .error TransferStats.overflowMessage ∧
      TransferStats.wrappedSum (outputs.map parse) = ⟨0, 9223372036854775805⟩ ∧
      threeCalls.filterMap (printed? (limitEnding "9223372036854775807")) = outputs ∧
      ∃ s, Run (limitEnding "9223372036854775807") threeCalls hugeActions s ∧
        s.result = some none := by
  intro outputs
  have hread : outputs.map parse = List.replicate 3 ⟨0, 9223372036854775807⟩ := by
    decide +kernel
  refine ⟨?_, ?_, ?_, rfl, ?_⟩
  · rw [reported, hread]
    rfl
  · rw [hread]
    decide
  · rw [hread]
    decide
  · obtain ⟨s, hs⟩ : ∃ s, (start? threeCalls).bind (fun s₀ =>
        hugeActions.foldlM (State.step? (limitEnding "9223372036854775807")) s₀) = some s :=
      ⟨_, rfl⟩
    exact ⟨s, run_of_foldlM hs, by cases hs; rfl⟩

end Fanout

end TunnelSync
