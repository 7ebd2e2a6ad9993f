import Mathlib.Data.List.Induction
import Mathlib.Data.List.Intervals
import Mathlib.Data.List.Nodup
import TunnelSync.Plan

/-!
# Where the plan puts an entry

Dealing out in turn puts the entry at position `i` into the chunk `i % d`, at place `i / d` there.
So the chunks hold the entries and nothing else, and each entry is in one chunk. Taking them back in
turn gives the entries in their old order.

* `exists_degree?` : the degree of a sync that has entries
* `mem_split_iff`, `exists_mem_chunk`, `chunk_eq_of_mem` : the chunk of an entry
* `getElem?_split` : the chunk and the place of the entry at a position
* `map_worker_split`, `entries_ne_nil`, `flatMap_split_perm` : the chunks as a whole
* `split_eq_deal` : the chunks as they come about, one entry after the other
* `inTurn`, `split_in_turn` : the chunks, and the entries taken back from them
-/

namespace TunnelSync.Plan

variable {α : Type} {degree : Nat}

/-- With something to sync there is a degree, and no chunk needs to be empty. -/
theorem exists_degree? (files wish : Nat) {entries : Nat} (h : entries ≠ 0) :
    ∃ d, degree? files entries wish = some d ∧ 1 ≤ d ∧ d ≤ entries := by
  refine ⟨_, if_neg h, ?_, ?_⟩ <;> omega

/-- The elements of a turn, by their positions. -/
theorem getElem?_everyNth (hd : 0 < degree) (as : List α) (skip k : Nat) :
    (everyNth degree skip as)[k]? = as[skip + k * degree]? := by
  induction as generalizing skip k with
  | nil => simp [everyNth]
  | cons a as ih =>
      cases skip with
      | succ skip =>
          rw [everyNth, ih]
          have hpos : skip + 1 + k * degree = (skip + k * degree) + 1 := by omega
          rw [hpos, List.getElem?_cons_succ]
      | zero =>
          cases k with
          | zero => simp [everyNth]
          | succ k =>
              have hpos : 0 + (k + 1) * degree = (degree - 1 + k * degree) + 1 := by
                rw [Nat.add_mul]
                omega
              rw [everyNth, List.getElem?_cons_succ, ih, hpos, List.getElem?_cons_succ]

theorem mem_everyNth_iff (hd : 0 < degree) {as : List α} {skip : Nat} {a : α} :
    a ∈ everyNth degree skip as ↔ ∃ k, as[skip + k * degree]? = some a := by
  rw [List.mem_iff_getElem?]
  simp only [getElem?_everyNth hd]

/-- The chunks of a split, with the positions of their entries. -/
theorem mem_split_iff {entries : List Entry} {c : Chunk} :
    c ∈ split entries degree ↔
      ∃ w, w < max degree 1 ∧ w < entries.length ∧
        c = ⟨w + 1, everyNth (max degree 1) w entries⟩ := by
  simp only [split, List.mem_map, List.mem_range]
  constructor
  · rintro ⟨w, hw, rfl⟩
    exact ⟨w, by omega, by omega, rfl⟩
  · rintro ⟨w, hw, hlen, rfl⟩
    exact ⟨w, by omega, rfl⟩

theorem mem_of_mem_chunk {entries : List Entry} {c : Chunk} (hc : c ∈ split entries degree)
    {e : Entry} (he : e ∈ c.entries) : e ∈ entries := by
  obtain ⟨w, -, -, rfl⟩ := mem_split_iff.mp hc
  obtain ⟨k, hk⟩ := (mem_everyNth_iff (by omega)).mp he
  exact List.mem_of_getElem? hk

/-- Every entry is in a chunk. -/
theorem exists_mem_chunk (degree : Nat) {entries : List Entry} {e : Entry} (he : e ∈ entries) :
    ∃ c ∈ split entries degree, e ∈ c.entries := by
  have hd : 0 < max degree 1 := by omega
  obtain ⟨i, hi⟩ := List.mem_iff_getElem?.mp he
  have hlen : i < entries.length := (List.getElem?_eq_some_iff.mp hi).1
  have hle : i % max degree 1 ≤ i := Nat.mod_le _ _
  refine ⟨_, mem_split_iff.mpr ⟨i % max degree 1, Nat.mod_lt _ hd, by omega, rfl⟩, ?_⟩
  refine (mem_everyNth_iff hd).mpr ⟨i / max degree 1, ?_⟩
  rw [Nat.mul_comm, Nat.mod_add_div]
  exact hi

/-- The chunk and the place of the entry at a position. -/
theorem getElem?_split (degree : Nat) {entries : List Entry} {i : Nat} {e : Entry}
    (hi : entries[i]? = some e) :
    ∃ c, (split entries degree)[i % max degree 1]? = some c ∧ c.worker = i % max degree 1 + 1 ∧
      c.entries[i / max degree 1]? = some e := by
  have hd : 0 < max degree 1 := by omega
  have hlen : i < entries.length := (List.getElem?_eq_some_iff.mp hi).1
  have hlt : i % max degree 1 < min (max degree 1) entries.length :=
    Nat.lt_min.mpr ⟨Nat.mod_lt _ hd, Nat.lt_of_le_of_lt (Nat.mod_le _ _) hlen⟩
  refine ⟨⟨i % max degree 1 + 1, everyNth (max degree 1) (i % max degree 1) entries⟩, ?_, rfl, ?_⟩
  · rw [split, List.getElem?_map, List.getElem?_range hlt]
    rfl
  · rw [getElem?_everyNth hd, Nat.mul_comm, Nat.mod_add_div]
    exact hi

/-- No entry is in two chunks. -/
theorem chunk_eq_of_mem {entries : List Entry} (hnodup : entries.Nodup) {c c' : Chunk}
    (hc : c ∈ split entries degree) (hc' : c' ∈ split entries degree) {e : Entry}
    (he : e ∈ c.entries) (he' : e ∈ c'.entries) : c = c' := by
  have hd : 0 < max degree 1 := by omega
  obtain ⟨w, hw, -, rfl⟩ := mem_split_iff.mp hc
  obtain ⟨w', hw', -, rfl⟩ := mem_split_iff.mp hc'
  obtain ⟨k, hk⟩ := (mem_everyNth_iff hd).mp he
  obtain ⟨k', hk'⟩ := (mem_everyNth_iff hd).mp he'
  have hpos : w + k * max degree 1 = w' + k' * max degree 1 :=
    (List.getElem?_inj (List.getElem?_eq_some_iff.mp hk).1 hnodup).mp (hk.trans hk'.symm)
  have hmod := congrArg (· % max degree 1) hpos
  simp only [Nat.add_mul_mod_self_right, Nat.mod_eq_of_lt hw, Nat.mod_eq_of_lt hw'] at hmod
  rw [hmod]

/-! ### All chunks -/

theorem map_worker_split (entries : List Entry) (degree : Nat) :
    (split entries degree).map (·.worker) =
      (List.range (min (max degree 1) entries.length)).map (· + 1) := by
  simp [split, Function.comp_def]

/-- No chunk is empty. -/
theorem entries_ne_nil {entries : List Entry} {c : Chunk} (hc : c ∈ split entries degree) :
    c.entries ≠ [] := by
  obtain ⟨w, -, hlen, rfl⟩ := mem_split_iff.mp hc
  refine List.ne_nil_of_mem (a := entries[w]) ((mem_everyNth_iff (by omega)).mpr ⟨0, ?_⟩)
  simp [hlen]

theorem everyNth_eq_nil (hd : 0 < degree) {as : List α} {skip : Nat} (h : as.length ≤ skip) :
    everyNth degree skip as = [] := by
  refine List.eq_nil_iff_forall_not_mem.mpr fun a ha => ?_
  obtain ⟨k, hk⟩ := (mem_everyNth_iff hd).mp ha
  have hlt := (List.getElem?_eq_some_iff.mp hk).1
  omega

/-- All turns together take every element once. -/
theorem flatMap_everyNth_perm (hd : 0 < degree) (as : List α) :
    ((List.range degree).flatMap (everyNth degree · as)).Perm as := by
  induction as with
  | nil => simp [everyNth]
  | cons a as ih =>
      obtain ⟨k, rfl⟩ : ∃ k, degree = k + 1 := ⟨degree - 1, by omega⟩
      have hshift : (List.range (k + 1)).flatMap (everyNth (k + 1) · (a :: as)) =
          a :: (everyNth (k + 1) k as ++ (List.range k).flatMap (everyNth (k + 1) · as)) := by
        rw [List.range_succ_eq_map, List.flatMap_cons, List.flatMap_map]
        rfl
      have hlast : (List.range (k + 1)).flatMap (everyNth (k + 1) · as) =
          (List.range k).flatMap (everyNth (k + 1) · as) ++ everyNth (k + 1) k as := by
        simp [List.range_succ]
      rw [hshift]
      rw [hlast] at ih
      exact (List.perm_append_comm.trans ih).cons a

/-- The chunks together hold every entry once. -/
theorem flatMap_split_perm (entries : List Entry) (degree : Nat) :
    ((split entries degree).flatMap (·.entries)).Perm entries := by
  have hd : 0 < max degree 1 := by omega
  have hsplit : (split entries degree).flatMap (·.entries) =
      (List.range (max degree 1)).flatMap (everyNth (max degree 1) · entries) := by
    rw [split, List.flatMap_map]
    rcases Nat.le_total (max degree 1) entries.length with hle | hle
    · rw [Nat.min_eq_left hle]
    · -- the workers that are left out have nothing
      have hrange := List.range_add (n := entries.length) (m := max degree 1 - entries.length)
      rw [Nat.add_sub_cancel' hle] at hrange
      rw [Nat.min_eq_right hle, hrange, List.flatMap_append, List.flatMap_map]
      simp [everyNth_eq_nil hd]
  exact hsplit ▸ flatMap_everyNth_perm hd entries

theorem length_split (entries : List Entry) (degree : Nat) :
    (split entries degree).length = min (max degree 1) entries.length := by
  simp [split]

/-! ### One entry after the other -/

theorem succ_mod_eq_zero_iff (hd : 0 < degree) {n : Nat} :
    (n + 1) % degree = 0 ↔ n % degree = degree - 1 := by
  have hlt : n % degree < degree := Nat.mod_lt _ hd
  rcases Nat.eq_or_lt_of_le hd with rfl | h
  · simp [Nat.mod_one]
  · rw [Nat.add_mod_eq_ite, Nat.mod_eq_of_lt h]
    split <;> omega

theorem succ_mod_eq_succ_iff {n skip : Nat} (hskip : skip + 1 < degree) :
    (n + 1) % degree = skip + 1 ↔ n % degree = skip := by
  have hlt : n % degree < degree := Nat.mod_lt _ (by omega)
  rw [Nat.add_mod_eq_ite, Nat.mod_eq_of_lt (by omega : 1 < degree)]
  split <;> omega

theorem everyNth_concat {skip : Nat} (hskip : skip < degree) (as : List α) (a : α) :
    everyNth degree skip (as ++ [a]) =
      everyNth degree skip as ++ if as.length % degree = skip then [a] else [] := by
  induction as generalizing skip with
  | nil => cases skip <;> simp [everyNth]
  | cons b as ih =>
      cases skip with
      | zero =>
          have hrest := @ih (degree - 1) (by omega)
          simp only [List.cons_append, everyNth, List.length_cons, succ_mod_eq_zero_iff hskip,
            hrest]
      | succ skip =>
          have hrest := @ih skip (by omega)
          simp only [List.cons_append, everyNth, List.length_cons, succ_mod_eq_succ_iff hskip,
            hrest]

/-- The hands of the workers when the elements have been dealt out one by one, each to the worker
whose turn it is. -/
def deal (degree : Nat) (as : List α) : List (List α) :=
  as.zipIdx.foldl (fun hands (a, i) => hands.modify (i % degree) (· ++ [a]))
    (List.replicate degree [])

theorem deal_concat (degree : Nat) (as : List α) (a : α) :
    deal degree (as ++ [a]) = (deal degree as).modify (as.length % degree) (· ++ [a]) := by
  simp [deal, List.zipIdx_append]

theorem deal_eq (degree : Nat) (as : List α) :
    deal degree as = (List.range degree).map (everyNth degree · as) := by
  induction as using List.reverseRecOn with
  | nil =>
      refine List.ext_getElem (by simp [deal]) fun i _ _ => ?_
      simp [deal, everyNth]
  | append_singleton as a ih =>
      rw [deal_concat, ih]
      refine List.ext_getElem (by simp) fun i hi hi' => ?_
      have hskip : i < degree := by simpa using hi
      simp only [List.getElem_modify, List.getElem_map, List.getElem_range, everyNth_concat hskip]
      split <;> simp

theorem lt_length_everyNth_iff (hd : 0 < degree) (as : List α) (skip k : Nat) :
    k < (everyNth degree skip as).length ↔ skip + k * degree < as.length := by
  rw [← Nat.not_le, ← Nat.not_le, ← List.getElem?_eq_none_iff, ← List.getElem?_eq_none_iff,
    getElem?_everyNth hd]

/-- The chunks are the hands that are not empty, numbered from one. -/
theorem split_eq_deal (entries : List Entry) (degree : Nat) :
    split entries degree =
      ((deal (max degree 1) entries).filter (!·.isEmpty)).mapIdx fun i hand => ⟨i + 1, hand⟩ := by
  have hd : 0 < max degree 1 := by omega
  have hdealt : ((!·.isEmpty) ∘ (everyNth (max degree 1) · entries)) =
      fun w => decide (w < entries.length) := by
    funext w
    have hlen := lt_length_everyNth_iff hd entries w 0
    rw [Nat.zero_mul, Nat.add_zero, List.length_pos_iff] at hlen
    rw [Function.comp_apply, Bool.eq_iff_iff, decide_eq_true_iff, ← hlen]
    simp
  have hworkers : (List.range (max degree 1)).filter (· < entries.length) =
      List.range (min (max degree 1) entries.length) := by
    simpa [List.Ico.zero_bot] using List.Ico.filter_lt 0 (max degree 1) entries.length
  rw [deal_eq, List.filter_map, hdealt, hworkers]
  refine List.ext_getElem (by simp [split]) fun i _ _ => ?_
  simp [split]

/-! ### Taking the entries back -/

/-- The most that a hand holds. -/
def rounds (hands : List (List α)) : Nat := (hands.map List.length).foldr max 0

theorem length_le_rounds {hands : List (List α)} {hand : List α} (h : hand ∈ hands) :
    hand.length ≤ rounds hands := by
  induction hands with
  | nil => cases h
  | cons first hands ih =>
      have hrounds : rounds (first :: hands) = max first.length (rounds hands) := rfl
      rcases List.mem_cons.mp h with rfl | h
      · omega
      · have := ih h
        omega

/-- The elements of hands taken back in turn: the first of each hand, then the second of each hand
that has one, and so on. -/
def inTurn (hands : List (List α)) : List α :=
  (List.range (rounds hands)).flatMap fun j => hands.filterMap (·[j]?)

theorem filterMap_getElem?_range (as : List α) (n : Nat) :
    (List.range n).filterMap (as[·]?) = as.take n := by
  induction n with
  | zero => simp
  | succ n ih =>
      rw [List.range_succ, List.filterMap_append, ih, List.take_add_one]
      cases h : as[n]? <;> simp [h]

theorem flatMap_drop_take (degree n : Nat) (as : List α) :
    ((List.range n).flatMap fun j => (as.drop (j * degree)).take degree) =
      as.take (n * degree) := by
  induction n with
  | zero => simp
  | succ n ih =>
      rw [List.range_succ, List.flatMap_append, ih, Nat.succ_mul, List.take_add]
      simp

/-- The turns taken back in turn give the list. -/
theorem inTurn_everyNth (hd : 0 < degree) (as : List α) :
    inTurn ((List.range (min degree as.length)).map (everyNth degree · as)) = as := by
  have hround (j : Nat) :
      ((List.range (min degree as.length)).map (everyNth degree · as)).filterMap (·[j]?) =
        (as.drop (j * degree)).take degree := by
    have hplace : ((·[j]?) ∘ (everyNth degree · as)) = ((as.drop (j * degree))[·]?) := by
      funext w
      rw [Function.comp_apply, getElem?_everyNth hd, List.getElem?_drop, Nat.add_comm]
    rw [List.filterMap_map, hplace, filterMap_getElem?_range, List.take_eq_take_iff,
      List.length_drop]
    omega
  simp only [inTurn, hround, flatMap_drop_take]
  refine List.take_of_length_le ?_
  -- the first hand is dealt an element in every round
  by_contra hlt
  have hfirst := (lt_length_everyNth_iff hd as 0
    (rounds ((List.range (min degree as.length)).map (everyNth degree · as)))).mpr (by omega)
  have hle : (everyNth degree 0 as).length ≤
      rounds ((List.range (min degree as.length)).map (everyNth degree · as)) :=
    length_le_rounds (List.mem_map_of_mem (List.mem_range.mpr (by omega)))
  omega

theorem everyNth_sublist (degree skip : Nat) (as : List α) :
    (everyNth degree skip as).Sublist as := by
  induction as generalizing skip with
  | nil => exact .slnil
  | cons a as ih =>
      cases skip with
      | zero => exact (ih (degree - 1)).cons_cons a
      | succ skip => exact (ih skip).cons a

/-- Of two workers the one before gets as much as the other, or one more. -/
theorem length_everyNth_le {skip skip' : Nat} (h : skip ≤ skip') (h' : skip' < degree)
    (as : List α) :
    (everyNth degree skip' as).length ≤ (everyNth degree skip as).length ∧
      (everyNth degree skip as).length ≤ (everyNth degree skip' as).length + 1 := by
  have hd : 0 < degree := by omega
  constructor
  · refine le_of_forall_lt fun k hk => ?_
    rw [lt_length_everyNth_iff hd] at hk ⊢
    omega
  · refine le_of_forall_lt fun k hk => ?_
    cases k with
    | zero => omega
    | succ k =>
        rw [lt_length_everyNth_iff hd, Nat.succ_mul] at hk
        have := (lt_length_everyNth_iff hd as skip' k).mpr (by omega)
        omega

/-- **The chunks of a split.** They are the hands that dealing out the entries leaves, without the
empty ones and numbered from one: as many as the degree says or as there are entries. The chunk of a
worker has every entry whose turn is the worker's, in the old order, so no chunk is empty and of two
chunks the one before has as many entries as the other, or one more. Taking the entries back in turn
gives the whole list again. -/
theorem split_in_turn (entries : List Entry) (degree : Nat) :
    split entries degree =
      ((deal (max degree 1) entries).filter (!·.isEmpty)).mapIdx (fun i hand => ⟨i + 1, hand⟩) ∧
    (split entries degree).length = min (max degree 1) entries.length ∧
    (split entries degree).map (·.worker) =
      (List.range (min (max degree 1) entries.length)).map (· + 1) ∧
    (∀ c ∈ split entries degree, c.entries ≠ [] ∧ c.entries.Sublist entries ∧
      ∀ j, c.entries[j]? = entries[c.worker - 1 + j * max degree 1]?) ∧
    ((split entries degree).Pairwise fun c c' =>
      c'.entries.length ≤ c.entries.length ∧ c.entries.length ≤ c'.entries.length + 1) ∧
    inTurn ((split entries degree).map (·.entries)) = entries ∧
    ((split entries degree).flatMap (·.entries)).Perm entries := by
  have hd : 0 < max degree 1 := by omega
  refine ⟨split_eq_deal entries degree, length_split entries degree,
    map_worker_split entries degree, fun c hc => ?_, ?_, ?_, flatMap_split_perm entries degree⟩
  · obtain ⟨w, -, -, hworker⟩ := mem_split_iff.mp hc
    refine ⟨entries_ne_nil hc, ?_, fun j => ?_⟩
    · rw [hworker]
      exact everyNth_sublist _ _ _
    · rw [hworker]
      exact getElem?_everyNth hd entries w j
  · rw [split, List.pairwise_map]
    refine List.pairwise_lt_range.imp_of_mem fun {w w'} _ hw' hlt => ?_
    rw [List.mem_range] at hw'
    exact length_everyNth_le hlt.le (by omega) entries
  · rw [split, List.map_map]
    exact inTurn_everyNth hd entries

end TunnelSync.Plan
