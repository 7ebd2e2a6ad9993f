import TunnelSync.Proofs.Plan

/-!
# The degree of a sync

The thresholds are a table, and the degree is that of the first row whose limit the number of files
does not reach. More files never find an earlier row, so in a table whose degrees do not fall they
find no smaller degree. Between the table and the splitter stands the bound by the number of
entries, which leaves as many chunks as the degree says.

* `lookup` : the degree that a table has for so many files
* `lookup_mem`, `lookup_mono` : it is one of the table, and does not fall with more files
* `degree?_eq_none_iff`, `degree?_eq_some_iff` : the degree of a sync
* `degree_of_sync` : the degree, its bounds and its chunks
-/

namespace TunnelSync.Plan

/-! ### A table of thresholds -/

/-- The degree in the first row whose limit is above the number of files, or `last` behind all
rows. -/
def lookup (last files : Nat) : List (Nat × Nat) → Nat
  | [] => last
  | (limit, degree) :: rows => if files < limit then degree else lookup last files rows

theorem degreeForFiles_eq (files : Nat) :
    degreeForFiles files = lookup maxDegree files thresholds := by
  unfold degreeForFiles
  induction thresholds with
  | nil => rfl
  | cons row rows ih =>
      unfold lookup
      rw [List.find?_cons]
      by_cases h : files < row.1
      · simp [h]
      · simpa [h] using ih

/-- The degrees of a table, the one behind all rows included. -/
def degrees (last : Nat) (rows : List (Nat × Nat)) : List Nat := rows.map (·.2) ++ [last]

theorem lookup_mem (last files : Nat) (rows : List (Nat × Nat)) :
    lookup last files rows ∈ degrees last rows := by
  induction rows with
  | nil => simp [lookup, degrees]
  | cons row rows ih =>
      unfold lookup
      split
      · simp [degrees]
      · exact List.mem_cons_of_mem _ ih

/-- Where no degree is below an earlier one, more files never have a smaller degree. -/
theorem lookup_mono {last files files' : Nat} {rows : List (Nat × Nat)}
    (hrows : (degrees last rows).Pairwise (· ≤ ·)) (h : files ≤ files') :
    lookup last files rows ≤ lookup last files' rows := by
  induction rows with
  | nil => exact Nat.le_refl last
  | cons row rows ih =>
      obtain ⟨hfirst, hrest⟩ := List.pairwise_cons.mp hrows
      unfold lookup
      by_cases hlimit : files < row.1
      · rw [if_pos hlimit]
        split
        · exact Nat.le_refl row.2
        · exact hfirst _ (lookup_mem last files' rows)
      · rw [if_neg hlimit, if_neg (by omega)]
        exact ih hrest

/-! ### The degree that nobody asked for -/

theorem degreeForFiles_bounds (files : Nat) :
    1 ≤ degreeForFiles files ∧ degreeForFiles files ≤ maxDegree := by
  have hall : ∀ d ∈ degrees maxDegree thresholds, 1 ≤ d ∧ d ≤ maxDegree := by decide
  rw [degreeForFiles_eq]
  exact hall _ (lookup_mem maxDegree files thresholds)

theorem degreeForFiles_mono {files files' : Nat} (h : files ≤ files') :
    degreeForFiles files ≤ degreeForFiles files' := by
  have hsorted : (degrees maxDegree thresholds).Pairwise (· ≤ ·) := by decide
  rw [degreeForFiles_eq, degreeForFiles_eq]
  exact lookup_mono hsorted h

/-! ### The degree of a sync -/

variable {files entries wish d : Nat}

theorem degree?_eq_none_iff : degree? files entries wish = none ↔ entries = 0 := by
  unfold degree?
  split <;> simp_all

/-- The degree is what is asked for, or else what the files suggest, but no more than the
entries. -/
theorem degree?_eq_some_iff : degree? files entries wish = some d ↔
    entries ≠ 0 ∧ d = min (if 0 < wish then wish else degreeForFiles files) entries := by
  have hbounds := degreeForFiles_bounds files
  have hmax : max (if 0 < wish then wish else degreeForFiles files) 1 =
      if 0 < wish then wish else degreeForFiles files := by
    split <;> omega
  unfold degree?
  rw [hmax]
  by_cases h : entries = 0
  · simp [h]
  · rw [if_neg h, Option.some.injEq, eq_comm]
    simp [h]

theorem length_split_of_le {es : List Entry} (h₁ : 1 ≤ d) (h₂ : d ≤ es.length) :
    (split es d).length = d := by
  rw [length_split]
  omega

/-- **The degree of a sync.** There is none exactly if there are no entries. A degree is at least
one and no more than the entries, and the entries split at it give as many chunks, none of them
empty. A degree that nobody asked for is bounded, and more files or more entries do not make it
smaller; one that is asked for is taken as it is, whatever the files, up to the number of
entries. -/
theorem degree_of_sync (files entries wish : Nat) :
    (degree? files entries wish = none ↔ entries = 0) ∧
    ∀ d, degree? files entries wish = some d →
      (1 ≤ d ∧ d ≤ entries) ∧
      (∀ es : List Entry, es.length = entries →
        (split es d).length = d ∧ ∀ c ∈ split es d, c.entries ≠ []) ∧
      (wish = 0 → d ≤ maxDegree ∧ ∀ files' entries', files ≤ files' → entries ≤ entries' →
        ∃ d', degree? files' entries' 0 = some d' ∧ d ≤ d') ∧
      (0 < wish → d = min wish entries) := by
  refine ⟨degree?_eq_none_iff, ?_⟩
  intro d hd
  obtain ⟨hentries, hmin⟩ := degree?_eq_some_iff.mp hd
  have hfiles := degreeForFiles_bounds files
  have hbounds : 1 ≤ d ∧ d ≤ entries := by
    split at hmin <;> omega
  refine ⟨hbounds, ?_, ?_, ?_⟩
  · rintro es rfl
    exact ⟨length_split_of_le hbounds.1 hbounds.2, fun c hc => entries_ne_nil hc⟩
  · rintro rfl
    rw [if_neg (by omega)] at hmin
    refine ⟨by omega, ?_⟩
    intro files' entries' hle hle'
    have hmono := degreeForFiles_mono hle
    refine ⟨min (degreeForFiles files') entries', degree?_eq_some_iff.mpr ⟨by omega, rfl⟩, ?_⟩
    omega
  · intro hwish
    rw [if_pos hwish] at hmin
    exact hmin

/-- The files of a large tree suggest more copies than there are entries. -/
theorem degree_of_sync_three :
    degree? 5000 3 0 = some 3 ∧ (split [.dir "a", .file "b", .file "c"] 3).length = 3 ∧
      ∃ d', degree? 5000 20 0 = some d' ∧ 3 ≤ d' := by
  have hdegree : degree? 5000 3 0 = some 3 := by decide
  obtain ⟨-, hsplit, hauto, -⟩ := (degree_of_sync 5000 3 0).2 3 hdegree
  obtain ⟨-, hmono⟩ := hauto rfl
  exact ⟨hdegree, (hsplit _ rfl).1, hmono 5000 20 (by omega) (by omega)⟩

end TunnelSync.Plan
