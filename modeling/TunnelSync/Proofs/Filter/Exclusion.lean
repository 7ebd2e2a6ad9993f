import TunnelSync.Filter.Basic
import TunnelSync.Proofs.Filter.Grammar
import TunnelSync.Proofs.Text.Cut

/-!
# What a filter excludes

A pattern excludes the name that it spells. With stars and question marks alone it excludes the
names that fit it character by character, and with a class or two stars together it excludes what
the grammar of globs makes of it, if anything.

* `Wild` : the names that a pattern of stars and question marks stands for
* `matches_iff_wild` : the glob of such a pattern
* `patternExcludes_iff` : what one pattern excludes
* `excludes_iff` : what a list of patterns excludes
-/

namespace TunnelSync.Filter
open Glob

/-- The names that a pattern of stars and question marks stands for. -/
inductive Wild : Text → Text → Prop
  | nil : Wild [] []
  | star (s : Text) {p t : Text} (h : Wild p t) : Wild ('*' :: p) (s ++ t)
  | question (c : Char) {p t : Text} (h : Wild p t) : Wild ('?' :: p) (c :: t)
  | char {c : Char} {p t : Text} (hc : c ≠ '*' ∧ c ≠ '?') (h : Wild p t) : Wild (c :: p) (c :: t)

variable {p t s name : Text}

theorem wild_nil_iff : Wild [] t ↔ t = [] := by
  constructor
  · intro h
    cases h
    rfl
  · rintro rfl
    exact .nil

theorem wild_star_iff : Wild ('*' :: p) t ↔ ∃ s rest, t = s ++ rest ∧ Wild p rest := by
  constructor
  · intro h
    cases h with
    | star s h => exact ⟨s, _, rfl, h⟩
    | char hc _ => exact absurd rfl hc.1
  · rintro ⟨s, rest, rfl, h⟩
    exact .star s h

theorem wild_question_iff : Wild ('?' :: p) t ↔ ∃ c rest, t = c :: rest ∧ Wild p rest := by
  constructor
  · intro h
    cases h with
    | question c h => exact ⟨c, _, rfl, h⟩
    | char hc _ => exact absurd rfl hc.2
  · rintro ⟨c, rest, rfl, h⟩
    exact .question c h

theorem wild_char_iff {c : Char} (hc : c ≠ '*' ∧ c ≠ '?') :
    Wild (c :: p) t ↔ ∃ rest, t = c :: rest ∧ Wild p rest := by
  constructor
  · intro h
    cases h with
    | star => exact absurd rfl hc.1
    | question => exact absurd rfl hc.2
    | char _ h => exact ⟨_, rfl, h⟩
  · rintro ⟨rest, rfl, h⟩
    exact .char hc h

/-! ### Patterns of stars and question marks -/

theorem not_stars_infix_cons {c : Char} (h : ¬ ['*', '*'] <:+: c :: p) :
    (c = '*' → p.head? ≠ some '*') ∧ ¬ ['*', '*'] <:+: p := by
  rw [stars_infix_cons_iff, not_or] at h
  exact ⟨fun hc hp => h.1 ⟨hc, hp⟩, h.2⟩

theorem exists_spells_wild (hbracket : '[' ∉ p) (hstars : ¬ ['*', '*'] <:+: p) (b : Bool) :
    ∃ g, Spells b p g := by
  induction p generalizing b with
  | nil => exact ⟨_, .nil⟩
  | cons c p ih =>
      obtain ⟨hhead, hrest⟩ := not_stars_infix_cons hstars
      rw [List.mem_cons, not_or] at hbracket
      exact (exists_spells_cons_iff (Ne.symm hbracket.1) hhead).mpr (ih hbracket.2 hrest _)

/-- In a name without a slash, a star stands for anything. -/
theorem matches_iff_wild {b : Bool} {g : Glob} (h : Spells b p g) (hbracket : '[' ∉ p)
    (hstars : ¬ ['*', '*'] <:+: p) (hname : '/' ∉ name) : Matches g name ↔ Wild p name := by
  induction h generalizing name with
  | nil => exact wild_nil_iff.symm
  | anyChar h ih =>
      rw [wild_question_iff, matches_anyChar_iff]
      refine exists_congr fun c => exists_congr fun rest => and_congr_right ?_
      rintro rfl
      rw [List.mem_cons, not_or] at hname
      rw [ih (List.not_mem_of_not_mem_cons hbracket) (not_stars_infix_cons hstars).2 hname.2]
      exact and_iff_right (Ne.symm hname.1)
  | anyRow hp h ih =>
      rw [wild_star_iff, Matches]
      refine exists_congr fun s => exists_congr fun rest => and_congr_right ?_
      rintro rfl
      rw [List.mem_append, not_or] at hname
      rw [ih (List.not_mem_of_not_mem_cons hbracket) (not_stars_infix_cons hstars).2 hname.2]
      exact and_iff_right hname.1
  | anyPath | anyPathEnd => exact absurd rfl ((not_stars_infix_cons hstars).1 rfl)
  | within | outside => exact absurd List.mem_cons_self hbracket
  | literal hc h ih =>
      rw [wild_char_iff ⟨hc.1, hc.2.1⟩, matches_literal_iff]
      refine exists_congr fun rest => and_congr_right ?_
      rintro rfl
      rw [List.mem_cons, not_or] at hname
      exact ih (List.not_mem_of_not_mem_cons hbracket) (not_stars_infix_cons hstars).2 hname.2

/-! ### One pattern -/

/-- What a pattern excludes: its own spelling, and what it stands for. -/
def Excludes (p name : Text) : Prop :=
  p = name ∨
  (('*' ∈ p ∨ '?' ∈ p) ∧ '[' ∉ p ∧ ¬ ['*', '*'] <:+: p ∧ Wild p name) ∨
  (('[' ∈ p ∨ ['*', '*'] <:+: p) ∧ ∃ g, Spells true p g ∧ Matches g name)

theorem hasWildcard_eq_false_iff :
    hasWildcard s = false ↔ ∀ c ∈ s, c ≠ '*' ∧ c ≠ '?' ∧ c ≠ '[' := by
  simp [hasWildcard, and_assoc]

theorem hasWildcard_eq_true_iff : hasWildcard p = true ↔ '*' ∈ p ∨ '?' ∈ p ∨ '[' ∈ p := by
  simp only [hasWildcard, List.any_eq_true, Bool.or_eq_true, beq_iff_eq, or_assoc, and_or_left,
    exists_or, exists_eq_right]

/-- The filter decides what a pattern excludes. -/
theorem patternExcludes_iff (hname : '/' ∉ name) :
    patternExcludes p name = true ↔ Excludes p name := by
  rw [patternExcludes, Bool.or_eq_true, beq_iff_eq, Excludes, glob?]
  refine or_congr_right ?_
  by_cases hwild : hasWildcard p = true
  · rw [if_pos hwild, parse?_any_iff]
    by_cases hclass : '[' ∈ p ∨ ['*', '*'] <:+: p
    · have hnot : ¬ ('[' ∉ p ∧ ¬ ['*', '*'] <:+: p ∧ Wild p name) := fun h =>
        hclass.elim h.1 h.2.1
      rw [or_iff_right fun h => hnot h.2, and_iff_right hclass]
    · rw [or_iff_left fun h => hclass h.1]
      rw [hasWildcard_eq_true_iff, ← or_assoc] at hwild
      obtain ⟨hbracket, hstars⟩ := not_or.mp hclass
      rw [and_iff_right (hwild.resolve_right hbracket), and_iff_right hbracket,
        and_iff_right hstars]
      constructor
      · rintro ⟨g, hg, hmatch⟩
        exact (matches_iff_wild hg hbracket hstars hname).mp hmatch
      · intro h
        obtain ⟨g, hg⟩ := exists_spells_wild hbracket hstars true
        exact ⟨g, hg, (matches_iff_wild hg hbracket hstars hname).mpr h⟩
  · rw [if_neg hwild]
    rw [hasWildcard_eq_true_iff, not_or, not_or] at hwild
    have hstars : ¬ ['*', '*'] <:+: p := fun h => hwild.1 (h.subset (by simp))
    simp [hwild, hstars]

/-- A pattern that is no glob excludes its own spelling alone. -/
theorem excludes_iff_of_refused (h : ¬ ∃ g, Spells true p g) : Excludes p name ↔ name = p := by
  refine ⟨?_, fun heq => .inl heq.symm⟩
  rintro (rfl | ⟨-, hbracket, hstars, -⟩ | ⟨-, g, hg, -⟩)
  · rfl
  · exact absurd (exists_spells_wild hbracket hstars true) h
  · exact absurd ⟨g, hg⟩ h

/-! ### Stars at one end -/

theorem wild_plain_iff (h : hasWildcard s = false) : Wild s t ↔ t = s := by
  rw [hasWildcard_eq_false_iff] at h
  induction s generalizing t with
  | nil => exact wild_nil_iff
  | cons c s ih =>
      obtain ⟨hc, hs⟩ := List.forall_mem_cons.mp h
      rw [wild_char_iff ⟨hc.1, hc.2.1⟩]
      simp [ih hs]

theorem wild_star_plain_iff (h : hasWildcard s = false) : Wild ('*' :: s) t ↔ s <:+ t := by
  rw [wild_star_iff]
  constructor
  · rintro ⟨u, rest, rfl, hrest⟩
    rw [(wild_plain_iff h).mp hrest]
    exact List.suffix_append u s
  · rintro ⟨u, rfl⟩
    exact ⟨u, s, rfl, (wild_plain_iff h).mpr rfl⟩

theorem wild_plain_star_iff (h : hasWildcard s = false) : Wild (s ++ ['*']) t ↔ s <+: t := by
  rw [hasWildcard_eq_false_iff] at h
  induction s generalizing t with
  | nil => simp [wild_star_iff, wild_nil_iff]
  | cons c s ih =>
      obtain ⟨hc, hs⟩ := List.forall_mem_cons.mp h
      rw [List.cons_append, wild_char_iff ⟨hc.1, hc.2.1⟩]
      cases t with
      | nil => simp
      | cons d t => simp [List.cons_prefix_cons, ih hs, eq_comm]

theorem excludes_iff_of_count (hstar : p.count '*' = 1) (hbracket : '[' ∉ p) :
    Excludes p name ↔ p = name ∨ Wild p name := by
  have hmem : '*' ∈ p := List.count_pos_iff.mp (by omega)
  have hstars : ¬ ['*', '*'] <:+: p := fun h => by
    have hle := h.sublist.count_le '*'
    simp [hstar] at hle
  simp [Excludes, hmem, hbracket, hstars]

/-! ### Lists of patterns -/

theorem excludes_ofPatterns_iff (hname : '/' ∉ name) (ps : List Text) :
    (ofPatterns ps).excludes name = true ↔
      ∃ raw ∈ ps, Text.trim raw ≠ [] ∧ Excludes (Text.trim raw) name := by
  rw [excludes, List.any_eq_true]
  simp [ofPatterns, patternExcludes_iff hname, and_assoc]

theorem excludes_singleton_iff (hname : '/' ∉ name) (hp : p ≠ []) (htrim : Text.trim p = p) :
    (ofPatterns [p]).excludes name = true ↔ Excludes p name := by
  rw [excludes_ofPatterns_iff hname]
  simp [htrim, hp]

theorem count_of_plain (h : hasWildcard s = false) : s.count '*' = 0 ∧ '[' ∉ s := by
  have hplain := hasWildcard_eq_false_iff.mp h
  exact ⟨List.count_eq_zero.mpr fun hmem => (hplain _ hmem).1 rfl,
    fun hmem => (hplain _ hmem).2.2 rfl⟩

theorem excludes_star_plain_iff (hname : '/' ∉ name) (h : hasWildcard s = false)
    (htrim : Text.trim s = s) : (ofPatterns ['*' :: s]).excludes name = true ↔ s <:+ name := by
  obtain ⟨hcount, hbracket⟩ := count_of_plain h
  have htrim' : Text.trim ('*' :: s) = '*' :: s := by
    refine Text.trim_eq_self_iff.mpr ⟨by simp [Text.isBlank], ?_⟩
    cases s with
    | nil => simp [Text.isBlank]
    | cons c s =>
        rw [List.getLast?_cons_cons]
        exact (Text.trim_eq_self_iff.mp htrim).2
  rw [excludes_singleton_iff hname (by simp) htrim',
    excludes_iff_of_count (by simp [hcount]) (by simp [hbracket]), wild_star_plain_iff h]
  refine or_iff_right_of_imp ?_
  rintro rfl
  exact List.suffix_cons _ _

theorem excludes_plain_star_iff (hname : '/' ∉ name) (h : hasWildcard s = false)
    (htrim : Text.trim s = s) : (ofPatterns [s ++ ['*']]).excludes name = true ↔ s <+: name := by
  obtain ⟨hcount, hbracket⟩ := count_of_plain h
  have htrim' : Text.trim (s ++ ['*']) = s ++ ['*'] := by
    refine Text.trim_eq_self_iff.mpr ⟨?_, by simp [Text.isBlank]⟩
    cases s with
    | nil => simp [Text.isBlank]
    | cons c s => exact (Text.trim_eq_self_iff.mp htrim).1
  rw [excludes_singleton_iff hname (by simp) htrim',
    excludes_iff_of_count (by simp [hcount]) (by simp [hbracket]), wild_plain_star_iff h]
  refine or_iff_right_of_imp ?_
  rintro rfl
  exact List.prefix_append _ _

/-- **What is excluded.** A name without a slash is excluded if one of the patterns, without the
blanks around it and not empty, excludes it. A pattern that the grammar of globs refuses excludes
its own spelling alone; it refuses an opening bracket without a closing one, and without brackets it
refuses exactly the two stars together that are not a path component of their own. A star at one end
of a plain text excludes exactly what has the text at the other end. -/
theorem excludes_iff (hname : '/' ∉ name) :
    (∀ ps : List Text, (ofPatterns ps).excludes name = true ↔
      ∃ raw ∈ ps, Text.trim raw ≠ [] ∧ Excludes (Text.trim raw) name) ∧
    (∀ p, p ≠ [] → Text.trim p = p → (¬ ∃ g, Spells true p g) →
      ((ofPatterns [p]).excludes name = true ↔ name = p)) ∧
    (∀ rest p, '[' :: rest <:+ p → ']' ∉ rest → ¬ ∃ g, Spells true p g) ∧
    (∀ p, '[' ∉ p → ((∃ g, Spells true p g) ↔
      ∀ piece ∈ Text.fields '/' p, piece = ['*', '*'] ∨ ¬ ['*', '*'] <:+: piece)) ∧
    (∀ s, hasWildcard s = false → Text.trim s = s →
      ((ofPatterns ['*' :: s]).excludes name = true ↔ s <:+ name) ∧
      ((ofPatterns [s ++ ['*']]).excludes name = true ↔ s <+: name)) := by
  refine ⟨excludes_ofPatterns_iff hname, fun p hp htrim hrefused => ?_, fun rest p hp hrest => ?_,
    fun p hp => ?_, fun s hplain htrim => ?_⟩
  · rw [excludes_singleton_iff hname hp htrim, excludes_iff_of_refused hrefused]
  · rintro ⟨g, hg⟩
    exact hrest (mem_of_spells hg hp)
  · rw [exists_spells_iff hp, areComponents_true_iff]
  · exact ⟨excludes_star_plain_iff hname hplain htrim, excludes_plain_star_iff hname hplain htrim⟩

theorem excludes_iff_log :
    (ofPatterns [" *.l?g ", "weird["]).excludes "app.log" = true ∧
      (ofPatterns ["weird["]).excludes "app.log" = false := by
  have hname : '/' ∉ "app.log".toList := by decide
  obtain ⟨hlist, hrefused, hopen, -⟩ := excludes_iff hname
  have hwild : Wild "*.l?g".toList "app.log".toList :=
    .star "app".toList (.char (by decide) (.char (by decide) (.question 'o' (.char (by decide) .nil))))
  have htrim : Text.trim " *.l?g ".toList = "*.l?g".toList := by decide
  have hweird : ¬ ∃ g, Spells true "weird[".toList g := hopen [] _ (by decide) (by decide)
  refine ⟨(hlist _).mpr ⟨" *.l?g ".toList, by simp, by decide, ?_⟩, ?_⟩
  · rw [htrim]
    exact .inr (.inl ⟨by decide, by decide, by decide, hwild⟩)
  · rw [← Bool.not_eq_true, hrefused _ (by decide) (by decide) hweird]
    decide

end TunnelSync.Filter
