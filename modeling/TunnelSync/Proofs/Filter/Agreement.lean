import TunnelSync.Proofs.Filter.Exclusion
import TunnelSync.Proofs.Rsync.Pattern
import TunnelSync.Proofs.Text.Lines

/-!
# The filter and rsync on one pattern

The names at the top are sorted out twice: by the filter when the tree is shared among copies, and by
rsync when one copy takes the whole tree. Both read the patterns, each in its own grammar.

* `Shared` : the patterns that mean the same in both grammars
* `exists_spells_fits` : what they mean
* `excludes_iff_names` : on them the filter differs from rsync in their own spelling only
* `Agreed` : the patterns without brackets on which they agree
* `excludes_keepsOut_iff` : the names that the filter excludes, and those that a copy leaves out
-/

namespace TunnelSync.Filter
open Glob

/-! ### Patterns of both grammars -/

/-- No range in a class ends before it begins. -/
def Ascending (members : Text) : Prop :=
  ∀ first last, .range first last ∈ classItems members → first ≤ last

/-- The patterns that mean the same in both grammars: there are no backslashes and no two stars
together, and each bracket opens a class that is not negated by a caret. -/
inductive Shared : Text → Prop
  | nil : Shared []
  | star {p : Text} (hp : p.head? ≠ some '*') (h : Shared p) : Shared ('*' :: p)
  | question {p : Text} (h : Shared p) : Shared ('?' :: p)
  | oneOf {q members behind : Text} {negated : Bool}
      (hq : Rsync.OpensClass q negated members behind) (hcaret : q.head? ≠ some '^')
      (hmembers : Ascending members) (h : Shared behind) : Shared ('[' :: q)
  | char {c : Char} {p : Text} (hc : (c == '\\' || Rsync.isWildcard c) = false) (h : Shared p) :
      Shared (c :: p)

variable {other : Text → Text → Prop} {p t name : Text}

/-- Read from the left or cut into items, a class has the same members. The first character of a
range is a member anyway, so the range must not be empty. -/
theorem member_iff {members : Text} {items : List ClassItem} (h : SpellsClass members items)
    (hascending : ∀ first last, .range first last ∈ items → first ≤ last) (c : Char) :
    Rsync.Member none members c ↔ ∃ item ∈ items, item.Has c := by
  induction h with
  | nil => simp [Rsync.Member]
  | @range first last t items h ih =>
      have hle : first ≤ last := hascending first last List.mem_cons_self
      have hrest := ih fun a b hab => hascending a b (.tail _ hab)
      rw [Rsync.member_none_iff, Rsync.member_range_iff, hrest, List.exists_mem_cons_iff]
      refine or_iff_right_of_imp ?_
      rintro rfl
      exact .inl ⟨Char.le_refl first, hle⟩
  | one ht h ih =>
      have hrest := ih fun a b hab => hascending a b (.tail _ hab)
      rw [Rsync.member_none_iff, Rsync.member_some_iff ht, hrest, List.exists_mem_cons_iff]
      rfl

theorem exists_cons_congr {P Q : Char → Prop} {M N : Text → Prop} (hname : '/' ∉ name)
    (hfirst : ∀ c, c ≠ '/' → (P c ↔ Q c)) (hrest : ∀ t, '/' ∉ t → (M t ↔ N t)) :
    (∃ c t, name = c :: t ∧ P c ∧ M t) ↔ ∃ c t, name = c :: t ∧ Q c ∧ N t := by
  refine exists_congr fun c => exists_congr fun t => and_congr_right ?_
  rintro rfl
  rw [List.mem_cons, not_or] at hname
  exact and_congr (hfirst c (Ne.symm hname.1)) (hrest t hname.2)

/-- A shared pattern is a glob, and in names without a slash it means what it means to rsync. -/
theorem exists_spells_fits (other : Text → Text → Prop) (h : Shared p) (b : Bool) :
    ∃ g, Spells b p g ∧ ∀ name, '/' ∉ name → (Matches g name ↔ Rsync.Fits other p name) := by
  induction h generalizing b with
  | nil => exact ⟨[], .nil, fun name _ => Rsync.fits_nil_iff.symm⟩
  | star hp h ih =>
      obtain ⟨g, hg, hsame⟩ := ih false
      refine ⟨_, .anyRow hp hg, fun name hname => ?_⟩
      rw [Rsync.fits_star_iff, Matches]
      refine exists_congr fun s => exists_congr fun rest => and_congr_right ?_
      rintro rfl
      rw [List.mem_append, not_or] at hname
      rw [hsame rest hname.2]
      exact and_iff_right hname.1
  | question h ih =>
      obtain ⟨g, hg, hsame⟩ := ih false
      refine ⟨_, .anyChar hg, fun name hname => ?_⟩
      rw [Rsync.fits_question_iff, matches_anyChar_iff]
      have hany : ∀ c, c ≠ '/' → (c ≠ '/' ↔ True) := fun c hc => iff_of_true hc trivial
      simpa only [true_and] using exists_cons_congr hname hany hsame
  | oneOf hq hcaret hmembers h ih =>
      obtain ⟨g, hg, hsame⟩ := ih false
      have hmember := member_iff (spellsClass_iff.mpr rfl) hmembers
      cases hq with
      | within hfirst hinside hescape hnamed =>
          refine ⟨_, .within hfirst.1 hinside (spellsClass_iff.mpr rfl) hg, fun name hname => ?_⟩
          rw [Rsync.fits_class_iff (.within hfirst hinside hescape hnamed), matches_within_iff]
          refine exists_cons_congr hname (fun c hc => ?_) hsame
          rw [hmember, and_iff_right hc]
          simp
      | @outside sign first inside behind hsign hinside hescape hnamed =>
          obtain rfl : sign = '!' := hsign.resolve_right fun heq => hcaret (by rw [heq]; rfl)
          refine ⟨_, .outside hinside (spellsClass_iff.mpr rfl) hg, fun name hname => ?_⟩
          rw [Rsync.fits_class_iff (.outside hsign hinside hescape hnamed), matches_outside_iff]
          refine exists_cons_congr hname (fun c hc => ?_) hsame
          rw [hmember, and_iff_right hc]
          simp
  | @char d p hd h ih =>
      obtain ⟨-, hstar, hquestion, hbracket⟩ := Rsync.plain_iff.mp hd
      obtain ⟨g, hg, hsame⟩ := ih _
      refine ⟨_, .literal ⟨hstar, hquestion, hbracket⟩ hg, fun name hname => ?_⟩
      rw [Rsync.fits_char_iff hd, matches_literal_iff]
      refine exists_congr fun rest => and_congr_right ?_
      rintro rfl
      exact hsame rest (List.not_mem_of_not_mem_cons hname)

theorem matches_congr_of_spells {b : Bool} {g g' : Glob} (h : Spells b p g) (h' : Spells b p g') :
    Matches g t ↔ Matches g' t := by
  obtain ⟨r, hread, hsame⟩ := exists_readFrom h []
  obtain ⟨r', hread', hsame'⟩ := exists_readFrom h' []
  obtain rfl := Option.some.inj (hread.symm.trans hread')
  exact (hsame t).symm.trans (hsame' t)

/-! ### One pattern -/

theorem excludes_iff_glob (hname : '/' ∉ name) : Excludes p name ↔
    p = name ∨ hasWildcard p = true ∧ ∃ g, Spells true p g ∧ Matches g name := by
  rw [← patternExcludes_iff hname, patternExcludes, Bool.or_eq_true, beq_iff_eq]
  refine or_congr_right ?_
  unfold glob?
  cases hasWildcard p with
  | true => rw [if_pos rfl, parse?_any_iff, and_iff_right rfl]
  | false => simp

theorem names_of_wildcard (h : hasWildcard p = true) :
    Rsync.Names other p name ↔ Rsync.Fits other p name := by
  have hany : p.any Rsync.isWildcard = true := h
  unfold Rsync.Names
  rw [if_pos hany]

theorem names_of_plain (h : hasWildcard p = false) : Rsync.Names other p name ↔ name = p := by
  have hany : p.any Rsync.isWildcard = false := h
  unfold Rsync.Names
  rw [if_neg (Bool.eq_false_iff.mp hany)]

/-- The patterns that mean the same to the filter and to rsync, but for their own spelling. -/
def Alike (p : Text) : Prop := hasWildcard p = false ∨ p = "**".toList ∨ Shared p

/-- On these patterns the filter differs from rsync in their own spelling only. -/
theorem excludes_iff_names (other : Text → Text → Prop) (h : Alike p) (hname : '/' ∉ name) :
    Excludes p name ↔ name = p ∨ Rsync.Names other p name := by
  rw [excludes_iff_glob hname]
  obtain hplain | rfl | hshared := h
  · rw [names_of_plain hplain, or_self, hplain]
    simp [eq_comm]
  · have hglob : ∃ g, Spells true "**".toList g ∧ Matches g name :=
      ⟨_, .anyPathEnd, .inr (.inr rfl)⟩
    have hfits : Rsync.Fits other "**".toList (name ++ ([] ++ [])) := .star name (.star [] .nil)
    rw [List.append_nil, List.append_nil] at hfits
    rw [names_of_wildcard rfl]
    exact iff_of_true (.inr ⟨rfl, hglob⟩) (.inr hfits)
  · cases hwild : hasWildcard p with
    | false =>
        rw [names_of_plain hwild, or_self]
        simp [eq_comm]
    | true =>
        obtain ⟨g, hg, hsame⟩ := exists_spells_fits other hshared true
        rw [names_of_wildcard hwild, and_iff_right rfl, ← hsame name hname]
        refine or_congr eq_comm ?_
        constructor
        · rintro ⟨g', hg', hmatch⟩
          exact (matches_congr_of_spells hg' hg).mp hmatch
        · intro hmatch
          exact ⟨g, hg, hmatch⟩

/-! ### Patterns without brackets -/

/-- The patterns without brackets on which the filter and rsync agree: there is no wildcard, or it is
two stars, or there is neither a backslash nor two stars together. -/
def Agreed (p : Text) : Prop :=
  hasWildcard p = false ∨ p = "**".toList ∨ ('\\' ∉ p ∧ ¬ ['*', '*'] <:+: p)

instance : DecidablePred Agreed := fun _ => inferInstanceAs (Decidable (_ ∨ _ ∨ _))

theorem shared_of_not_mem (hbracket : '[' ∉ p) (hescape : '\\' ∉ p)
    (hstars : ¬ ['*', '*'] <:+: p) : Shared p := by
  induction p with
  | nil => exact .nil
  | cons c p ih =>
      obtain ⟨hhead, hrest⟩ := not_stars_infix_cons hstars
      rw [List.mem_cons, not_or] at hbracket hescape
      have hp := ih hbracket.2 hescape.2 hrest
      by_cases hstar : c = '*'
      · have hhead' := hhead hstar
        rw [hstar]
        exact .star hhead' hp
      · by_cases hquestion : c = '?'
        · rw [hquestion]
          exact .question hp
        · exact .char (Rsync.plain_iff.mpr
            ⟨Ne.symm hescape.1, hstar, hquestion, Ne.symm hbracket.1⟩) hp

theorem names_self (hbracket : '[' ∉ p) (h : Agreed p) : Rsync.Names other p p := by
  cases hwild : hasWildcard p with
  | false => exact (names_of_plain hwild).mpr rfl
  | true =>
      have hescape : '\\' ∉ p := by
        obtain hplain | rfl | hplain := h
        · rw [hplain] at hwild
          cases hwild
        · decide
        · exact hplain.1
      exact (names_of_wildcard hwild).mpr (Rsync.fits_self hbracket hescape)

theorem excludes_iff_names_of_agreed (other : Text → Text → Prop) (hbracket : '[' ∉ p)
    (h : Agreed p) (hname : '/' ∉ name) : Excludes p name ↔ Rsync.Names other p name := by
  have halike : Alike p :=
    h.imp_right (Or.imp_right fun hplain => shared_of_not_mem hbracket hplain.1 hplain.2)
  rw [excludes_iff_names other halike hname]
  refine or_iff_right_of_imp ?_
  rintro rfl
  exact names_self hbracket h

theorem not_spells_stars (hslash : '/' ∉ p) (hbracket : '[' ∉ p) (hne : p ≠ "**".toList)
    (hstars : ['*', '*'] <:+: p) : ¬ ∃ g, Spells true p g := by
  rw [exists_spells_iff hbracket, Text.fields_of_not_mem hslash, areComponents_true_iff,
    List.forall_mem_singleton]
  intro h
  cases h with
  | inl heq => exact hne heq
  | inr hnone => exact hnone hstars

theorem count_le_of_wild {c : Char} (hc : c ≠ '*' ∧ c ≠ '?') (h : Wild p t) :
    p.count c ≤ t.count c := by
  induction h with
  | nil => exact le_rfl
  | star s h ih =>
      rw [List.count_cons_of_ne (Ne.symm hc.1), List.count_append]
      omega
  | question d h ih =>
      rw [List.count_cons_of_ne (Ne.symm hc.2), List.count_cons]
      omega
  | char hd h ih =>
      rw [List.count_cons, List.count_cons]
      omega

theorem count_le_of_excludes (hslash : '/' ∉ p) (hbracket : '[' ∉ p) (hescape : '\\' ∈ p)
    (h : Excludes p name) : p.count '\\' ≤ name.count '\\' := by
  have hne : p ≠ "**".toList := by
    rintro rfl
    revert hescape
    decide
  obtain rfl | ⟨-, -, -, hwild⟩ | ⟨hclass, g, hg, -⟩ := h
  · exact le_rfl
  · exact count_le_of_wild (by decide) hwild
  · exact absurd ⟨g, hg⟩ (not_spells_stars hslash hbracket hne (hclass.resolve_left hbracket))

section
variable (other : Text → Text → Prop) (hslash : '/' ∉ p) (hbracket : '[' ∉ p)
include hslash hbracket

/-- Where a wildcard makes rsync read backslashes as escapes, a name tells the two apart. -/
theorem exists_differ_of_backslash (hwild : hasWildcard p = true) (hescape : '\\' ∈ p) :
    ∃ name, name ≠ [] ∧ '/' ∉ name ∧ ¬ (Excludes p name ↔ Rsync.Names other p name) := by
  cases hshort : Rsync.shortest? p with
  | none =>
      refine ⟨p, List.ne_nil_of_mem hescape, hslash, fun h => ?_⟩
      have hnames := h.mp (.inl rfl)
      rw [names_of_wildcard hwild] at hnames
      exact Rsync.not_fits_of_shortest? hbracket hshort hnames
  | some name =>
      obtain ⟨hlt, hne⟩ := (Rsync.count_shortest? hshort).2 hescape
      have hname : '/' ∉ name := fun hmem =>
        (Rsync.mem_of_shortest? hshort hmem).elim (by decide) hslash
      refine ⟨name, hne, hname, fun h => ?_⟩
      have hnames : Rsync.Names other p name :=
        (names_of_wildcard hwild).mpr (Rsync.fits_of_shortest? hbracket hshort)
      have hle := count_le_of_excludes hslash hbracket hescape (h.mpr hnames)
      omega

/-- Where the filter refuses two stars together, a name tells the two apart: for rsync a star less
makes no difference. -/
theorem exists_differ_of_stars (hne : p ≠ "**".toList) (hescape : '\\' ∉ p)
    (hstars : ['*', '*'] <:+: p) :
    ∃ name, name ≠ [] ∧ '/' ∉ name ∧ ¬ (Excludes p name ↔ Rsync.Names other p name) := by
  have hrefused := not_spells_stars hslash hbracket hne hstars
  obtain ⟨before, behind, rfl⟩ := hstars
  have hwild : hasWildcard (before ++ ['*', '*'] ++ behind) = true :=
    hasWildcard_eq_true_iff.mpr (.inl (by simp))
  simp only [List.mem_append, not_or] at hslash hbracket hescape
  have hbefore : Rsync.Fits other before before := Rsync.fits_self hbracket.1.1 hescape.1.1
  have hbehind : Rsync.Fits other behind behind := Rsync.fits_self hbracket.2 hescape.2
  have hstar : Rsync.Fits other (['*', '*'] ++ behind) (['*'] ++ behind) :=
    .star ['*'] (.star [] hbehind)
  refine ⟨before ++ (['*'] ++ behind), by simp, by simp [hslash.1.1, hslash.2], fun h => ?_⟩
  have hnames : Rsync.Names other (before ++ ['*', '*'] ++ behind) (before ++ (['*'] ++ behind)) := by
    rw [names_of_wildcard hwild, List.append_assoc]
    exact Rsync.fits_append hbracket.1.1 hbefore hstar
  have hlength := congrArg List.length ((excludes_iff_of_refused hrefused).mp (h.mpr hnames))
  simp only [List.length_append, List.length_cons, List.length_nil] at hlength
  omega

theorem exists_differ (h : ¬ Agreed p) :
    ∃ name, name ≠ [] ∧ '/' ∉ name ∧ ¬ (Excludes p name ↔ Rsync.Names other p name) := by
  unfold Agreed at h
  rw [not_or, not_or, Bool.not_eq_false] at h
  obtain ⟨hwild, hne, hnot⟩ := h
  by_cases hescape : '\\' ∈ p
  · exact exists_differ_of_backslash other hslash hbracket hwild hescape
  · have hstars : ['*', '*'] <:+: p := not_not.mp fun hstars => hnot ⟨hescape, hstars⟩
    exact exists_differ_of_stars other hslash hbracket hne hescape hstars

end

/-! ### Brackets that are not closed -/

/-- Where nothing fits behind a bracket that is not closed, nothing fits the pattern. -/
theorem not_fits_of_open {front rest : Text} (hopen : ∀ q t, ']' ∉ q → ¬ other q t)
    (h : Shared front) (hrest : ']' ∉ rest) : ¬ Rsync.Fits other (front ++ '[' :: rest) t := by
  induction h generalizing t with
  | nil =>
      intro hfits
      cases hfits with
      | oneOf hq _ _ => exact hrest hq.mem_closing
      | bracket _ hother => exact hopen _ _ hrest hother
      | char hc _ => cases hc
  | star hp h ih =>
      rw [List.cons_append, Rsync.fits_star_iff]
      rintro ⟨_, _, -, hfits⟩
      exact ih hfits
  | question h ih =>
      rw [List.cons_append, Rsync.fits_question_iff]
      rintro ⟨_, _, -, hfits⟩
      exact ih hfits
  | oneOf hq hcaret hmembers h ih =>
      rw [List.cons_append, Rsync.fits_class_iff (hq.append _)]
      rintro ⟨_, _, -, -, hfits⟩
      exact ih hfits
  | char hc h ih =>
      rw [List.cons_append, Rsync.fits_char_iff hc]
      rintro ⟨_, -, hfits⟩
      exact ih hfits

/-! ### One pattern in both places -/

/-- The copy of the whole tree for one pattern. -/
def fullCopy (raw : Text) : Rsync.Command :=
  { options := .none, filter := .ofPatterns [raw], selection := .all, localPath := [0x2F],
    remoteShell := "ssh", destination := "user@host:/" }

theorem keepsOut_fullCopy_iff (htrim : Text.trim p = p) (hwild : hasWildcard p = true)
    (hsigned : ¬ Rsync.IsSigned p) :
    Rsync.KeepsOut other (fullCopy p) name ↔ Rsync.Fits other p name := by
  have hne : p ≠ [] := by
    rintro rfl
    cases hwild
  rw [Rsync.keepsOut_pattern_iff rfl rfl (by rwa [htrim]), htrim, and_iff_right hne,
    names_of_wildcard hwild]

section
variable {c : Rsync.Command} {ps : List Text}

/-- Where all patterns mean the same, the filter excludes what a copy of the whole tree leaves out
and what one of the patterns spells. -/
theorem excludes_iff_keepsOut (other : Text → Text → Prop) (hc : c.selection = .all)
    (hfilter : c.filter = .ofPatterns ps)
    (hsigned : ∀ raw ∈ ps, ¬ Rsync.IsSigned (Text.trim raw))
    (halike : ∀ raw ∈ ps, Alike (Text.trim raw)) (hname : '/' ∉ name) :
    c.filter.excludes name = true ↔
      (∃ raw ∈ ps, Text.trim raw ≠ [] ∧ name = Text.trim raw) ∨ Rsync.KeepsOut other c name := by
  rw [Rsync.keepsOut_ofPatterns_iff hc hfilter hsigned, hfilter, excludes_ofPatterns_iff hname]
  constructor
  · rintro ⟨raw, hraw, htrim, hexcludes⟩
    cases (excludes_iff_names other (halike raw hraw) hname).mp hexcludes with
    | inl hspelled => exact .inl ⟨raw, hraw, htrim, hspelled⟩
    | inr hnames => exact .inr ⟨raw, hraw, htrim, hnames⟩
  · rintro (⟨raw, hraw, htrim, rfl⟩ | ⟨raw, hraw, htrim, hnames⟩)
    · exact ⟨raw, hraw, htrim, .inl rfl⟩
    · exact ⟨raw, hraw, htrim, (excludes_iff_names other (halike raw hraw) hname).mpr (.inr hnames)⟩

/-- **One pattern in both places.** Let `p` be the one pattern of a filter, without the blanks around
it, and not be read by rsync as a rule of another kind.

If `p` means the same in both grammars, the filter takes out of a shared sync what a copy of the
whole tree leaves out, and the spelling of `p` in any case. Without brackets in `p` the two agree on
all names if `p` has no wildcard, or is two stars, or has neither a backslash nor two stars
together, and on every other such `p` they differ in some name. If a bracket in `p` is not closed,
the filter takes out the spelling of `p` alone, and rsync leaves out nothing, as far as nothing fits
behind such a bracket. -/
theorem excludes_keepsOut_iff (other : Text → Text → Prop) {raw : Text} (hc : c.selection = .all)
    (hfilter : c.filter = .ofPatterns [raw]) (hp : Text.trim raw = p)
    (hsigned : ¬ Rsync.IsSigned p) :
    (Alike p → ∀ name, '/' ∉ name →
      (c.filter.excludes name = true ↔ (p ≠ [] ∧ name = p) ∨ Rsync.KeepsOut other c name)) ∧
    ('[' ∉ p → Agreed p → ∀ name, '/' ∉ name →
      (c.filter.excludes name = true ↔ Rsync.KeepsOut other c name)) ∧
    ('[' ∉ p → '/' ∉ p → ¬ Agreed p → ∃ name, name ≠ [] ∧ '/' ∉ name ∧
      ¬ (c.filter.excludes name = true ↔ Rsync.KeepsOut other c name)) ∧
    (∀ front rest, p = front ++ '[' :: rest → ']' ∉ rest → ∀ name, '/' ∉ name →
      (c.filter.excludes name = true ↔ name = p) ∧
      (Shared front → (∀ q t, ']' ∉ q → ¬ other q t) → ¬ Rsync.KeepsOut other c name)) := by
  subst hp
  have hkeeps : ∀ name, Rsync.KeepsOut other c name ↔
      Text.trim raw ≠ [] ∧ Rsync.Names other (Text.trim raw) name :=
    Rsync.keepsOut_pattern_iff hc hfilter hsigned
  have hexcludes : ∀ name, '/' ∉ name → (c.filter.excludes name = true ↔
      Text.trim raw ≠ [] ∧ Excludes (Text.trim raw) name) := by
    intro name hname
    rw [hfilter, excludes_ofPatterns_iff hname]
    simp
  refine ⟨?_, ?_, ?_, ?_⟩
  · intro halike name hname
    have hall := excludes_iff_keepsOut other hc hfilter (by simpa using hsigned)
      (by simpa using halike) hname
    simpa using hall
  · intro hbracket hagreed name hname
    rw [hkeeps, hexcludes name hname, excludes_iff_names_of_agreed other hbracket hagreed hname]
  · intro hbracket hslash hdiffer
    obtain ⟨name, hne, hname, hnot⟩ := exists_differ other hslash hbracket hdiffer
    refine ⟨name, hne, hname, ?_⟩
    have hkept : Text.trim raw ≠ [] := by
      intro hblank
      exact hdiffer (.inl (by rw [hblank]; rfl))
    rw [hkeeps, hexcludes name hname, and_iff_right hkept, and_iff_right hkept]
    exact hnot
  · intro front rest hraw hrest name hname
    have hwild : hasWildcard (Text.trim raw) = true :=
      hasWildcard_eq_true_iff.mpr (.inr (.inr (by simp [hraw])))
    have hrefused : ¬ ∃ g, Spells true (Text.trim raw) g := by
      rintro ⟨g, hg⟩
      exact hrest (mem_of_spells hg (by rw [hraw]; exact List.suffix_append _ _))
    constructor
    · rw [hexcludes name hname, excludes_iff_of_refused hrefused, hraw]
      simp
    · intro hfront hopen
      rw [hkeeps, names_of_wildcard hwild, hraw]
      rintro ⟨-, hfits⟩
      exact not_fits_of_open hopen hfront hrest hfits

end

theorem excludes_keepsOut_iff_log :
    Rsync.KeepsOut (fun _ _ => False) (fullCopy " *.l?g ") "app.log" ∧
    Rsync.KeepsOut (fun _ _ => False) (fullCopy "[!a-c]x") "dx" ∧
    ¬ Rsync.KeepsOut (fun _ _ => False) (fullCopy "weird[") "weird[" := by
  refine ⟨?_, ?_, ?_⟩
  · have htrim : Text.trim " *.l?g ".toList = "*.l?g".toList := by decide
    obtain ⟨-, hagree, -⟩ := excludes_keepsOut_iff (fun _ _ => False) (c := fullCopy " *.l?g ")
      rfl rfl htrim (by decide)
    exact (hagree (by decide) (by decide) "app.log" (by decide)).mp (by decide +kernel)
  · have hclass : Rsync.OpensClass "!a-c]x".toList true "a-c".toList "x".toList :=
      @Rsync.OpensClass.outside '!' 'a' "-c".toList "x".toList (.inl rfl) (by decide) (by decide)
        (by decide)
    have hascending : Ascending "a-c".toList := by
      have hitems : classItems "a-c".toList = [.range 'a' 'c'] := rfl
      intro first last hmem
      rw [hitems, List.mem_singleton] at hmem
      cases hmem
      decide
    have hshared : Shared "[!a-c]x".toList :=
      .oneOf hclass (by decide) hascending (.char rfl .nil)
    have htrim : Text.trim "[!a-c]x".toList = "[!a-c]x".toList := by decide
    obtain ⟨hboth, -⟩ := excludes_keepsOut_iff (fun _ _ => False) (c := fullCopy "[!a-c]x")
      rfl rfl htrim (by decide)
    have hdx := (hboth (.inr (.inr hshared)) "dx" (by decide)).mp (by decide +kernel)
    exact hdx.resolve_left (by decide)
  · have hshared : Shared "weird".toList :=
      shared_of_not_mem (by decide) (by decide) (by decide)
    have htrim : Text.trim "weird[".toList = "weird[".toList := by decide
    obtain ⟨-, -, -, hopen⟩ := excludes_keepsOut_iff (fun _ _ => False) (c := fullCopy "weird[")
      rfl rfl htrim (by decide)
    exact (hopen "weird".toList [] rfl (by decide) "weird[" (by decide)).2 hshared fun _ _ _ h => h

/-- A caret that negates, two stars together, a backslash that escapes, and a class that is spelled
out: in each case one of the two leaves out a name that the other lets through. -/
theorem filter_and_copy_differ :
    ((∀ other, Rsync.KeepsOut other (fullCopy "[^a]") "b") ∧
      (fullCopy "[^a]").filter.excludes "b" = false) ∧
    ((∀ other, Rsync.KeepsOut other (fullCopy "a**b") "axb") ∧
      (fullCopy "a**b").filter.excludes "axb" = false) ∧
    ((∀ other, Rsync.KeepsOut other (fullCopy "\\*") "*") ∧
      (fullCopy "\\*").filter.excludes "*" = false) ∧
    ((∀ other, ¬ Rsync.KeepsOut other (fullCopy "[a]") "[a]") ∧
      (fullCopy "[a]").filter.excludes "[a]" = true) := by
  have hnegated : Rsync.OpensClass "^a]".toList true "a".toList [] :=
    @Rsync.OpensClass.outside '^' 'a' [] [] (.inr rfl) (by decide) (by decide) (by decide)
  have hclass : Rsync.OpensClass "a]".toList false "a".toList [] :=
    @Rsync.OpensClass.within 'a' [] [] (by decide) (by decide) (by decide) (by decide)
  refine ⟨⟨fun other => ?_, by decide +kernel⟩, ⟨fun other => ?_, by decide +kernel⟩,
    ⟨fun other => ?_, by decide +kernel⟩, ⟨fun other => ?_, by decide +kernel⟩⟩
  · have hfits : Rsync.Fits other "[^a]".toList ['b'] :=
      .oneOf hnegated (by simp [Rsync.Member]) .nil
    exact (keepsOut_fullCopy_iff (by decide) rfl (by decide)).mpr hfits
  · have hfits : Rsync.Fits other "a**b".toList "axb".toList :=
      .char rfl (.star ['x'] (.star [] (.char rfl .nil)))
    exact (keepsOut_fullCopy_iff (by decide) rfl (by decide)).mpr hfits
  · have hfits : Rsync.Fits other "\\*".toList ['*'] := .escaped '*' .nil
    exact (keepsOut_fullCopy_iff (by decide) rfl (by decide)).mpr hfits
  · rw [keepsOut_fullCopy_iff (by decide) rfl (by decide)]
    intro hfits
    obtain ⟨c, rest, heq, hc, -⟩ := (Rsync.fits_class_iff hclass).mp hfits
    obtain rfl : '[' = c := (List.cons.inj heq).1
    simp [Rsync.Member] at hc

end TunnelSync.Filter
