import TunnelSync.Proofs.Filter.Match
import TunnelSync.Proofs.Text.Cut

/-!
# The grammar of globs

A pattern is read token by token, and a row of components directly behind another may be left out.
So what is read is not always the glob that the pattern spells, but it has the same language.

* `Spells` : the patterns of the grammar, and the glob of each
* `exists_readFrom` : every pattern of the grammar is read
* `exists_spells` : nothing else is read
* `parse?_any_iff` : the names that a pattern matches
* `mem_of_spells`, `exists_spells_iff` : the patterns that the grammar refuses
-/

namespace TunnelSync.Glob

/-- What spells the members of a class. A hyphen between two characters makes a range, as far to the
left as there is one. -/
inductive SpellsClass : Text → List ClassItem → Prop
  | nil : SpellsClass [] []
  | range {first last t items} (h : SpellsClass t items) :
      SpellsClass (first :: '-' :: last :: t) (.range first last :: items)
  | one {c t items} (ht : ∀ last rest, t ≠ '-' :: last :: rest) (h : SpellsClass t items) :
      SpellsClass (c :: t) (.one c :: items)

/-- What spells a glob. `b` says whether a path component begins here. The first member of a class
may be a closing bracket. -/
inductive Spells : Bool → Text → Glob → Prop
  | nil {b} : Spells b [] []
  | anyChar {b p g} (h : Spells false p g) : Spells b ('?' :: p) (.anyChar :: g)
  | anyRow {b p g} (hp : p.head? ≠ some '*') (h : Spells false p g) :
      Spells b ('*' :: p) (.anyRow :: g)
  | anyPath {p g} (h : Spells true p g) : Spells true ('*' :: '*' :: '/' :: p) (.anyPath :: g)
  | anyPathEnd : Spells true ['*', '*'] [.anyPath]
  | within {b first inside items p g} (hfirst : first ≠ '!') (hinside : ']' ∉ inside)
      (hitems : SpellsClass (first :: inside) items) (h : Spells false p g) :
      Spells b ('[' :: first :: (inside ++ ']' :: p)) (.within items :: g)
  | outside {b first inside items p g} (hinside : ']' ∉ inside)
      (hitems : SpellsClass (first :: inside) items) (h : Spells false p g) :
      Spells b ('[' :: '!' :: first :: (inside ++ ']' :: p)) (.outside items :: g)
  | literal {b c p g} (hc : c ≠ '*' ∧ c ≠ '?' ∧ c ≠ '[') (h : Spells (c == '/') p g) :
      Spells b (c :: p) (.literal c :: g)

/-! ### Classes -/

variable {t inside behind p : Text} {b : Bool} {g : Glob} {token : GlobToken}

theorem spellsClass_iff {items : List ClassItem} : SpellsClass t items ↔ items = classItems t := by
  constructor
  · intro h
    induction h with
    | nil => rfl
    | range h ih => rw [classItems, ih]
    | one ht h ih =>
        rw [classItems, ih]
        exact ht
  · rintro rfl
    fun_induction classItems t with
    | case1 first last t ih => exact .range ih
    | case2 c t hne ih => exact .one hne ih
    | case3 => exact .nil

theorem closing?_eq_some_iff :
    closing? t = some (inside, behind) ↔ ']' ∉ inside ∧ t = inside ++ ']' :: behind := by
  induction t generalizing inside with
  | nil => simp [closing?]
  | cons c t ih =>
      by_cases hc : c = ']'
      · subst hc
        cases inside with
        | nil => simp [closing?]
        | cons d inside => simp +contextual [closing?, eq_comm]
      · cases inside with
        | nil => simp [closing?, hc]
        | cons d inside =>
            simp only [closing?, Option.map_eq_some_iff, Prod.exists, Prod.mk.injEq, List.cons.injEq]
            constructor
            · rintro ⟨_, _, h, ⟨rfl, rfl⟩, rfl⟩
              obtain ⟨hinside, rfl⟩ := ih.mp h
              exact ⟨by simp [hinside, Ne.symm hc], rfl⟩
            · rintro ⟨hinside, heq⟩
              obtain ⟨rfl, rfl⟩ := List.cons.inj heq
              exact ⟨inside, behind, ih.mpr ⟨fun h => hinside (.tail _ h), rfl⟩, ⟨rfl, rfl⟩, rfl⟩

/-- A class is everything up to its closing bracket, which is not the first character. -/
theorem readClass?_eq_some_iff : readClass? t = some (token, behind) ↔
    ∃ first inside, ']' ∉ inside ∧
      (first ≠ '!' ∧ t = first :: (inside ++ ']' :: behind) ∧
          token = .within (classItems (first :: inside)) ∨
        t = '!' :: first :: (inside ++ ']' :: behind) ∧
          token = .outside (classItems (first :: inside))) := by
  unfold readClass?
  split
  next c rest =>
    simp only [Option.map_eq_some_iff, Prod.exists, Prod.mk.injEq, closing?_eq_some_iff]
    constructor
    · rintro ⟨inside, _, ⟨hinside, rfl⟩, rfl, rfl⟩
      exact ⟨c, inside, hinside, .inr ⟨rfl, rfl⟩⟩
    · rintro ⟨first, inside, hinside, ⟨hfirst, heq, -⟩ | ⟨heq, rfl⟩⟩
      · exact absurd (List.cons.inj heq).1.symm hfirst
      · cases heq
        exact ⟨inside, behind, ⟨hinside, rfl⟩, rfl, rfl⟩
  next => simp
  next c rest hcons hnil =>
    have hfirst : c ≠ '!' := by
      intro hc
      cases rest with
      | nil => exact hnil hc rfl
      | cons d rest => exact hcons d rest hc rfl
    simp only [Option.map_eq_some_iff, Prod.exists, Prod.mk.injEq, closing?_eq_some_iff]
    constructor
    · rintro ⟨inside, _, ⟨hinside, rfl⟩, rfl, rfl⟩
      exact ⟨c, inside, hinside, .inl ⟨hfirst, rfl, rfl⟩⟩
    · rintro ⟨first, inside, hinside, ⟨-, heq, rfl⟩ | ⟨heq, -⟩⟩
      · cases heq
        exact ⟨inside, behind, ⟨hinside, rfl⟩, rfl, rfl⟩
      · exact absurd (List.cons.inj heq).1 hfirst
  next => simp

/-! ### Globs with the same language -/

theorem matches_append_congr {g g' : Glob} (h : ∀ t, Matches g t ↔ Matches g' t) (before : Glob)
    (t : Text) : Matches (before ++ g) t ↔ Matches (before ++ g') t := by
  induction before generalizing t with
  | nil => exact h t
  | cons token before ih => cases token <;> simp [Matches, ih]

theorem matches_anyPath_anyPath :
    Matches (.anyPath :: .anyPath :: g) t ↔ Matches (.anyPath :: g) t := by
  constructor
  · rintro (h | ⟨s, rest, rfl, h | ⟨s', rest', rfl, h⟩ | h⟩ | h | ⟨s, rest, heq, h⟩ | h)
    · exact h
    · exact .inr (.inl ⟨s, rest, rfl, h⟩)
    · exact .inr (.inl ⟨s ++ '/' :: s', rest', by simp, h⟩)
    · exact .inr (.inr h)
    · exact .inr (.inr h)
    · simp at heq
    · exact .inr (.inr h)
  · exact .inl

theorem matches_addAnyPath (before g : Glob) (t : Text) :
    Matches ((addAnyPath before).reverse ++ g) t ↔ Matches (before.reverse ++ .anyPath :: g) t := by
  unfold addAnyPath
  split
  next token before =>
    simp only [List.reverse_cons, List.append_assoc, List.cons_append, List.nil_append]
    exact matches_append_congr (fun t => matches_append_congr
      (fun t => matches_anyPath_anyPath.symm) [token] t) before.reverse t
  next => simp

/-! ### Reading -/

theorem readFrom_class (h : readClass? t = some (token, behind)) (before : Glob) (b : Bool) :
    readFrom before b ('[' :: t) = readFrom (token :: before) false behind := by
  rw [readFrom]
  split
  next heq =>
    obtain ⟨rfl, rfl⟩ := Prod.mk.inj (Option.some.inj (heq.symm.trans h))
    rfl
  next heq => cases heq.symm.trans h

/-- What spells a glob is read behind any tokens. The tokens may be fewer. -/
theorem exists_readFrom (h : Spells b p g) (before : Glob) :
    ∃ r, readFrom before b p = some r ∧ ∀ t, Matches r t ↔ Matches (before.reverse ++ g) t := by
  induction h generalizing before with
  | nil => exact ⟨_, by rw [readFrom], by simp⟩
  | anyChar h ih =>
      rw [readFrom]
      obtain ⟨r, hread, hmatch⟩ := ih (.anyChar :: before)
      exact ⟨r, hread, by simpa using hmatch⟩
  | @anyRow b p g hp h ih =>
      obtain ⟨r, hread, hmatch⟩ := ih (.anyRow :: before)
      have hstar : ∀ rest, p ≠ '*' :: rest := fun rest heq => hp (by rw [heq]; rfl)
      refine ⟨r, ?_, by simpa using hmatch⟩
      rw [readFrom, hread]
      all_goals simp [hstar]
  | anyPath h ih =>
      rw [readFrom, if_pos rfl]
      obtain ⟨r, hread, hmatch⟩ := ih (addAnyPath before)
      exact ⟨r, hread, fun t => (hmatch t).trans (matches_addAnyPath before _ t)⟩
  | anyPathEnd =>
      rw [readFrom, if_pos rfl]
      exact ⟨_, rfl, fun t => by simpa using matches_addAnyPath before [] t⟩
  | within hfirst hinside hitems h ih =>
      obtain rfl := spellsClass_iff.mp hitems
      rw [readFrom_class (readClass?_eq_some_iff.mpr
        ⟨_, _, hinside, .inl ⟨hfirst, rfl, rfl⟩⟩)]
      obtain ⟨r, hread, hmatch⟩ := ih (_ :: before)
      exact ⟨r, hread, by simpa using hmatch⟩
  | outside hinside hitems h ih =>
      obtain rfl := spellsClass_iff.mp hitems
      rw [readFrom_class (readClass?_eq_some_iff.mpr ⟨_, _, hinside, .inr ⟨rfl, rfl⟩⟩)]
      obtain ⟨r, hread, hmatch⟩ := ih (_ :: before)
      exact ⟨r, hread, by simpa using hmatch⟩
  | literal hc h ih =>
      obtain ⟨r, hread, hmatch⟩ := ih (_ :: before)
      refine ⟨r, ?_, by simpa using hmatch⟩
      rw [readFrom, hread]
      all_goals simp [hc]

/-- What is read spells a glob. -/
theorem exists_spells {before r : Glob} (h : readFrom before b p = some r) :
    ∃ g, Spells b p g := by
  fun_induction readFrom before b p with
  | case1 => exact ⟨[], .nil⟩
  | case2 | case4 | case6 | case7 | case11 => cases h
  | case3 before rest ih =>
      obtain ⟨g, hg⟩ := ih h
      exact ⟨_, .anyPath hg⟩
  | case5 => exact ⟨_, .anyPathEnd⟩
  | case8 before b rest _ _ _ hstar ih =>
      obtain ⟨g, hg⟩ := ih h
      refine ⟨_, .anyRow (fun hhead => ?_) hg⟩
      obtain ⟨p, hp⟩ := List.head?_eq_some_iff.mp hhead
      exact hstar p hp
  | case9 before b rest ih =>
      obtain ⟨g, hg⟩ := ih h
      exact ⟨_, .anyChar hg⟩
  | case10 before b rest token behind hclass ih =>
      obtain ⟨g, hg⟩ := ih h
      obtain ⟨first, inside, hinside, ⟨hfirst, rfl, -⟩ | ⟨rfl, -⟩⟩ :=
        readClass?_eq_some_iff.mp hclass
      · exact ⟨_, .within hfirst hinside (spellsClass_iff.mpr rfl) hg⟩
      · exact ⟨_, .outside hinside (spellsClass_iff.mpr rfl) hg⟩
  | case12 before b c rest _ _ _ _ hstar hquestion hbracket ih =>
      obtain ⟨g, hg⟩ := ih h
      exact ⟨_, .literal ⟨hstar, hquestion, hbracket⟩ hg⟩

/-- The language of a pattern that is read. -/
theorem parse?_any_iff {name : Text} :
    ((parse? p).any (·.isMatch name)) = true ↔ ∃ g, Spells true p g ∧ Matches g name := by
  constructor
  · intro h
    cases hread : parse? p with
    | none => simp [hread] at h
    | some r =>
        rw [hread, Option.any_some] at h
        obtain ⟨g, hg⟩ := exists_spells hread
        obtain ⟨r', hread', hsame⟩ := exists_readFrom hg []
        obtain rfl := Option.some.inj (hread'.symm.trans hread)
        exact ⟨g, hg, (hsame name).mp (isMatch_iff.mp h)⟩
  · rintro ⟨g, hg, hmatch⟩
    obtain ⟨r, hread, hsame⟩ := exists_readFrom hg []
    have hany : r.isMatch name = true := isMatch_iff.mpr ((hsame name).mpr hmatch)
    rw [parse?, hread, Option.any_some, hany]

/-! ### What is refused -/

theorem mem_or_suffix (inside : Text) {rest : Text} (h : '[' :: rest <:+ inside ++ ']' :: p) :
    ']' ∈ rest ∨ '[' :: rest <:+ p := by
  induction inside with
  | nil =>
      rcases List.suffix_cons_iff.mp h with heq | h
      · cases heq
      · exact .inr h
  | cons c inside ih =>
      rcases List.suffix_cons_iff.mp h with heq | h
      · obtain ⟨-, rfl⟩ := List.cons.inj heq
        exact .inl (by simp)
      · exact ih h

/-- Every opening bracket has a closing one behind it. -/
theorem mem_of_spells (h : Spells b p g) {rest : Text} (hp : '[' :: rest <:+ p) : ']' ∈ rest := by
  induction h with
  | nil => simp at hp
  | anyChar h ih | anyRow _ h ih | anyPath h ih =>
      exact ih (by simpa [List.suffix_cons_iff] using hp)
  | anyPathEnd => simp [List.suffix_cons_iff] at hp
  | @within _ first inside _ _ _ _ _ _ h ih =>
      exact (mem_or_suffix ('[' :: first :: inside) hp).elim id ih
  | @outside _ first inside _ _ _ _ _ h ih =>
      exact (mem_or_suffix ('[' :: '!' :: first :: inside) hp).elim id ih
  | literal hc h ih => exact ih (by simpa [List.suffix_cons_iff, Ne.symm hc.2.2] using hp)

/-- Two stars together are a whole piece wherever they stand. The first piece is not whole unless
`b` holds. -/
def AreComponents (b : Bool) : List Text → Prop
  | [] => True
  | piece :: pieces =>
      (b = true ∧ piece = ['*', '*'] ∨ ¬ ['*', '*'] <:+: piece) ∧ AreComponents true pieces

theorem areComponents_true_iff {pieces : List Text} : AreComponents true pieces ↔
    ∀ piece ∈ pieces, piece = ['*', '*'] ∨ ¬ ['*', '*'] <:+: piece := by
  induction pieces with
  | nil => simp [AreComponents]
  | cons piece pieces ih => simp [AreComponents, ih]

theorem stars_infix_cons_iff {c : Char} {t : Text} :
    ['*', '*'] <:+: c :: t ↔ (c = '*' ∧ t.head? = some '*') ∨ ['*', '*'] <:+: t := by
  rw [List.infix_cons_iff, List.cons_prefix_cons]
  refine or_congr_left (and_congr eq_comm ?_)
  cases t <;> simp [List.cons_prefix_cons, eq_comm]

theorem exists_spells_stars_iff : (∃ g, Spells b ('*' :: '*' :: p) g) ↔
    b = true ∧ (p = [] ∨ ∃ q, p = '/' :: q ∧ ∃ g, Spells true q g) := by
  constructor
  · rintro ⟨g, h⟩
    cases h with
    | anyRow hp _ => exact absurd rfl hp
    | anyPath h => exact ⟨rfl, .inr ⟨_, rfl, _, h⟩⟩
    | anyPathEnd => exact ⟨rfl, .inl rfl⟩
    | literal hc _ => exact absurd rfl hc.1
  · rintro ⟨rfl, rfl | ⟨q, rfl, g, h⟩⟩
    · exact ⟨_, .anyPathEnd⟩
    · exact ⟨_, .anyPath h⟩

theorem exists_spells_cons_iff {c : Char} (hc : c ≠ '[') (hstars : c = '*' → p.head? ≠ some '*') :
    (∃ g, Spells b (c :: p) g) ↔ ∃ g, Spells (c == '/') p g := by
  constructor
  · rintro ⟨g, h⟩
    cases h with
    | anyChar h => exact ⟨_, h⟩
    | anyRow hp h => exact ⟨_, h⟩
    | anyPath h => exact absurd rfl (hstars rfl)
    | anyPathEnd => exact absurd rfl (hstars rfl)
    | within | outside => exact absurd rfl hc
    | literal _ h => exact ⟨_, h⟩
  · rintro ⟨g, h⟩
    by_cases hstar : c = '*'
    · subst hstar
      exact ⟨_, .anyRow (hstars rfl) h⟩
    by_cases hquestion : c = '?'
    · subst hquestion
      exact ⟨_, .anyChar h⟩
    exact ⟨_, .literal ⟨hstar, hquestion, hc⟩ h⟩

theorem areComponents_stars_iff : AreComponents b (Text.fields '/' ('*' :: '*' :: p)) ↔
    b = true ∧ (p = [] ∨ ∃ q, p = '/' :: q ∧ AreComponents true (Text.fields '/' q)) := by
  have hfront (t : Text) : ['*', '*'] <:+: '*' :: '*' :: t :=
    stars_infix_cons_iff.mpr (.inl ⟨rfl, rfl⟩)
  obtain ⟨f, fs, hf, hcons⟩ := Text.exists_fields_cons (show '*' ≠ '/' by decide) p
  obtain ⟨_, _, hf', hcons'⟩ := Text.exists_fields_cons (show '*' ≠ '/' by decide) ('*' :: p)
  cases hcons.symm.trans hf'
  rw [hcons', AreComponents]
  cases p with
  | nil =>
      cases hf
      simp [AreComponents]
  | cons d p =>
      by_cases hd : d = '/'
      · subst hd
        cases (Text.fields_cons_self _ _).symm.trans hf
        simp
      · obtain ⟨_, _, -, hcons⟩ := Text.exists_fields_cons hd p
        cases hcons.symm.trans hf
        simp [hfront, hd]

theorem areComponents_cons_iff {c : Char} (hstars : c = '*' → p.head? ≠ some '*') :
    AreComponents b (Text.fields '/' (c :: p)) ↔ AreComponents (c == '/') (Text.fields '/' p) := by
  by_cases hslash : c = '/'
  · rw [hslash, Text.fields_cons_self, AreComponents]
    simp
  · obtain ⟨f, fs, hf, hcons⟩ := Text.exists_fields_cons hslash p
    have hhead : ¬ (c = '*' ∧ f.head? = some '*') := fun h =>
      hstars h.1 ((Text.head?_of_fields hf (by decide)).mp h.2)
    have hne : c :: f ≠ ['*', '*'] := by
      rintro heq
      obtain ⟨rfl, rfl⟩ := List.cons.inj heq
      exact hhead ⟨rfl, rfl⟩
    rw [hcons, hf, AreComponents, AreComponents, stars_infix_cons_iff]
    simp [hhead, hne, hslash]

/-- Without brackets a pattern is accepted if two stars together are a path component wherever they
stand. -/
theorem exists_spells_iff (h : '[' ∉ p) (b : Bool) :
    (∃ g, Spells b p g) ↔ AreComponents b (Text.fields '/' p) := by
  induction hn : p.length using Nat.strongRecOn generalizing p b with
  | _ n ih =>
    cases p with
    | nil => simpa [Text.fields, AreComponents] using ⟨_, Spells.nil⟩
    | cons c p =>
        simp only [List.mem_cons, not_or] at h
        by_cases hstars : c = '*' ∧ p.head? = some '*'
        · obtain ⟨rfl, hp⟩ := hstars
          obtain ⟨q, rfl⟩ := List.head?_eq_some_iff.mp hp
          rw [exists_spells_stars_iff, areComponents_stars_iff]
          refine and_congr_right fun _ => or_congr_right (exists_congr fun r => and_congr_right ?_)
          rintro rfl
          exact ih r.length (by simp [← hn]; omega) (fun hr => h.2 (by simp [hr])) true rfl
        · have hstars' : c = '*' → p.head? ≠ some '*' := fun hc hp => hstars ⟨hc, hp⟩
          rw [exists_spells_cons_iff (Ne.symm h.1) hstars', areComponents_cons_iff hstars']
          exact ih p.length (by simp [← hn]) h.2 _ rfl

end TunnelSync.Glob
