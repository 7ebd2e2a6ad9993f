import Mathlib.Data.List.Forall2
import TunnelSync.Filter.Glob

/-!
# The language of a glob

The matcher works on all end pieces of a name at once, token by token from the last one, where a
reader thinks of the ways to cut the name into what the tokens stand for. Both come to the same.

* `GlobToken.Stands` : the characters that a token stands for
* `Glob.Matches` : the language of a glob
* `Glob.Answers` : a row of answers, one for each end piece of a name
* `Glob.isMatch_iff` : the matcher decides the language
-/

namespace TunnelSync

/-- The characters of a member of a class, in the order of their code points. -/
def ClassItem.Has : ClassItem → Char → Prop
  | .one d, c => d = c
  | .range first last, c => first ≤ c ∧ c ≤ last

/-- The characters that a token stands for, if it stands for one character. -/
def GlobToken.Stands : GlobToken → Char → Prop
  | .literal d, c => d = c
  | .anyChar, c => c ≠ '/'
  | .within items, c => c ≠ '/' ∧ ∃ item ∈ items, item.Has c
  | .outside items, c => c ≠ '/' ∧ ¬ ∃ item ∈ items, item.Has c
  | .anyRow, _ => False
  | .anyPath, _ => False

namespace Glob

/-- The texts that a glob stands for. A row of components is nothing, or what ends with a slash, or
everything that is left. -/
def Matches : Glob → Text → Prop
  | [], t => t = []
  | .anyRow :: g, t => ∃ s rest, t = s ++ rest ∧ '/' ∉ s ∧ Matches g rest
  | .anyPath :: g, t => Matches g t ∨ (∃ s rest, t = s ++ '/' :: rest ∧ Matches g rest) ∨ Matches g []
  | token :: g, t => ∃ c rest, t = c :: rest ∧ token.Stands c ∧ Matches g rest

theorem matches_anyChar_iff {g : Glob} {t : Text} : Matches (.anyChar :: g) t ↔
    ∃ c rest, t = c :: rest ∧ c ≠ '/' ∧ Matches g rest := Iff.rfl

theorem matches_literal_iff {c : Char} {g : Glob} {t : Text} : Matches (.literal c :: g) t ↔
    ∃ rest, t = c :: rest ∧ Matches g rest := by
  simp [Matches, GlobToken.Stands, exists_comm]

theorem matches_within_iff {items : List ClassItem} {g : Glob} {t : Text} :
    Matches (.within items :: g) t ↔
      ∃ c rest, t = c :: rest ∧ (c ≠ '/' ∧ ∃ item ∈ items, item.Has c) ∧ Matches g rest := Iff.rfl

theorem matches_outside_iff {items : List ClassItem} {g : Glob} {t : Text} :
    Matches (.outside items :: g) t ↔
      ∃ c rest, t = c :: rest ∧ (c ≠ '/' ∧ ¬ ∃ item ∈ items, item.Has c) ∧ Matches g rest := Iff.rfl

theorem inClass_iff {items : List ClassItem} {c : Char} :
    inClass items c = true ↔ ∃ item ∈ items, item.Has c := by
  rw [inClass, List.any_eq_true]
  refine exists_congr fun item => and_congr_right fun _ => ?_
  cases item <;> simp [ClassItem.Has]

theorem accepts_iff {token : GlobToken} {c : Char} : accepts token c = true ↔ token.Stands c := by
  cases token <;> simp [accepts, GlobToken.Stands, ← inClass_iff]

/-! ### Rows of answers -/

/-- The row has an answer for each end piece of the name, from the whole name to the empty piece. -/
def Answers (M : Text → Prop) (name : Text) (row : List Bool) : Prop :=
  List.Forall₂ (fun t b => b = true ↔ M t) name.tails row

variable {M : Text → Prop} {c : Char} {name : Text} {rest : List Bool}

theorem answers_nil_iff : Answers M [] rest ↔ ∃ b, rest = [b] ∧ (b = true ↔ M []) := by
  simp [Answers, List.forall₂_cons_left_iff, and_comm]

theorem answers_cons_iff : Answers M (c :: name) rest ↔
    ∃ b behind, rest = b :: behind ∧ (b = true ↔ M (c :: name)) ∧ Answers M name behind := by
  rw [Answers, List.tails, List.forall₂_cons_left_iff]
  constructor
  · rintro ⟨b, behind, hb, hbehind, rfl⟩
    exact ⟨b, behind, rfl, hb, hbehind⟩
  · rintro ⟨b, behind, rfl, hb, hbehind⟩
    exact ⟨b, behind, hb, hbehind, rfl⟩

theorem Answers.headD (h : Answers M name rest) : rest.headD false = true ↔ M name := by
  cases name with
  | nil =>
      obtain ⟨b, rfl, hb⟩ := answers_nil_iff.mp h
      exact hb
  | cons c name =>
      obtain ⟨b, behind, rfl, hb, -⟩ := answers_cons_iff.mp h
      exact hb

theorem answers_endRow (name : Text) : Answers (· = []) name (endRow name) := by
  induction name with
  | nil => exact answers_nil_iff.mpr ⟨true, rfl, by simp⟩
  | cons c name ih => exact answers_cons_iff.mpr ⟨false, _, rfl, by simp, ih⟩

theorem Answers.charRow (h : Answers M name rest) (token : GlobToken) :
    Answers (fun t => ∃ c t', t = c :: t' ∧ token.Stands c ∧ M t') name
      (charRow token name rest) := by
  induction name generalizing rest with
  | nil => exact answers_nil_iff.mpr ⟨false, rfl, by simp⟩
  | cons c name ih =>
      obtain ⟨b, behind, rfl, hb, hbehind⟩ := answers_cons_iff.mp h
      refine answers_cons_iff.mpr ⟨_, _, rfl, ?_, ih hbehind⟩
      rw [Bool.and_eq_true, accepts_iff, List.tail_cons, hbehind.headD]
      simp

theorem Answers.anyRowRow (h : Answers M name rest) :
    Answers (fun t => ∃ s t', t = s ++ t' ∧ '/' ∉ s ∧ M t') name (anyRowRow name rest) := by
  induction name generalizing rest with
  | nil =>
      obtain ⟨b, rfl, hb⟩ := answers_nil_iff.mp h
      exact answers_nil_iff.mpr ⟨b, rfl, by simp [hb]⟩
  | cons c name ih =>
      obtain ⟨b, behind, rfl, hb, hbehind⟩ := answers_cons_iff.mp h
      refine answers_cons_iff.mpr ⟨_, _, rfl, ?_, ih hbehind⟩
      rw [List.headD_cons, List.tail_cons, Bool.or_eq_true, Bool.and_eq_true, bne_iff_ne, hb,
        (ih hbehind).headD]
      constructor
      · rintro (hall | ⟨hc, s, t', rfl, hs, ht'⟩)
        · exact ⟨[], _, rfl, List.not_mem_nil, hall⟩
        · exact ⟨c :: s, t', rfl, by simp [hs, Ne.symm hc], ht'⟩
      · rintro ⟨s, t', heq, hs, ht'⟩
        cases s with
        | nil => exact .inl (heq ▸ ht')
        | cons d s =>
            obtain ⟨rfl, rfl⟩ := List.cons.inj heq
            simp only [List.mem_cons, not_or] at hs
            exact .inr ⟨Ne.symm hs.1, s, t', rfl, hs.2, ht'⟩

theorem Answers.behindSlash (h : Answers M name rest) :
    behindSlash name rest = true ↔ (∃ s t', name = s ++ '/' :: t' ∧ M t') ∨ M [] := by
  induction name generalizing rest with
  | nil =>
      rw [Glob.behindSlash, h.headD]
      simp
  | cons c name ih =>
      obtain ⟨b, behind, rfl, hb, hbehind⟩ := answers_cons_iff.mp h
      rw [Glob.behindSlash, List.tail_cons, Bool.or_eq_true, Bool.and_eq_true, beq_iff_eq,
        hbehind.headD, ih hbehind, ← or_assoc]
      refine or_congr_left ⟨?_, ?_⟩
      · rintro (⟨rfl, hname⟩ | ⟨s, t', rfl, ht'⟩)
        · exact ⟨[], name, rfl, hname⟩
        · exact ⟨c :: s, t', rfl, ht'⟩
      · rintro ⟨s, t', heq, ht'⟩
        cases s with
        | nil =>
            obtain ⟨rfl, rfl⟩ := List.cons.inj heq
            exact .inl ⟨rfl, ht'⟩
        | cons d s => exact .inr ⟨s, t', (List.cons.inj heq).2, ht'⟩

theorem Answers.anyPathRow (h : Answers M name rest) :
    Answers (fun t => M t ∨ (∃ s t', t = s ++ '/' :: t' ∧ M t') ∨ M []) name
      (anyPathRow name rest) := by
  induction name generalizing rest with
  | nil =>
      obtain ⟨b, rfl, hb⟩ := answers_nil_iff.mp h
      exact answers_nil_iff.mpr ⟨b, rfl, by simp [hb]⟩
  | cons c name ih =>
      obtain ⟨b, behind, rfl, hb, hbehind⟩ := answers_cons_iff.mp h
      refine answers_cons_iff.mpr ⟨_, _, rfl, ?_, ih hbehind⟩
      rw [Bool.or_eq_true, h.behindSlash, List.headD_cons, hb]

/-! ### The matcher -/

theorem answers_foldr (g : Glob) (name : Text) :
    Answers (Matches g) name (g.foldr (fun token rest => row token name rest) (endRow name)) := by
  induction g with
  | nil => exact answers_endRow name
  | cons token g ih =>
      rw [List.foldr_cons]
      cases token with
      | anyRow => exact ih.anyRowRow
      | anyPath => exact ih.anyPathRow
      | literal d => exact ih.charRow _
      | anyChar => exact ih.charRow _
      | within items => exact ih.charRow _
      | outside items => exact ih.charRow _

/-- The matcher decides the language of a glob. -/
theorem isMatch_iff {g : Glob} : g.isMatch name = true ↔ g.Matches name :=
  (answers_foldr g name).headD

end Glob

end TunnelSync
