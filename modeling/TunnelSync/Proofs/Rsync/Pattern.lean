import TunnelSync.Proofs.Filter.Grammar
import TunnelSync.Proofs.Rsync.Include

/-!
# What exclusions mean to rsync

A pattern without a slash is about one name. Without a wildcard it is the name; else the name has to
fit it character by character, where a backslash takes the meaning from the character behind it and
a class is negated by an exclamation mark or a caret.

* `Member` : the characters of a class
* `OpensClass` : a class, and the pattern behind it
* `Fits` : the names that fit a pattern
* `shortest?` : the shortest of them, if there are no brackets
* `KeepsOut` : the top-level names that a copy leaves out
* `keepsOut_iff` : a copy of the whole tree leaves out what its filter names
* `inForce_args_bang` : a copy with a file named `!` drops its filter

A bracket that opens no class of this kind may match anything.
-/

namespace TunnelSync.Rsync

/-! ### Classes -/

/-- Whether a character is in the class with these members. They are taken from the left, behind a
single member or behind none, and a hyphen between two members makes a range of them. -/
def Member : Option Char → Text → Char → Prop
  | _, [], _ => False
  | some first, '-' :: last :: t, c => (first ≤ c ∧ c ≤ last) ∨ Member none t c
  | _, d :: t, c => d = c ∨ Member (some d) t c

section
variable {c d first last : Char} {t : Text}

theorem member_none_iff : Member none (d :: t) c ↔ d = c ∨ Member (some d) t c := by
  rw [Member]
  simp

theorem member_range_iff : Member (some first) ('-' :: last :: t) c ↔
    (first ≤ c ∧ c ≤ last) ∨ Member none t c := by
  rw [Member]

theorem member_some_iff (ht : ∀ last rest, t ≠ '-' :: last :: rest) :
    Member (some d) t c ↔ Member none t c := by
  cases t with
  | nil => rw [Member, Member]
  | cons e t =>
      rw [member_none_iff, Member]
      rintro first last rest - rfl rfl
      exact ht _ _ rfl

end

/-- Behind an opening bracket there is a class, and then the rest of a pattern. The first member may
be a closing bracket, and no member is escaped or stands for a class by its name. -/
inductive OpensClass : Text → Bool → Text → Text → Prop
  | within {first : Char} {inside behind : Text} (hfirst : first ≠ '!' ∧ first ≠ '^')
      (hinside : ']' ∉ inside) (hescape : '\\' ∉ first :: inside)
      (hnamed : ¬ ['[', ':'] <:+: first :: inside) :
      OpensClass (first :: (inside ++ ']' :: behind)) false (first :: inside) behind
  | outside {sign first : Char} {inside behind : Text} (hsign : sign = '!' ∨ sign = '^')
      (hinside : ']' ∉ inside) (hescape : '\\' ∉ first :: inside)
      (hnamed : ¬ ['[', ':'] <:+: first :: inside) :
      OpensClass (sign :: first :: (inside ++ ']' :: behind)) true (first :: inside) behind

section
variable {q members members' behind behind' inside inside' : Text} {negated negated' : Bool}

theorem eq_of_closing (h : ']' ∉ inside) (h' : ']' ∉ inside')
    (heq : inside ++ ']' :: behind = inside' ++ ']' :: behind') :
    inside = inside' ∧ behind = behind' := by
  have hclosing : Glob.closing? (inside ++ ']' :: behind) = some (inside, behind) :=
    Glob.closing?_eq_some_iff.mpr ⟨h, rfl⟩
  rw [heq, Glob.closing?_eq_some_iff.mpr ⟨h', rfl⟩] at hclosing
  cases hclosing
  exact ⟨rfl, rfl⟩

theorem OpensClass.append (h : OpensClass q negated members behind) (rest : Text) :
    OpensClass (q ++ rest) negated members (behind ++ rest) := by
  cases h with
  | within hfirst hinside hescape hnamed =>
      rw [List.cons_append, List.append_assoc, List.cons_append]
      exact .within hfirst hinside hescape hnamed
  | outside hsign hinside hescape hnamed =>
      rw [List.cons_append, List.cons_append, List.append_assoc, List.cons_append]
      exact .outside hsign hinside hescape hnamed

theorem OpensClass.mem_closing (h : OpensClass q negated members behind) : ']' ∈ q := by
  cases h <;> simp

/-- There is one way to read a class. -/
theorem OpensClass.unique (h : OpensClass q negated members behind)
    (h' : OpensClass q negated' members' behind') :
    negated = negated' ∧ members = members' ∧ behind = behind' := by
  cases h with
  | within hfirst hinside =>
      generalize hq : _ :: (_ ++ _) = q at h'
      cases h' with
      | within _ hinside' =>
          obtain ⟨rfl, heq⟩ := List.cons.inj hq
          obtain ⟨rfl, rfl⟩ := eq_of_closing hinside hinside' heq
          exact ⟨rfl, rfl, rfl⟩
      | outside hsign _ =>
          obtain ⟨rfl, -⟩ := List.cons.inj hq
          exact absurd hsign (not_or.mpr hfirst)
  | outside hsign hinside =>
      generalize hq : _ :: _ :: (_ ++ _) = q at h'
      cases h' with
      | within hfirst _ =>
          obtain ⟨rfl, -⟩ := List.cons.inj hq
          exact absurd hsign (not_or.mpr hfirst)
      | outside _ hinside' =>
          obtain ⟨-, hq⟩ := List.cons.inj hq
          obtain ⟨rfl, heq⟩ := List.cons.inj hq
          obtain ⟨rfl, rfl⟩ := eq_of_closing hinside hinside' heq
          exact ⟨rfl, rfl, rfl⟩

end

/-! ### Names -/

theorem plain_iff {c : Char} : (c == '\\' || isWildcard c) = false ↔
    c ≠ '\\' ∧ c ≠ '*' ∧ c ≠ '?' ∧ c ≠ '[' := by
  simp [isWildcard, and_assoc]

/-- The names that fit a pattern. `other` says what fits behind a bracket that opens no class. -/
inductive Fits (other : Text → Text → Prop) : Text → Text → Prop
  | nil : Fits other [] []
  | escaped (c : Char) {p t : Text} (h : Fits other p t) : Fits other ('\\' :: c :: p) (c :: t)
  | star (s : Text) {p t : Text} (h : Fits other p t) : Fits other ('*' :: p) (s ++ t)
  | question (c : Char) {p t : Text} (h : Fits other p t) : Fits other ('?' :: p) (c :: t)
  | oneOf {c : Char} {q members behind t : Text} {negated : Bool}
      (hq : OpensClass q negated members behind) (hc : Member none members c ↔ negated = false)
      (h : Fits other behind t) : Fits other ('[' :: q) (c :: t)
  | bracket {q t : Text} (hq : ∀ negated members behind, ¬ OpensClass q negated members behind)
      (h : other q t) : Fits other ('[' :: q) t
  | char {c : Char} {p t : Text} (hc : (c == '\\' || isWildcard c) = false) (h : Fits other p t) :
      Fits other (c :: p) (c :: t)

section
variable {other : Text → Text → Prop} {c : Char} {p q t members behind : Text} {negated : Bool}

theorem fits_nil_iff : Fits other [] t ↔ t = [] := by
  constructor
  · intro h
    cases h
    rfl
  · rintro rfl
    exact .nil

theorem fits_escaped_iff :
    Fits other ('\\' :: c :: p) t ↔ ∃ rest, t = c :: rest ∧ Fits other p rest := by
  constructor
  · intro h
    cases h with
    | escaped _ h => exact ⟨_, rfl, h⟩
    | char hc _ => cases hc
  · rintro ⟨rest, rfl, h⟩
    exact .escaped c h

theorem not_fits_backslash : ¬ Fits other ['\\'] t := by
  intro h
  cases h with
  | char hc _ => cases hc

theorem fits_star_iff : Fits other ('*' :: p) t ↔ ∃ s rest, t = s ++ rest ∧ Fits other p rest := by
  constructor
  · intro h
    cases h with
    | star s h => exact ⟨s, _, rfl, h⟩
    | char hc _ => cases hc
  · rintro ⟨s, rest, rfl, h⟩
    exact .star s h

theorem fits_question_iff :
    Fits other ('?' :: p) t ↔ ∃ c rest, t = c :: rest ∧ Fits other p rest := by
  constructor
  · intro h
    cases h with
    | question c h => exact ⟨c, _, rfl, h⟩
    | char hc _ => cases hc
  · rintro ⟨c, rest, rfl, h⟩
    exact .question c h

theorem fits_class_iff (hq : OpensClass q negated members behind) :
    Fits other ('[' :: q) t ↔ ∃ c rest, t = c :: rest ∧
      (Member none members c ↔ negated = false) ∧ Fits other behind rest := by
  constructor
  · intro h
    cases h with
    | oneOf hq' hc h =>
        obtain ⟨rfl, rfl, rfl⟩ := hq.unique hq'
        exact ⟨_, _, rfl, hc, h⟩
    | bracket hnone _ => exact absurd hq (hnone _ _ _)
    | char hc _ => cases hc
  · rintro ⟨c, rest, rfl, hc, h⟩
    exact .oneOf hq hc h

theorem fits_char_iff (hc : (c == '\\' || isWildcard c) = false) :
    Fits other (c :: p) t ↔ ∃ rest, t = c :: rest ∧ Fits other p rest := by
  constructor
  · intro h
    cases h with
    | char _ h => exact ⟨_, rfl, h⟩
    | _ => cases hc
  · rintro ⟨rest, rfl, h⟩
    exact .char hc h

end

/-! ### Patterns without brackets -/

/-- The shortest name that fits a pattern without brackets, if one does. -/
def shortest? : Text → Option Text
  | [] => some []
  | '\\' :: p =>
      match p with
      | [] => none
      | c :: p => (shortest? p).map (c :: ·)
  | '*' :: p => shortest? p
  | '?' :: p => (shortest? p).map ('a' :: ·)
  | c :: p => (shortest? p).map (c :: ·)

section
variable {other : Text → Text → Prop} {p p' s t : Text}

theorem fits_of_shortest? (hbracket : '[' ∉ p) (h : shortest? p = some t) : Fits other p t := by
  fun_induction shortest? p generalizing t with
  | case1 =>
      cases h
      exact .nil
  | case2 => cases h
  | case3 c p ih =>
      obtain ⟨t, ht, rfl⟩ := Option.map_eq_some_iff.mp h
      exact .escaped c (ih (fun hmem => hbracket (.tail _ (.tail _ hmem))) ht)
  | case4 p ih => exact .star [] (ih (List.not_mem_of_not_mem_cons hbracket) h)
  | case5 p ih =>
      obtain ⟨t, ht, rfl⟩ := Option.map_eq_some_iff.mp h
      exact .question 'a' (ih (List.not_mem_of_not_mem_cons hbracket) ht)
  | case6 c p hescape hstar hquestion ih =>
      obtain ⟨t, ht, rfl⟩ := Option.map_eq_some_iff.mp h
      have hc : c ≠ '[' := fun heq => hbracket (by rw [heq]; exact List.mem_cons_self)
      exact .char (plain_iff.mpr ⟨hescape, hstar, hquestion, hc⟩)
        (ih (List.not_mem_of_not_mem_cons hbracket) ht)

/-- Without a shortest name there is none. -/
theorem not_fits_of_shortest? (hbracket : '[' ∉ p) (h : shortest? p = none) :
    ¬ Fits other p t := by
  fun_induction shortest? p generalizing t with
  | case1 => cases h
  | case2 => exact not_fits_backslash
  | case3 c p ih =>
      rw [fits_escaped_iff]
      rintro ⟨rest, -, hrest⟩
      exact ih (fun hmem => hbracket (.tail _ (.tail _ hmem))) (Option.map_eq_none_iff.mp h) hrest
  | case4 p ih =>
      rw [fits_star_iff]
      rintro ⟨_, rest, -, hrest⟩
      exact ih (List.not_mem_of_not_mem_cons hbracket) h hrest
  | case5 p ih =>
      rw [fits_question_iff]
      rintro ⟨_, rest, -, hrest⟩
      exact ih (List.not_mem_of_not_mem_cons hbracket) (Option.map_eq_none_iff.mp h) hrest
  | case6 c p hescape hstar hquestion ih =>
      have hc : c ≠ '[' := fun heq => hbracket (by rw [heq]; exact List.mem_cons_self)
      rw [fits_char_iff (plain_iff.mpr ⟨hescape, hstar, hquestion, hc⟩)]
      rintro ⟨rest, -, hrest⟩
      exact ih (List.not_mem_of_not_mem_cons hbracket) (Option.map_eq_none_iff.mp h) hrest

theorem mem_of_shortest? (h : shortest? p = some t) {c : Char} (hc : c ∈ t) : c = 'a' ∨ c ∈ p := by
  fun_induction shortest? p generalizing t with
  | case1 =>
      cases h
      cases hc
  | case2 => cases h
  | case4 p ih => exact (ih h hc).imp_right (.tail _)
  | case3 d p ih | case5 p ih | case6 d p _ _ _ ih =>
      obtain ⟨t, ht, rfl⟩ := Option.map_eq_some_iff.mp h
      cases hc with
      | head => simp
      | tail _ hc => exact (ih ht hc).imp_right fun hmem => by simp [hmem]

/-- A backslash that escapes is not in the name. -/
theorem count_shortest? (h : shortest? p = some t) :
    t.count '\\' ≤ p.count '\\' ∧ ('\\' ∈ p → t.count '\\' < p.count '\\' ∧ t ≠ []) := by
  fun_induction shortest? p generalizing t with
  | case1 =>
      cases h
      simp
  | case2 => cases h
  | case3 c p ih =>
      obtain ⟨t, ht, rfl⟩ := Option.map_eq_some_iff.mp h
      have hle := (ih ht).1
      rw [List.count_cons, List.count_cons_self, List.count_cons]
      refine ⟨by omega, fun _ => ⟨by omega, by simp⟩⟩
  | case4 p ih => simpa using ih h
  | case5 p ih =>
      obtain ⟨t, ht, rfl⟩ := Option.map_eq_some_iff.mp h
      obtain ⟨hle, hlt⟩ := ih ht
      simpa [hle] using fun hmem => (hlt hmem).1
  | case6 c p hescape hstar hquestion ih =>
      obtain ⟨t, ht, rfl⟩ := Option.map_eq_some_iff.mp h
      obtain ⟨hle, hlt⟩ := ih ht
      rw [List.count_cons_of_ne hescape, List.count_cons_of_ne hescape]
      refine ⟨hle, fun hmem => ⟨(hlt ?_).1, by simp⟩⟩
      exact (List.mem_cons.mp hmem).resolve_left (Ne.symm hescape)

theorem fits_self (hbracket : '[' ∉ p) (hescape : '\\' ∉ p) : Fits other p p := by
  induction p with
  | nil => exact .nil
  | cons c p ih =>
      rw [List.mem_cons, not_or] at hbracket hescape
      have hp := ih hbracket.2 hescape.2
      by_cases hstar : c = '*'
      · rw [hstar]
        exact .star ['*'] hp
      · by_cases hquestion : c = '?'
        · rw [hquestion]
          exact .question '?' hp
        · exact .char (plain_iff.mpr
            ⟨Ne.symm hescape.1, hstar, hquestion, Ne.symm hbracket.1⟩) hp

theorem fits_append (hbracket : '[' ∉ p) (h : Fits other p s) (h' : Fits other p' t) :
    Fits other (p ++ p') (s ++ t) := by
  induction h with
  | nil => exact h'
  | escaped c h ih => exact .escaped c (ih fun hmem => hbracket (.tail _ (.tail _ hmem)))
  | star s h ih =>
      rw [List.append_assoc]
      exact .star s (ih (List.not_mem_of_not_mem_cons hbracket))
  | question c h ih => exact .question c (ih (List.not_mem_of_not_mem_cons hbracket))
  | oneOf | bracket => exact absurd List.mem_cons_self hbracket
  | char hc h ih => exact .char hc (ih (List.not_mem_of_not_mem_cons hbracket))

end

/-! ### The exclusions of a copy -/

/-- A pattern without a slash names these names at the top. -/
def Names (other : Text → Text → Prop) (pattern name : Text) : Prop :=
  if pattern.any isWildcard then Fits other pattern name else name = pattern

/-- The rules that count, once one more is read. -/
def enter (before : List Rule) (r : Rule) : List Rule :=
  match r.reading with
  | .rule r => before ++ [r]
  | .clear => []

/-- The rules that count, once all of these are read. -/
def inForce (rs : List Rule) : List Rule := rs.foldl enter []

/-- Whether a copy leaves out a name at the top: the first rule that names it does not admit it. -/
def KeepsOut (other : Text → Text → Prop) (c : Command) (name : Text) : Prop :=
  ¬ FirstMatch ((inForce (rules c.args)).map fun r => (r.admits, Names other r.pattern name))

section
variable {rs : List Rule}

theorem foldl_enter (h : ∀ r ∈ rs, ¬ IsSigned r.pattern) (before : List Rule) :
    rs.foldl enter before = before ++ rs := by
  induction rs generalizing before with
  | nil => exact (List.append_nil before).symm
  | cons r rs ih =>
      obtain ⟨hr, hrs⟩ := List.forall_mem_cons.mp h
      have henter : enter before r = before ++ [r] := by
        unfold enter
        rw [reading_plain hr]
      rw [List.foldl_cons, henter, ih hrs, List.append_assoc]
      rfl

theorem inForce_eq (h : ∀ r ∈ rs, ¬ IsSigned r.pattern) : inForce rs = rs := foldl_enter h []

theorem inForce_bang {before : List Rule} {r : Rule} (hr : r.pattern = "!".toList)
    (h : ∀ r ∈ rs, ¬ IsSigned r.pattern) : inForce (before ++ r :: rs) = rs := by
  have henter : enter (before.foldl enter []) r = [] := by
    unfold enter
    rw [reading_bang hr]
  unfold inForce
  rw [List.foldl_append, List.foldl_cons, henter, foldl_enter h, List.nil_append]

end

/-- A copy with a file named `!` drops its filter: what counts is the rules of the entries behind the
file, and the last rule. -/
theorem inForce_args_bang {c : Command} {before behind : List Entry}
    (hc : c.selection = .entries (before ++ .file "!" :: behind))
    (hplain : ∀ e ∈ behind, ¬ Signed e) :
    inForce (rules c.args) =
      behind.map (fun e => ⟨true, includePattern e⟩) ++ [⟨false, "*".toList⟩] := by
  have hrules : ∀ r ∈ behind.map (fun e => (⟨true, includePattern e⟩ : Rule)) ++
      [⟨false, "*".toList⟩], ¬ IsSigned r.pattern := by
    intro r hr
    cases List.mem_append.mp hr with
    | inl hr =>
        obtain ⟨e, he, rfl⟩ := List.mem_map.mp hr
        exact fun h => hplain e he (isSigned_includePattern_iff.mp h)
    | inr hr =>
        obtain rfl := List.mem_singleton.mp hr
        decide
  have hargs : rules c.args =
      (c.filter.patterns.map (fun p => ⟨false, p⟩) ++
        before.map (fun e => ⟨true, includePattern e⟩)) ++
      ⟨true, includePattern (.file "!")⟩ ::
        (behind.map (fun e => ⟨true, includePattern e⟩) ++ [⟨false, "*".toList⟩]) := by
    rw [rules_args, hc]
    simp
  rw [hargs]
  exact inForce_bang (includePattern_eq_bang_iff.mpr rfl) hrules

/-- A copy of the whole tree leaves out what one of the patterns of its filter names. -/
theorem keepsOut_iff {other : Text → Text → Prop} {c : Command} (hc : c.selection = .all)
    (hplain : ∀ p ∈ c.filter.patterns, ¬ IsSigned p) (name : Text) :
    KeepsOut other c name ↔ ∃ p ∈ c.filter.patterns, Names other p name := by
  have hrules : inForce (rules c.args) = c.filter.patterns.map fun p => ⟨false, p⟩ := by
    rw [rules_args, hc, List.append_nil]
    refine inForce_eq fun r hr => ?_
    obtain ⟨p, hp, rfl⟩ := List.mem_map.mp hr
    exact hplain p hp
  have hfirst := firstMatch_excludes c.filter.patterns (fun p => Names other p name) []
  rw [List.append_nil] at hfirst
  unfold KeepsOut
  rw [hrules, List.map_map]
  show ¬ FirstMatch (c.filter.patterns.map fun p => (false, Names other p name)) ↔ _
  rw [hfirst]
  simp [FirstMatch]

theorem keepsOut_ofPatterns_iff {other : Text → Text → Prop} {c : Command} {ps : List Text}
    (hc : c.selection = .all) (hfilter : c.filter = .ofPatterns ps)
    (hplain : ∀ raw ∈ ps, ¬ IsSigned (Text.trim raw)) (name : Text) :
    KeepsOut other c name ↔
      ∃ raw ∈ ps, Text.trim raw ≠ [] ∧ Names other (Text.trim raw) name := by
  have hkept : ∀ p ∈ c.filter.patterns, ¬ IsSigned p := by
    intro p hp
    rw [hfilter] at hp
    obtain ⟨raw, hraw, rfl⟩ := List.mem_map.mp (List.mem_filter.mp hp).1
    exact hplain raw hraw
  rw [keepsOut_iff hc hkept, hfilter]
  simp [Filter.ofPatterns, and_assoc]

theorem keepsOut_pattern_iff {other : Text → Text → Prop} {c : Command} {raw : Text}
    (hc : c.selection = .all) (hfilter : c.filter = .ofPatterns [raw])
    (hplain : ¬ IsSigned (Text.trim raw)) (name : Text) :
    KeepsOut other c name ↔ Text.trim raw ≠ [] ∧ Names other (Text.trim raw) name := by
  rw [keepsOut_ofPatterns_iff hc hfilter (by simpa using hplain)]
  simp

end TunnelSync.Rsync
