import TunnelSync.Proofs.Rsync.Partition

/-!
# What the rule of an entry is read as

The text of a rule can begin with a sign and a blank. Then the sign decides whether the rule admits,
whatever option it stands behind, and an exclamation mark alone takes back all rules before it.
Wildcards in the name of an entry are escaped, but nothing keeps these from being read. So the rule
of an entry takes in that entry alone, unless its name begins in this way.

* `Rule.reading` : what a rule is read as
* `IncludesOnly` : the rules that take in one name
* `Signed` : the entries whose rules are read otherwise
* `includesOnly_includePattern_iff` : all other entries have the rule that they need
-/

namespace TunnelSync.Rsync

/-- What a rule is read as. -/
inductive Reading
  /-- A rule about what its pattern matches. -/
  | rule (r : Rule)
  /-- The rules before this one do not count. -/
  | clear
  deriving DecidableEq, Repr

/-- How a rule is read. A sign and a blank in front are no part of the pattern. -/
def Rule.reading (r : Rule) : Reading :=
  match r.pattern with
  | '-' :: ' ' :: rest => .rule ⟨false, rest⟩
  | '+' :: ' ' :: rest => .rule ⟨true, rest⟩
  | ['!'] => .clear
  | _ => .rule r

/-- The rule is read as one that admits, and matches this one of all names at the top. -/
def IncludesOnly (d : Dialect) (root : FileNode) (r : Rule) (name : Bytes) : Prop :=
  ∃ pattern, r.reading = .rule ⟨true, pattern⟩ ∧
    ∀ other, Matches d root pattern [other] ↔ other = name

/-- A pattern begins with a sign and a blank, or is an exclamation mark. -/
def IsSigned (pattern : Text) : Prop :=
  "- ".toList <+: pattern ∨ "+ ".toList <+: pattern ∨ pattern = "!".toList

instance : DecidablePred IsSigned := fun _ => inferInstanceAs (Decidable (_ ∨ _ ∨ _))

/-- An entry has a name that begins with a sign and a blank, or is a file named `!`. -/
def Signed (e : Entry) : Prop :=
  "- ".toList <+: e.name ∨ "+ ".toList <+: e.name ∨ e = .file "!"

instance : DecidablePred Signed := fun _ => inferInstanceAs (Decidable (_ ∨ _ ∨ _))

variable {r : Rule} {e : Entry} {d : Dialect} {root : FileNode} {name rest : Text} {isDir : Bool}

theorem reading_minus (h : r.pattern = '-' :: ' ' :: rest) : r.reading = .rule ⟨false, rest⟩ := by
  unfold Rule.reading
  rw [h]
  rfl

theorem reading_plus (h : r.pattern = '+' :: ' ' :: rest) : r.reading = .rule ⟨true, rest⟩ := by
  unfold Rule.reading
  rw [h]
  rfl

theorem reading_bang (h : r.pattern = "!".toList) : r.reading = .clear := by
  unfold Rule.reading
  rw [h]
  rfl

theorem reading_plain (h : ¬ IsSigned r.pattern) : r.reading = .rule r := by
  unfold IsSigned at h
  rw [not_or, not_or] at h
  obtain ⟨hminus, hplus, hbang⟩ := h
  unfold Rule.reading
  split
  next rest heq => exact absurd ⟨rest, heq.symm⟩ hminus
  next rest heq => exact absurd ⟨rest, heq.symm⟩ hplus
  next heq => exact absurd heq hbang
  next => rfl

/-! ### The start of a pattern -/

theorem includePattern_cons {c : Char} (hc : (c == '\\' || isWildcard c) = false) :
    includePattern ⟨c :: name, isDir⟩ = c :: includePattern ⟨name, isDir⟩ := by
  have hescape : escape (c :: name) = c :: escape name := by
    unfold escape
    rw [List.flatMap_cons, hc]
    rfl
  have hwild : isWildcard c = false := (Bool.or_eq_false_iff.mp hc).2
  unfold includePattern
  cases isDir with
  | true =>
      rw [if_pos rfl, if_pos rfl, hescape]
      rfl
  | false =>
      simp only [Bool.false_eq_true, if_false, List.any_cons, hwild, Bool.false_or, hescape]
      cases name.any isWildcard <;> rfl

/-- Before any other character of a name there is a backslash, or it is one. -/
theorem head?_includePattern {c : Char} (hc : (c == '\\' || isWildcard c) = true) :
    (includePattern ⟨c :: name, isDir⟩).head? = some '\\' := by
  have hescape : escape (c :: name) = '\\' :: c :: escape name := by
    unfold escape
    rw [List.flatMap_cons, if_pos hc]
    rfl
  unfold includePattern
  cases isDir with
  | true =>
      rw [if_pos rfl, hescape]
      rfl
  | false =>
      rw [if_neg (by simp)]
      cases hwild : (c :: name).any isWildcard with
      | true =>
          rw [if_pos rfl, hescape]
          rfl
      | false =>
          rw [List.any_cons, Bool.or_eq_false_iff] at hwild
          rw [hwild.1, Bool.or_false, beq_iff_eq] at hc
          rw [hc, if_neg (by simp)]
          rfl

/-- The pattern of an entry has its first character from the name, apart from a backslash or the
slash of a directory. -/
theorem name_of_includePattern {c : Char} (hc : c ≠ '\\' ∧ c ≠ '/')
    (h : includePattern e = c :: rest) :
    ∃ name, e.name = c :: name ∧ includePattern ⟨name, e.isDir⟩ = rest := by
  obtain ⟨name, isDir⟩ := e
  cases name with
  | nil =>
      cases isDir with
      | true => exact absurd (List.cons.inj h).1.symm hc.2
      | false => cases h
  | cons x name =>
      cases hx : x == '\\' || isWildcard x with
      | true =>
          have hhead : (includePattern ⟨x :: name, isDir⟩).head? = some '\\' :=
            head?_includePattern hx
          rw [h, List.head?_cons, Option.some.injEq] at hhead
          exact absurd hhead hc.1
      | false =>
          rw [includePattern_cons hx] at h
          obtain ⟨rfl, hrest⟩ := List.cons.inj h
          exact ⟨name, rfl, hrest⟩

theorem includePattern_eq_nil_iff : includePattern e = [] ↔ e = .file [] := by
  constructor
  · intro h
    obtain ⟨name, isDir⟩ := e
    cases isDir with
    | true =>
        unfold includePattern at h
        rw [if_pos rfl, List.append_eq_nil_iff] at h
        cases h.2
    | false =>
        cases name with
        | nil => rfl
        | cons c name =>
            cases hc : c == '\\' || isWildcard c with
            | true =>
                have hhead : (includePattern ⟨c :: name, false⟩).head? = some '\\' :=
                  head?_includePattern hc
                rw [h] at hhead
                cases hhead
            | false =>
                rw [includePattern_cons hc] at h
                cases h
  · rintro rfl
    rfl

theorem includePattern_sign {sign : Char} (hsign : sign = '-' ∨ sign = '+') :
    includePattern ⟨sign :: ' ' :: name, isDir⟩ = sign :: ' ' :: includePattern ⟨name, isDir⟩ := by
  have hplain : (sign == '\\' || isWildcard sign) = false := by
    cases hsign with
    | inl h => rw [h]; rfl
    | inr h => rw [h]; rfl
  rw [includePattern_cons hplain, includePattern_cons rfl]

/-- The pattern begins with a sign and a blank only if the name does. -/
theorem sign_prefix_iff {sign : Char} (hsign : sign = '-' ∨ sign = '+') :
    [sign, ' '] <+: includePattern e ↔ [sign, ' '] <+: e.name := by
  have hc : sign ≠ '\\' ∧ sign ≠ '/' := by
    cases hsign with
    | inl h => rw [h]; decide
    | inr h => rw [h]; decide
  constructor
  · rintro ⟨rest, hrest⟩
    obtain ⟨name, hname, hrest⟩ := name_of_includePattern hc hrest.symm
    obtain ⟨name', hblank, -⟩ := name_of_includePattern (by decide) hrest
    rw [hname]
    exact ⟨name', congrArg (sign :: ·) hblank.symm⟩
  · rintro ⟨name, hname⟩
    obtain ⟨_, isDir⟩ := e
    obtain rfl := hname
    exact ⟨_, (includePattern_sign hsign).symm⟩

theorem includePattern_eq_bang_iff : includePattern e = "!".toList ↔ e = .file "!" := by
  constructor
  · intro h
    obtain ⟨name, hname, hrest⟩ := name_of_includePattern (by decide) h
    obtain ⟨rfl, hdir⟩ := Entry.mk.inj (includePattern_eq_nil_iff.mp hrest)
    obtain ⟨_, _⟩ := e
    obtain rfl := hdir
    obtain rfl := hname
    rfl
  · rintro rfl
    rfl

theorem isSigned_includePattern_iff : IsSigned (includePattern e) ↔ Signed e :=
  or_congr (sign_prefix_iff (.inl rfl))
    (or_congr (sign_prefix_iff (.inr rfl)) includePattern_eq_bang_iff)

/-! ### The rule of an entry -/

/-- Of the names at the top, the pattern of an entry matches the one of the entry alone. -/
theorem matches_top_iff (he : '/' ∉ e.name)
    (hdir : e.isDir = true → IsDir root [Text.encode e.name]) (other : Bytes) :
    Matches d root (includePattern e) [other] ↔ other = Text.encode e.name := by
  constructor
  · intro h
    exact (encode_name_of_matches he h).symm
  · rintro rfl
    rw [matches_includePattern_iff he]
    split
    next h => exact ⟨_, List.prefix_rfl, rfl, hdir h⟩
    next => rfl

/-- A signed entry has a rule that keeps out, or that is about another name, or about none. -/
theorem not_includesOnly_of_signed (he : '/' ∉ e.name) (h : Signed e) :
    ¬ IncludesOnly d root ⟨true, includePattern e⟩ (Text.encode e.name) := by
  rintro ⟨pattern, hreading, hmatch⟩
  obtain ⟨name, isDir⟩ := e
  obtain ⟨name, rfl⟩ | ⟨name, rfl⟩ | hbang := h
  · rw [reading_minus (includePattern_sign (.inl rfl))] at hreading
    cases hreading
  · rw [reading_plus (includePattern_sign (.inr rfl))] at hreading
    obtain rfl := (Rule.mk.inj (Reading.rule.inj hreading)).2
    -- what is left of the pattern belongs to the name without the sign
    have hname : '/' ∉ name := fun hmem => he (by simp [hmem])
    have hencode := encode_name_of_matches (e := ⟨name, isDir⟩) hname ((hmatch _).mpr rfl)
    have hlength := congrArg List.length (Text.encode_injective hencode)
    simp only [List.length_append] at hlength
    have hsign : "+ ".toList.length = 2 := rfl
    omega
  · rw [reading_bang (includePattern_eq_bang_iff.mpr hbang)] at hreading
    cases hreading

theorem includesOnly_includePattern_iff (he : '/' ∉ e.name)
    (hdir : e.isDir = true → IsDir root [Text.encode e.name]) :
    IncludesOnly d root ⟨true, includePattern e⟩ (Text.encode e.name) ↔ ¬ Signed e := by
  constructor
  · intro h hsigned
    exact not_includesOnly_of_signed he hsigned h
  · intro h
    have hreading : (⟨true, includePattern e⟩ : Rule).reading = .rule ⟨true, includePattern e⟩ :=
      reading_plain fun hsigned => h (isSigned_includePattern_iff.mp hsigned)
    exact ⟨_, hreading, matches_top_iff he hdir⟩

theorem includeRules_args {c : Command} {es : List Entry} (hc : c.selection = .entries es) :
    (rules c.args).filter (·.admits) = es.map fun e => ⟨true, includePattern e⟩ := by
  have hnone : (c.filter.patterns.map fun p => (⟨false, p⟩ : Rule)).filter (·.admits) = [] := by
    simp
  have hall : (es.map fun e => (⟨true, includePattern e⟩ : Rule)).filter (·.admits) =
      es.map fun e => ⟨true, includePattern e⟩ := by
    rw [List.filter_eq_self]
    simp
  rw [rules_args, hc, List.filter_append, List.filter_append, hnone, hall]
  exact List.append_nil _

/-- **What the entries of a copy are read as.** Each entry has one rule that is to admit it, in the
order of the entries. Whatever wildcards, brackets and backslashes are in its name, and whether it
is a directory or not, rsync takes in the entry by that rule and nothing else at the top, unless the
name begins with a sign and a blank or is the exclamation mark of a file. The rule of such an entry
never does. -/
theorem entries_read_iff {c : Command} {es : List Entry} (hc : c.selection = .entries es) :
    (rules c.args).filter (·.admits) = es.map (fun e => ⟨true, includePattern e⟩) ∧
    ∀ e ∈ es, '/' ∉ e.name → ∀ (d : Dialect) (root : FileNode),
      (e.isDir = true → IsDir root [Text.encode e.name]) →
      (IncludesOnly d root ⟨true, includePattern e⟩ (Text.encode e.name) ↔ ¬ Signed e) := by
  refine ⟨includeRules_args hc, ?_⟩
  intro e _ he d root hdir
  exact includesOnly_includePattern_iff he hdir

/-- A directory with a bracket in its name, and a file with a backslash in its own. -/
def bracketCommand : Command :=
  { options := .none, filter := ⟨["*.log"]⟩, selection := .entries [.dir "[id]", .file "a\\b"],
    localPath := [0x2F], remoteShell := "ssh", destination := "user@host:/" }

/-- The directory of `bracketCommand`. -/
def bracketTree : FileNode := .dir [(Text.encode "[id]", .dir [])]

theorem entries_read_iff_bracket :
    IncludesOnly ⟨fun _ _ => False, fun _ _ => False⟩ bracketTree ⟨true, "\\[id]/***"⟩
      (Text.encode "[id]") ∧
    IncludesOnly ⟨fun _ _ => False, fun _ _ => False⟩ bracketTree ⟨true, "a\\b"⟩
      (Text.encode "a\\b") := by
  obtain ⟨-, hread⟩ := entries_read_iff (c := bracketCommand) rfl
  constructor
  · exact (hread (.dir "[id]") (by simp) (by decide) _ _ fun _ => ⟨[], rfl⟩).mpr (by decide)
  · exact (hread (.file "a\\b") (by simp) (by decide) _ _ fun h => nomatch h).mpr (by decide)

/-- Three files whose names are rules. -/
def signedCommand : Command :=
  { options := .none, filter := ⟨["*.log"]⟩,
    selection := .entries [.file "- notes", .file "+ notes", .file "!"],
    localPath := [0x2F], remoteShell := "ssh", destination := "user@host:/" }

/-- The first rule keeps out a file `notes` and the second takes it in, the third takes back the
rule of the filter, and none is about its own file. -/
theorem entries_misread :
    (rules signedCommand.args).map Rule.reading =
      [.rule ⟨false, "*.log"⟩, .rule ⟨false, "notes"⟩, .rule ⟨true, "notes"⟩, .clear,
        .rule ⟨false, "*"⟩] ∧
    ∀ e ∈ [Entry.file "- notes", .file "+ notes", .file "!"], ∀ (d : Dialect) (root : FileNode),
      ¬ IncludesOnly d root ⟨true, includePattern e⟩ (Text.encode e.name) := by
  constructor
  · rw [rules_args]
    rfl
  · have hslash : ∀ e ∈ [Entry.file "- notes", .file "+ notes", .file "!"], '/' ∉ e.name := by
      decide
    have hsigned : ∀ e ∈ [Entry.file "- notes", .file "+ notes", .file "!"], Signed e := by decide
    intro e he d root
    exact not_includesOnly_of_signed (hslash e he) (hsigned e he)

end TunnelSync.Rsync
