import TunnelSync.Os.Tree
import TunnelSync.Rsync.Args
import TunnelSync.Text.Utf8

/-!
# How rsync reads the rules of a copy

rsync applies its rules in the order of the arguments. The first rule that matches a path decides
whether the path is admitted, and a path is sent if it is admitted with all directories above it.

* `rules` : the rules in an argument vector
* `Wild` : what a pattern with a wildcard says of one name
* `Matches` : what a pattern says of a path
* `Sends` : the paths that a copy sends

`Dialect` holds what is not relied on: it may be anything.
-/

namespace TunnelSync.Rsync

/-- A rule of a copy. -/
structure Rule where
  admits : Bool
  pattern : Text
  deriving DecidableEq, Repr

/-- The rules in an argument vector, in order. What follows `-e` is no rule. -/
def rules : List Text → List Rule
  | option :: value :: rest =>
      if option = "--exclude".toList then ⟨false, value⟩ :: rules rest
      else if option = "--include".toList then ⟨true, value⟩ :: rules rest
      else if option = "-e".toList then rules rest
      else rules (value :: rest)
  | _ => []

/-- What a bracket in a pattern matches together with the rest of the pattern, and what a pattern
with slashes matches unless it stands for a directory and everything in it. -/
structure Dialect where
  bracket : Text → Bytes → Prop
  slashed : Text → Location → Prop

/-- What a pattern with a wildcard says of one name. -/
inductive Wild (bracket : Text → Bytes → Prop) : Text → Bytes → Prop
  | nil : Wild bracket [] []
  | escaped (c : Char) {p : Text} {t : Bytes} (h : Wild bracket p t) :
      Wild bracket ('\\' :: c :: p) (Text.encode [c] ++ t)
  | star (s : Bytes) {p : Text} {t : Bytes} (h : Wild bracket p t) :
      Wild bracket ('*' :: p) (s ++ t)
  | question (b : UInt8) {p : Text} {t : Bytes} (h : Wild bracket p t) :
      Wild bracket ('?' :: p) (b :: t)
  | bracket {p : Text} {t : Bytes} (h : bracket p t) : Wild bracket ('[' :: p) t
  | char (c : Char) {p : Text} {t : Bytes} (hc : (c == '\\' || isWildcard c) = false)
      (h : Wild bracket p t) : Wild bracket (c :: p) (Text.encode [c] ++ t)

/-- There is a directory at the path. -/
def IsDir (root : FileNode) (p : Location) : Prop := ∃ entries, root.at? p = some (.dir entries)

/-- What stands before `/***` at the end of a pattern, if it is about one name. -/
def folder? (pattern : Text) : Option Text :=
  let name := pattern.take (pattern.length - 4)
  if name ++ "/***" = pattern ∧ '/' ∉ name then some name else none

/-- What a pattern says of a path. Without a wildcard it is the last name of the path. -/
def Matches (d : Dialect) (root : FileNode) (pattern : Text) (p : Location) : Prop :=
  if pattern.any isWildcard then
    match folder? pattern with
    | some folder =>
        ∃ q name, q <+: p ∧ q.getLast? = some name ∧ Wild d.bracket folder name ∧ IsDir root q
    | none =>
        if '/' ∈ pattern then d.slashed pattern p
        else ∃ name, p.getLast? = some name ∧ Wild d.bracket pattern name
  else p.getLast? = some (Text.encode pattern)

/-- What the first match decides, over verdicts and whether their rules match. Without a match a
path is admitted. -/
def FirstMatch : List (Bool × Prop) → Prop
  | [] => True
  | (admits, isMatch) :: rest => isMatch ∧ admits = true ∨ ¬ isMatch ∧ FirstMatch rest

/-- Whether the rules admit a path. What the first `n` of them match is up to `own`. -/
def Admitted (d : Dialect) (root : FileNode) (own : Text → Location → Prop) (n : Nat)
    (rs : List Rule) (p : Location) : Prop :=
  FirstMatch ((rs.take n).map (fun r => (r.admits, own r.pattern p))
    ++ (rs.drop n).map fun r => (r.admits, Matches d root r.pattern p))

/-- Whether a copy sends a path. What the rules of its filter match is up to `own`. -/
def Sends (d : Dialect) (root : FileNode) (own : Text → Location → Prop) (c : Command)
    (p : Location) : Prop :=
  ∀ q, q ≠ [] → q <+: p → Admitted d root own c.filter.patterns.length (rules c.args) q

/-! ### The rules of a copy -/

theorem rules_exclude (value : Text) (rest : List Text) :
    rules ("--exclude".toList :: value :: rest) = ⟨false, value⟩ :: rules rest := by simp [rules]

theorem rules_include (value : Text) (rest : List Text) :
    rules ("--include".toList :: value :: rest) = ⟨true, value⟩ :: rules rest := by simp [rules]

theorem rules_flatMap {α : Type} {option : Text} {admits : Bool}
    (h : ∀ value rest, rules (option :: value :: rest) = ⟨admits, value⟩ :: rules rest)
    (f : α → Text) (as : List α) (rest : List Text) :
    rules (as.flatMap (fun a => [option, f a]) ++ rest) =
      as.map (fun a => ⟨admits, f a⟩) ++ rules rest := by
  induction as with
  | nil => rfl
  | cons a as ih =>
      show rules (option :: f a :: (as.flatMap (fun a => [option, f a]) ++ rest)) = _
      rw [h, ih]
      rfl

theorem rules_operands (localPath : Bytes) (destination : Text) :
    rules [sourceArg localPath, destination] = [] := by
  have hlast : (sourceArg localPath).getLast? = some '/' := by simp [sourceArg]
  have hne : ∀ option : Text, option.getLast? ≠ some '/' → sourceArg localPath ≠ option := by
    intro option hoption h
    rw [h] at hlast
    exact hoption hlast
  unfold rules
  rw [if_neg (hne _ (by decide)), if_neg (hne _ (by decide)), if_neg (hne _ (by decide))]
  rfl

/-- The rules of a copy are those of its filter and those of its selection. -/
theorem rules_args (c : Command) :
    rules c.args =
      c.filter.patterns.map (fun p => ⟨false, p⟩) ++
        match c.selection with
        | .all => []
        | .entries es => es.map (fun e => ⟨true, includePattern e⟩) ++ [⟨false, "*".toList⟩] := by
  have hstart : rules c.args =
      rules (Command.excludeRules c.filter ++
        (Command.selectionRules c.selection ++ [sourceArg c.localPath, c.destination])) := by
    unfold Command.args Command.switches
    cases c.options.delete <;> cases c.options.dryRun <;> cases c.options.verbose <;>
      simp [rules]
  rw [hstart, Command.excludeRules, rules_flatMap rules_exclude]
  congr 1
  cases c.selection with
  | all => exact rules_operands _ _
  | entries es =>
      rw [Command.selectionRules, List.append_assoc, rules_flatMap rules_include]
      congr 1
      show rules ["--exclude".toList, "*".toList, sourceArg c.localPath, c.destination] = _
      rw [rules_exclude, rules_operands]

/-! ### The pattern of an entry -/

section
variable {bracket : Text → Bytes → Prop} {c : Char} {p : Text} {t : Bytes}

theorem wild_escaped_iff :
    Wild bracket ('\\' :: c :: p) t ↔
      ∃ rest, Wild bracket p rest ∧ t = Text.encode [c] ++ rest := by
  constructor
  · intro h
    cases h with
    | escaped _ h => exact ⟨_, h, rfl⟩
    | char _ hc h => simp at hc
  · rintro ⟨rest, h, rfl⟩
    exact .escaped c h

theorem wild_char_iff (hc : (c == '\\' || isWildcard c) = false) :
    Wild bracket (c :: p) t ↔ ∃ rest, Wild bracket p rest ∧ t = Text.encode [c] ++ rest := by
  constructor
  · intro h
    cases h with
    | char _ _ h => exact ⟨_, h, rfl⟩
    | _ => simp [isWildcard] at hc
  · rintro ⟨rest, h, rfl⟩
    exact .char c hc h

end

/-- An escaped name says nothing but itself. -/
theorem wild_escape_iff {bracket : Text → Bytes → Prop} {name : Text} {t : Bytes} :
    Wild bracket (escape name) t ↔ t = Text.encode name := by
  induction name generalizing t with
  | nil =>
      constructor
      · intro h
        cases h
        rfl
      · rintro rfl
        exact .nil
  | cons c name ih =>
      have hencode : Text.encode (c :: name) = Text.encode [c] ++ Text.encode name := by
        simp [Text.encode]
      cases hc : c == '\\' || isWildcard c with
      | true =>
          have hescape : escape (c :: name) = '\\' :: c :: escape name := by
            unfold escape
            rw [List.flatMap_cons, if_pos hc]
            rfl
          rw [hescape, wild_escaped_iff, hencode]
          simp only [ih, exists_eq_left]
      | false =>
          have hescape : escape (c :: name) = c :: escape name := by
            unfold escape
            rw [List.flatMap_cons, hc]
            rfl
          rw [hescape, wild_char_iff hc, hencode]
          simp only [ih, exists_eq_left]

theorem mem_escape_iff {name : Text} {c : Char} (hc : c ≠ '\\') : c ∈ escape name ↔ c ∈ name := by
  simp only [escape, List.mem_flatMap]
  constructor
  · rintro ⟨x, hx, h⟩
    split at h
    · rcases List.mem_cons.mp h with h | h
      · exact absurd h hc
      · obtain rfl : c = x := by simpa using h
        exact hx
    · obtain rfl : c = x := by simpa using h
      exact hx
  · intro h
    refine ⟨c, h, ?_⟩
    split <;> simp

theorem folder?_append {name : Text} (h : '/' ∉ name) : folder? (name ++ "/***") = some name := by
  have htake : (name ++ "/***".toList).take ((name ++ "/***".toList).length - 4) = name := by
    simp
  simp only [folder?, htake, h, not_false_eq_true, and_true, if_true]

theorem folder?_eq_none {pattern : Text} (h : '/' ∉ pattern) : folder? pattern = none := by
  simp only [folder?, ite_eq_right_iff, reduceCtorEq, imp_false, not_and]
  intro hpattern
  rw [← hpattern] at h
  simp at h

variable {d : Dialect} {root : FileNode} {p : Location}

/-- The pattern of a directory matches every directory with its name and what is below; the pattern
of anything else matches what has its name. -/
theorem matches_includePattern_iff {e : Entry} (he : '/' ∉ e.name) :
    Matches d root (includePattern e) p ↔
      if e.isDir then ∃ q, q <+: p ∧ q.getLast? = some (Text.encode e.name) ∧ IsDir root q
      else p.getLast? = some (Text.encode e.name) := by
  have hslash : '/' ∉ escape e.name := fun h => he ((mem_escape_iff (by decide)).mp h)
  unfold Matches includePattern
  cases hdir : e.isDir with
  | true =>
      have hwild : (escape e.name ++ "/***".toList).any isWildcard = true := by
        simp [isWildcard]
      simp only [if_true, hwild, folder?_append hslash, wild_escape_iff]
      constructor
      · rintro ⟨q, name, hq, hlast, rfl, hd⟩
        exact ⟨q, hq, hlast, hd⟩
      · rintro ⟨q, hq, hlast, hd⟩
        exact ⟨q, _, hq, hlast, rfl, hd⟩
  | false =>
      cases hwild : e.name.any isWildcard with
      | true =>
          have hwild' : (escape e.name).any isWildcard = true := by
            obtain ⟨c, hc, hw⟩ := List.any_eq_true.mp hwild
            have hne : c ≠ '\\' := by
              rintro rfl
              simp [isWildcard] at hw
            exact List.any_eq_true.mpr ⟨c, (mem_escape_iff hne).mpr hc, hw⟩
          simp only [Bool.false_eq_true, if_false, if_true, hwild', folder?_eq_none hslash, hslash,
            wild_escape_iff]
          constructor
          · rintro ⟨name, hlast, rfl⟩
            exact hlast
          · intro hlast
            exact ⟨_, hlast, rfl⟩
      | false => simp [hwild]

theorem matches_star {name : Bytes} (hp : p.getLast? = some name) :
    Matches d root "*".toList p := by
  have hfolder : folder? "*".toList = none := folder?_eq_none (by decide)
  have hwild : Wild d.bracket "*".toList name := by
    have h : Wild d.bracket ['*'] (name ++ []) := .star name .nil
    simpa using h
  unfold Matches
  rw [if_pos (by decide), hfolder]
  exact ⟨name, hp, hwild⟩

/-! ### The first match -/

theorem firstMatch_excludes {α : Type} (as : List α) (isMatch : α → Prop)
    (rest : List (Bool × Prop)) :
    FirstMatch (as.map (fun a => (false, isMatch a)) ++ rest) ↔
      (∀ a ∈ as, ¬ isMatch a) ∧ FirstMatch rest := by
  induction as with
  | nil => simp
  | cons a as ih => simp [FirstMatch, ih, and_assoc]

theorem firstMatch_includes {α : Type} (as : List α) (isMatch : α → Prop) (other : Prop) :
    FirstMatch (as.map (fun a => (true, isMatch a)) ++ [(false, other)]) ↔
      (∃ a ∈ as, isMatch a) ∨ ¬ other := by
  induction as with
  | nil => simp [FirstMatch]
  | cons a as ih =>
      simp only [List.map_cons, List.cons_append, FirstMatch, ih, and_true]
      by_cases h : isMatch a <;> simp [h]

/-- A chunk admits what the filter leaves and an entry of the chunk takes in. -/
theorem admitted_entries_iff {own : Text → Location → Prop} {c : Command} {es : List Entry}
    (hc : c.selection = .entries es) :
    Admitted d root own c.filter.patterns.length (rules c.args) p ↔
      (∀ x ∈ c.filter.patterns, ¬ own x p) ∧
        ((∃ e ∈ es, Matches d root (includePattern e) p) ∨ ¬ Matches d root "*".toList p) := by
  have hrules := rules_args c
  rw [hc] at hrules
  have hlen : (c.filter.patterns.map fun x => (⟨false, x⟩ : Rule)).length =
      c.filter.patterns.length := List.length_map _
  unfold Admitted
  rw [hrules, ← hlen, List.take_left, List.drop_left, List.map_append, List.map_map, List.map_map]
  exact (firstMatch_excludes _ _ _).trans (and_congr_right fun _ => firstMatch_includes _ _ _)

end TunnelSync.Rsync
