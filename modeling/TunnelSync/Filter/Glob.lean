import TunnelSync.Text.Basic

/-!
# Globs

The pattern language of exclusions: `*` stands for any row of characters without a slash, `?` for
one such character, `[…]` for one of a class and `[!…]` for one outside it, and `**` as a whole path
component for any row of components. Matching respects case, and a leading dot is a character like
any other.

* `Glob.parse?` : the tokens of a pattern, or `none` if the pattern breaks the grammar
* `Glob.isMatch` : whether a name as a whole is in the language of the tokens
-/

namespace TunnelSync

/-- A member of a character class: a single character or a range. -/
inductive ClassItem
  | one (c : Char)
  | range (first last : Char)
  deriving DecidableEq, Repr

/-- What a pattern is made of. -/
inductive GlobToken
  /-- The character itself. -/
  | literal (c : Char)
  /-- Any one character but a slash. -/
  | anyChar
  /-- Any row of characters without a slash. -/
  | anyRow
  /-- Any row of whole path components. -/
  | anyPath
  /-- One character of the class, but no slash. -/
  | within (items : List ClassItem)
  /-- One character outside the class, but no slash. -/
  | outside (items : List ClassItem)
  deriving DecidableEq, Repr

/-- A pattern that the grammar accepts. -/
abbrev Glob := List GlobToken

namespace Glob

/-! ### Reading a pattern -/

/-- The members between the brackets of a class. A hyphen with a character on either side makes a
range. -/
def classItems : Text → List ClassItem
  | a :: '-' :: b :: rest => .range a b :: classItems rest
  | a :: rest => .one a :: classItems rest
  | [] => []

/-- The text before the first `]`, and the text behind it. -/
def closing? : Text → Option (Text × Text)
  | [] => none
  | ']' :: rest => some ([], rest)
  | c :: rest => (closing? rest).map fun (inside, behind) => (c :: inside, behind)

/-- A class whose opening bracket has been read, and the text behind its closing bracket. The first
member may be a `]`, so that a class is never empty. -/
def readClass? : Text → Option (GlobToken × Text)
  | '!' :: first :: rest =>
      (closing? rest).map fun (inside, behind) => (.outside (classItems (first :: inside)), behind)
  | '!' :: [] => none
  | first :: rest =>
      (closing? rest).map fun (inside, behind) => (.within (classItems (first :: inside)), behind)
  | [] => none

theorem length_of_closing? {t inside behind : Text} (h : closing? t = some (inside, behind)) :
    behind.length < t.length := by
  fun_induction closing? t generalizing inside with
  | case1 => contradiction
  | case2 => cases h; simp
  | case3 c rest _ ih =>
      simp only [Option.map_eq_some_iff, Prod.mk.injEq] at h
      obtain ⟨⟨i, b⟩, hc, _, rfl⟩ := h
      have hlt : b.length < rest.length := ih hc
      simp only [List.length_cons]; omega

theorem length_of_readClass? {t behind : Text} {g : GlobToken}
    (h : readClass? t = some (g, behind)) : behind.length < t.length := by
  unfold readClass? at h
  split at h
  · simp only [Option.map_eq_some_iff, Prod.mk.injEq] at h
    obtain ⟨⟨i, b⟩, hc, _, rfl⟩ := h
    have hlt : b.length < _ := length_of_closing? hc
    simp only [List.length_cons]; omega
  · contradiction
  · simp only [Option.map_eq_some_iff, Prod.mk.injEq] at h
    obtain ⟨⟨i, b⟩, hc, _, rfl⟩ := h
    have hlt : b.length < _ := length_of_closing? hc
    simp only [List.length_cons]; omega
  · contradiction

/-- Puts `**` before the tokens that follow it. Of a second one directly behind another, only the
first is kept once a token stands before both. -/
def addAnyPath (before : List GlobToken) : List GlobToken :=
  match before with
  | .anyPath :: _ :: _ => before
  | _ => .anyPath :: before

/-- The tokens of a pattern behind `before`, the tokens already read with the last one first.
`atComponent` says whether a path component begins here. -/
def readFrom (before : List GlobToken) (atComponent : Bool) : Text → Option Glob
  | [] => some before.reverse
  | '*' :: '*' :: '*' :: _ => none
  | '*' :: '*' :: '/' :: rest =>
      if atComponent then readFrom (addAnyPath before) true rest else none
  | '*' :: '*' :: [] => if atComponent then some (addAnyPath before).reverse else none
  | '*' :: '*' :: _ => none
  | '*' :: rest => readFrom (.anyRow :: before) false rest
  | '?' :: rest => readFrom (.anyChar :: before) false rest
  | '[' :: rest =>
      match _h : readClass? rest with
      | some (token, behind) => readFrom (token :: before) false behind
      | none => none
  | c :: rest => readFrom (.literal c :: before) (c == '/') rest
termination_by t => t.length
decreasing_by
  all_goals simp only [List.length_cons]
  all_goals try have hlt := length_of_readClass? _h
  all_goals omega

/-- The tokens of a pattern. -/
def parse? (pattern : Text) : Option Glob := readFrom [] true pattern

/-! ### Matching

`row token name rest` decides, for each end piece of `name` from the whole name to the empty piece,
whether the piece is in the language of `token` followed by a glob, given in `rest` the same
answers for that glob alone. -/

/-- Whether a character is in a class. -/
def inClass (items : List ClassItem) (c : Char) : Bool :=
  items.any fun
    | .one d => d == c
    | .range first last => first ≤ c && c ≤ last

/-- Whether a token that stands for one character accepts this one. -/
def accepts : GlobToken → Char → Bool
  | .literal d, c => d == c
  | .anyChar, c => c != '/'
  | .within items, c => c != '/' && inClass items c
  | .outside items, c => c != '/' && !inClass items c
  | .anyRow, _ => false
  | .anyPath, _ => false

/-- One character and then the rest. -/
def charRow (token : GlobToken) : Text → List Bool → List Bool
  | [], _ => [false]
  | c :: name, rest => (accepts token c && rest.tail.headD false) :: charRow token name rest.tail

/-- A row of characters without a slash and then the rest. -/
def anyRowRow : Text → List Bool → List Bool
  | [], rest => rest
  | c :: name, rest =>
      let behind := anyRowRow name rest.tail
      (rest.headD false || (c != '/' && behind.headD false)) :: behind

/-- Whether the rest matches at the end of the name or behind one of its slashes. -/
def behindSlash : Text → List Bool → Bool
  | [], rest => rest.headD false
  | c :: name, rest => (c == '/' && rest.tail.headD false) || behindSlash name rest.tail

/-- A row of whole components and then the rest. -/
def anyPathRow : Text → List Bool → List Bool
  | [], rest => rest
  | c :: name, rest =>
      (rest.headD false || behindSlash (c :: name) rest) :: anyPathRow name rest.tail

/-- The answers for a token before a glob whose answers are `rest`. -/
def row (token : GlobToken) (name : Text) (rest : List Bool) : List Bool :=
  match token with
  | .anyRow => anyRowRow name rest
  | .anyPath => anyPathRow name rest
  | token => charRow token name rest

/-- The answers for the glob without tokens: only the empty piece is in its language. -/
def endRow : Text → List Bool
  | [] => [true]
  | _ :: name => false :: endRow name

/-- Whether the name as a whole is in the language of the glob. -/
def isMatch (g : Glob) (name : Text) : Bool :=
  (g.foldr (fun token rest => row token name rest) (endRow name)).headD false

end Glob

end TunnelSync
