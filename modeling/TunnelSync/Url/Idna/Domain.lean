import TunnelSync.Text.Utf8
import TunnelSync.Url.Idna.MappingTable
import TunnelSync.Url.Idna.Normal
import TunnelSync.Url.Idna.PropertyTables
import TunnelSync.Url.Punycode

/-!
# Domain names in ASCII

`Idna.toAscii?` maps the characters of a domain name, normalises them, checks each label, and writes
the labels that are not ASCII in Punycode behind `xn--`. A label does not begin with a combining
mark, a joiner stands only where it shows, and in a domain with characters that run from right to
left every label keeps to one direction.
-/

namespace TunnelSync.Url.Idna

/-! ### Joiners -/

/-- The combining class of the marks that a joiner may follow. -/
def virama : Nat := 9

/-- Whether a joiner may stand between the characters `before`, last first, and `after`: behind a
virama, or, for the non-joiner U+200C, between characters that would join. -/
def joinerFits (joiner : Nat) (before after : List Nat) : Bool :=
  let joins (types : List Char) (cs : List Nat) : Bool :=
    match cs.dropWhile fun c => joiningType c == 't' with
    | [] => false
    | c :: _ => types.contains (joiningType c)
  (before.head?.map combiningClass == some virama)
    || (joiner == 0x200C && joins ['l', 'd'] before && joins ['r', 'd'] after)

/-- Whether every joiner fits; `before` are the characters already passed, last first. -/
def joinersFit (before : List Nat) : List Nat → Bool
  | [] => true
  | c :: rest =>
      (if c == 0x200C || c == 0x200D then joinerFits c before rest else true)
        && joinersFit (c :: before) rest

/-! ### Direction -/

/-- Whether a character makes its domain one of mixed direction. -/
def isRightToLeft (c : Nat) : Bool := ['r', 'l', 'n'].contains (bidiClass c)

/-- Whether a label keeps to one direction. A label that runs from right to left has numbers of one
kind only. -/
def keepsDirection (label : List Nat) : Bool :=
  let classes := label.map bidiClass
  let ending := (classes.reverse.dropWhile (· == 'm')).head?
  let endsIn (allowed : List Char) : Bool := (ending.map (allowed.contains ·)).getD false
  match classes with
  | [] => true
  | first :: _ =>
      if first == 'r' || first == 'l' then
        classes.all (['r', 'l', 'n', 'e', 's', 'c', 't', 'o', 'b', 'm'].contains ·)
          && endsIn ['r', 'l', 'e', 'n']
          && !(classes.contains 'e' && classes.contains 'n')
      else if first == 'L' then
        classes.all (['L', 'e', 's', 'c', 't', 'o', 'b', 'm'].contains ·) && endsIn ['L', 'e']
      else false

/-! ### Labels -/

/-- Whether a label does not begin with a mark, and its joiners fit. -/
def isWellFormed (label : List Nat) : Bool :=
  !(label.head?.map isMark).getD false && joinersFit [] label

/-! ### Mapping -/

/-- What becomes of a character. -/
inductive Mapping
  | kept
  | refused
  | replaced (others : List Nat)
  deriving DecidableEq, Repr

/-- What becomes of a character beyond ASCII. -/
def mappingBeyondAscii (c : Nat) : Mapping :=
  match Text.runOf? mappingRuns c with
  | none => .kept
  | some r =>
      match r.letter with
      | 'd' => .refused
      | 'i' => .replaced []
      | 's' => .replaced [((c : Int) + Text.integer36 r.payload).toNat]
      | 'a' => if (c - r.first) % 2 == 0 then .replaced [c + 1] else .kept
      | 'c' => .replaced (Text.numbers36 r.payload)
      | _ => .replaced (Text.numbers36 ((Text.fields ',' r.payload).getD (c - r.first) []))

/-- What becomes of a character; capitals of ASCII become small. -/
def mapping (c : Nat) : Mapping :=
  if c < 0x80 then
    if 0x41 ≤ c && c ≤ 0x5A then .replaced [c + 0x20] else .kept
  else mappingBeyondAscii c

/-- The characters after the mapping, or `none` if one is refused. -/
def mapAll? : List Nat → Option (List Nat)
  | [] => some []
  | c :: rest =>
      match mapping c with
      | .refused => none
      | .kept => (mapAll? rest).map (c :: ·)
      | .replaced cs => (mapAll? rest).map (cs ++ ·)

/-- Whether an ASCII character may not stand in a domain name: controls, space, and what has a
meaning of its own in a URL. -/
def isForbidden (c : Nat) : Bool :=
  c ≤ 0x20 || c == 0x7F || ("%#/:<>?@[\\]^|".toList.map Char.toNat).contains c

/-- What stands before the Punycode of a label. -/
def acePrefix : List Nat := "xn--".toList.map Char.toNat

/-- The pieces between full stops. -/
def labels (cs : List Nat) : List (List Nat) :=
  (Text.fields '.' (cs.map Char.ofNat)).map (·.map Char.toNat)

/-- The characters that a label in Punycode stands for. It must stand for something that could not
have been written in ASCII, and that the mapping and the normalisation leave as it is. -/
def labelOfAce? (written : List Nat) : Option (List Nat) := do
  if written.any (0x80 ≤ ·) then none
  else
    let label ← Punycode.decode? (written.map Char.ofNat)
    if label.any (0x80 ≤ ·) && label.all (mapping · == .kept) && normal label == label then
      some label
    else none

/-- The characters of a label. -/
def labelChars? (label : List Nat) : Option (List Nat) :=
  if acePrefix.isPrefixOf label then labelOfAce? (label.drop 4) else some label

/-- The ASCII form of a label. -/
def asciiLabel (label : List Nat) : Text :=
  if label.all (· < 0x80) then label.map Char.ofNat
  else acePrefix.map Char.ofNat ++ Punycode.encode label

/-- The domain name of the characters in ASCII, or `none` if it breaks a rule. -/
def charsToAscii? (cs : List Nat) : Option Text := do
  let mapped ← mapAll? cs
  let ls ← (labels (if mapped.all (· < 0x80) then mapped else normal mapped)).mapM labelChars?
  let mixed := ls.any (·.any isRightToLeft)
  if ls.all fun l => isWellFormed l && !l.any isForbidden && (!mixed || keepsDirection l) then
    some (List.intercalate ['.'] (ls.map asciiLabel))
  else none

/-- The domain name of the bytes in ASCII, or `none` if they are not UTF-8 or it breaks a rule. -/
def toAscii? (domain : Bytes) : Option Text := do
  let t ← Text.decode? domain
  charsToAscii? (t.map Char.toNat)

end TunnelSync.Url.Idna
