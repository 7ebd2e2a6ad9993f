import TunnelSync.Url.Idna.PropertyTables

/-!
# Canonical composition

Characters in normalisation form C: taken apart, marks put into canonical order, and put together
again. Hangul syllables are computed, the other compositions come from a table.
-/

namespace TunnelSync.Url.Idna

/-! ### Hangul -/

/-- The first syllable, the first leading consonant, the first vowel, and the code point before the
first trailing consonant. -/
def hangulS : Nat := 0xAC00
def hangulL : Nat := 0x1100
def hangulV : Nat := 0x1161
def hangulT : Nat := 0x11A7

/-- The parts of a syllable. -/
def hangulParts? (c : Nat) : Option (List Nat) :=
  if hangulS ≤ c && c < hangulS + 11172 then
    let i := c - hangulS
    let head := [hangulL + i / 588, hangulV + i % 588 / 28]
    some (if i % 28 = 0 then head else head ++ [hangulT + i % 28])
  else none

/-- The syllable of a consonant and a vowel, or of a syllable without a final and a final. -/
def hangulPair? (a b : Nat) : Option Nat :=
  if hangulL ≤ a && a < hangulL + 19 && hangulV ≤ b && b < hangulV + 21 then
    some (hangulS + (a - hangulL) * 588 + (b - hangulV) * 28)
  else if hangulS ≤ a && a < hangulS + 11172 && (a - hangulS) % 28 == 0 && hangulT < b
      && b < hangulT + 28 then
    some (a + (b - hangulT))
  else none

/-! ### Taking apart -/

/-- The parts of a character, taken apart `depth` times at most. -/
def partsWithin : Nat → Nat → List Nat
  | 0, c => [c]
  | depth + 1, c =>
      match compositions.find? fun (_, _, whole) => whole == c with
      | some (first, second, _) => partsWithin depth first ++ [second]
      | none => [c]

/-- The parts of a character. No composition is nested more than four deep. -/
def parts (c : Nat) : List Nat := (hangulParts? c).getD (partsWithin 4 c)

/-- Puts a mark before those of the same or a higher class. -/
def insertMark (c : Nat) : List Nat → List Nat
  | [] => [c]
  | d :: rest =>
      if combiningClass d != 0 && combiningClass d < combiningClass c then d :: insertMark c rest
      else c :: d :: rest

/-- Marks in canonical order: those behind one base ascend by class. -/
def reorder (cs : List Nat) : List Nat := cs.foldr insertMark []

/-! ### Putting together -/

/-- The composition of two characters. -/
def pair? (a b : Nat) : Option Nat :=
  (hangulPair? a b).or
    ((compositions.find? fun (first, second, _) => first == a && second == b).map (·.2.2))

/-- Puts together what follows the base. `kept` are the marks behind the base that did not compose,
last first. -/
def composeFrom (base : Nat) (kept : List Nat) : List Nat → List Nat
  | [] => base :: kept.reverse
  | c :: rest =>
      let k := combiningClass c
      let free := match kept with
        | [] => true
        | d :: _ => combiningClass d < k
      match if free then pair? base c else none with
      | some whole => composeFrom whole kept rest
      | none =>
          if k == 0 then base :: kept.reverse ++ composeFrom c [] rest
          else composeFrom base (c :: kept) rest

/-- Characters before the first base are kept as they are. -/
def compose : List Nat → List Nat
  | [] => []
  | c :: rest => if combiningClass c == 0 then composeFrom c [] rest else c :: compose rest

/-- Normalisation form C. -/
def normal (cs : List Nat) : List Nat := compose (reorder (cs.flatMap parts))

end TunnelSync.Url.Idna
