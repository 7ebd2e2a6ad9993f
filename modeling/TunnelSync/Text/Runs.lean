import TunnelSync.Text.Basic

/-!
# Tables of character properties

A property is written down as runs of consecutive code points. A run is a word such as `m2:1a:5`: a
letter, the distance from the end of the run before it, its length less one, and what else is to be
said of it; numbers are in base 36. The words of a table stand in strings, separated by spaces.
-/

namespace TunnelSync.Text

/-- The value of a base-36 digit. -/
def digit36 (c : Char) : Nat :=
  if '0' ≤ c && c ≤ '9' then c.toNat - 0x30 else c.toNat - 0x57

/-- The value of a number in base 36. -/
def number36 (t : Text) : Nat := t.foldl (fun n c => n * 36 + digit36 c) 0

/-- The value of a number in base 36 that may have a minus sign. -/
def integer36 : Text → Int
  | '-' :: t => -(number36 t : Int)
  | t => number36 t

/-- Consecutive code points of which the same is said. -/
structure Run where
  first : Nat
  last : Nat
  letter : Char
  payload : Text
  deriving DecidableEq, Repr

/-- The words of a table. -/
def tableWords (rows : List String) : List Text := rows.flatMap fun row => fields ' ' row.toList

/-- The runs of some words; `next` is the code point behind the last run. -/
def runsFrom (next : Nat) : List Text → List Run
  | [] => []
  | word :: rest =>
      match word with
      | [] => runsFrom next rest
      | letter :: numbers =>
          let parts := fields ':' numbers
          let first := next + number36 (parts.getD 0 [])
          let last := first + number36 (parts.getD 1 [])
          ⟨first, last, letter, parts.getD 2 []⟩ :: runsFrom (last + 1) rest

/-- The runs of a table. -/
def runs (rows : List String) : List Run := runsFrom 0 (tableWords rows)

/-- The run that a code point belongs to. -/
def runOf? (table : List Run) (c : Nat) : Option Run :=
  table.find? fun r => r.first ≤ c && c ≤ r.last

/-- Numbers in base 36 with plus signs between them. -/
def numbers36 (t : Text) : List Nat := (fields '+' t).map number36

end TunnelSync.Text
