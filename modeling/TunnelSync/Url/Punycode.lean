import TunnelSync.Text.Basic

/-!
# Punycode

Labels of arbitrary characters written with ASCII letters, digits and hyphens: the ASCII characters
first, then the others in ascending order as differences in a mixed base whose digits adapt to the
differences seen so far.
-/

namespace TunnelSync.Url.Punycode

/-- The digit of a value below 36. -/
def digit (n : Nat) : Char := if n < 26 then Char.ofNat (0x61 + n) else Char.ofNat (0x16 + n)

/-- The value of a digit. -/
def digitValue? (c : Char) : Option Nat :=
  if 'a' ≤ c && c ≤ 'z' then some (c.toNat - 0x61)
  else if 'A' ≤ c && c ≤ 'Z' then some (c.toNat - 0x41)
  else if '0' ≤ c && c ≤ '9' then some (c.toNat - 0x16)
  else none

/-- From this value on a digit at position `k` does not end a number. -/
def threshold (bias k : Nat) : Nat := min (max (k - bias) 1) 26

theorem threshold_pos (bias k : Nat) : 1 ≤ threshold bias k := by simp only [threshold]; omega

theorem threshold_le (bias k : Nat) : threshold bias k ≤ 26 := by simp only [threshold]; omega

/-- The bias for a difference that has been divided down. -/
def biasOf (delta k : Nat) : Nat :=
  if delta > 455 then biasOf (delta / 35) (k + 36) else k + 36 * delta / (delta + 38)
termination_by delta
decreasing_by exact Nat.div_lt_self (by omega) (by omega)

/-- The bias after a difference; `count` characters are written, and the first difference is damped
more than the later ones. -/
def adapt (delta count : Nat) (first : Bool) : Nat :=
  let d := if first then delta / 700 else delta / 2
  biasOf (d + d / count) 0

/-! ### Writing -/

/-- The digits of a difference from position `k` on. -/
def numberDigits (bias k q : Nat) : Text :=
  let t := threshold bias k
  if q < t then [digit q]
  else digit (t + (q - t) % (36 - t)) :: numberDigits bias (k + 36) ((q - t) / (36 - t))
termination_by q
decreasing_by
  have h1 := threshold_pos bias k
  calc (q - threshold bias k) / (36 - threshold bias k)
      ≤ q - threshold bias k := Nat.div_le_self _ _
    _ < q := by omega

/-- What has been written, and what is known of the rest. -/
structure Writer where
  out : Text
  delta : Nat
  bias : Nat
  /-- How many characters are written. -/
  count : Nat
  deriving Repr

/-- One character of the label, while the code point `m` is being written. -/
def Writer.step (basic m : Nat) (w : Writer) (c : Nat) : Writer :=
  if c < m then { w with delta := w.delta + 1 }
  else if c == m then
    { out := w.out ++ numberDigits w.bias 36 w.delta
      delta := 0
      bias := adapt w.delta (w.count + 1) (w.count == basic)
      count := w.count + 1 }
  else w

/-- Writes the code points `ms`, which ascend from `next` on. -/
def Writer.run (label : List Nat) (basic : Nat) (w : Writer) : Nat → List Nat → Writer
  | _, [] => w
  | next, m :: ms =>
      let w := { w with delta := w.delta + (m - next) * (w.count + 1) }
      let w := label.foldl (Writer.step basic m) w
      Writer.run label basic { w with delta := w.delta + 1 } (m + 1) ms

/-- The code points beyond ASCII, ascending and each once. -/
def beyondAscii (label : List Nat) : List Nat :=
  ((label.filter (0x80 ≤ ·)).mergeSort (· ≤ ·)).eraseReps

/-- The written form of a label. -/
def encode (label : List Nat) : Text :=
  let basic := (label.filter (· < 0x80)).map Char.ofNat
  let start : Writer :=
    { out := if basic.isEmpty then [] else basic ++ ['-']
      delta := 0
      bias := 72
      count := basic.length }
  (start.run label basic.length 0x80 (beyondAscii label)).out

/-! ### Reading -/

/-- Inserts an element at a position. -/
def insertAt (position n : Nat) (label : List Nat) : List Nat :=
  label.take position ++ n :: label.drop position

/-- What has been read: the label, the last code point and its position, and the difference being
read. -/
structure Reader where
  label : List Nat
  code : Nat
  position : Nat
  bias : Nat
  /-- The position before this difference. -/
  before : Nat
  weight : Nat
  k : Nat
  deriving Repr

/-- A reader that has read the ASCII characters. -/
def Reader.start (basic : List Nat) : Reader := ⟨basic, 0x80, 0, 72, 0, 1, 36⟩

/-- One digit. A digit below the threshold ends its difference, which says how far to count through
the positions of the label and the code points. -/
def Reader.step? (r : Reader) (c : Char) : Option Reader := do
  let d ← digitValue? c
  let position := r.position + d * r.weight
  let t := threshold r.bias r.k
  if d < t then
    let count := r.label.length + 1
    let code := r.code + position / count
    let position := position % count
    if (Nat.isValidChar code : Bool) then
      let bias := adapt (r.position + d * r.weight - r.before) count (r.before == 0)
      some ⟨insertAt position code r.label, code, position + 1, bias, position + 1, 1, 36⟩
    else none
  else some { r with position := position, weight := r.weight * (36 - t), k := r.k + 36 }

/-- The label of a written form, or `none` if it is malformed. A difference must be complete. -/
def decode? (written : Text) : Option (List Nat) := do
  let hyphenated := written.reverse.dropWhile (· != '-')
  let basic := (hyphenated.drop 1).reverse
  let digits := if basic.isEmpty then written else written.drop (basic.length + 1)
  let r ← digits.foldlM Reader.step? (Reader.start (basic.map Char.toNat))
  if r.k == 36 then some r.label else none

end TunnelSync.Url.Punycode
