import TunnelSync.Text.Class

/-!
# Transfer statistics

The copying program ends its output with a block of statistics. `TransferStats.parse` reads two
numbers from it: the files in the line `Number of files transferred:` or
`Number of regular files transferred:`, and the bytes in the line `Total transferred file size:`.
Counters have 64 bits; a number that does not fit counts as 0, and a sum that does not fit is an
error of `TransferStats.sum`.
-/

namespace TunnelSync

/-- Files and bytes moved by one or more copies. -/
structure TransferStats where
  files : Nat
  bytes : Nat
  deriving DecidableEq, Repr

namespace TransferStats

/-- Nothing moved. -/
def zero : TransferStats := ⟨0, 0⟩

/-- One more than the greatest value of a counter. -/
def counterLimit : Nat := Nat.pow 2 64

/-- Both sums, if the counters can hold them. -/
def add? (a b : TransferStats) : Option TransferStats :=
  if a.files + b.files < counterLimit ∧ a.bytes + b.bytes < counterLimit then
    some ⟨a.files + b.files, a.bytes + b.bytes⟩
  else none

/-- The sums over a list, added up from the first element on. -/
def sum? (stats : List TransferStats) : Option TransferStats :=
  stats.foldlM add? zero

/-- What is said of a sum that does not fit. -/
def overflowMessage : Text := "attempt to add with overflow"

/-- The sums over a list, or what is said where the counters cannot hold them. -/
def sum (stats : List TransferStats) : Except Text TransferStats :=
  match sum? stats with
  | some s => .ok s
  | none => .error overflowMessage

/-! ### Reading the block -/

/-- What stands before the number of files. -/
def filesLabels : List Text :=
  ["Number of regular files transferred:", "Number of files transferred:"]

/-- What stands before the number of bytes. -/
def bytesLabel : Text := "Total transferred file size:"

/-- A character of a number: a digit or the comma that groups digits. -/
def isNumberChar (c : Char) : Bool := c == ',' || Text.isDigit c

/-- The number characters behind blanks. -/
def numberChars (t : Text) : Text := (t.dropWhile Text.isBlank).takeWhile isNumberChar

/-- The number of files as written, if the text begins with its line. A number begins with a
digit. -/
def filesHere? (t : Text) : Option Text :=
  match filesLabels.findSome? (Text.after? · t) with
  | some rest =>
      let number := numberChars rest
      if (number.head?.map Text.isDigit).getD false then some number else none
  | none => none

/-- The number of bytes as written, if the text begins with its line. -/
def bytesHere? (t : Text) : Option Text :=
  match Text.after? bytesLabel t with
  | some rest =>
      let number := numberChars rest
      if number.isEmpty then none else some number
  | none => none

/-- The first answer over the end pieces of a text, from the whole text on. -/
def firstAt? (here? : Text → Option Text) : Text → Option Text
  | [] => here? []
  | c :: t => (here? (c :: t)).or (firstAt? here? t)

/-- The value of a number as written: commas do not count, and a number that has a digit other
than the ASCII ones, or no digit, or does not fit in a counter, is 0. -/
def counterValue (number : Text) : Nat :=
  match Text.readNat? (number.filter (· != ',')) with
  | some n => if n < counterLimit then n else 0
  | none => 0

theorem counterValue_lt (number : Text) : counterValue number < counterLimit := by
  simp only [counterValue]
  split
  · split
    · assumption
    · decide
  · decide

/-- The statistics in the output of a copy; a line that is missing counts as 0. -/
def parse (output : Text) : TransferStats :=
  ⟨((firstAt? filesHere? output).map counterValue).getD 0,
    ((firstAt? bytesHere? output).map counterValue).getD 0⟩

end TransferStats

end TunnelSync
