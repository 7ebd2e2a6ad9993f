import TunnelSync.Decimal.Binary64
import TunnelSync.Text.Basic
import TunnelSync.Text.Class

/-!
# TOML values and scalars

`Toml.Value` is what a TOML document says. A table remembers how it came about, because that decides
whether a later line may add to it.

Behind it stand the readers for the parts of a document that hold no other values: blanks and
comments, strings, numbers, dates and times. A reader answers what it read and the text behind it,
or `none` if the text does not begin with what it looks for.
-/

namespace TunnelSync.Toml

/-! ### Values -/

/-- A floating-point number. -/
inductive Real
  | finite (negative : Bool) (magnitude : Binary64)
  | infinite (negative : Bool)
  | notANumber
  deriving DecidableEq, Repr

/-- How a table came about. -/
inductive Origin
  /-- In braces. -/
  | inline
  /-- By a header of its own. -/
  | header
  /-- By the header of a table below it. -/
  | implicit
  /-- By a dotted key. -/
  | dotted
  deriving DecidableEq, Repr

/-- A value; the entries of a table are in the order in which they came. -/
inductive Value
  | string (t : Text)
  | integer (n : Int)
  | real (r : Real)
  | boolean (b : Bool)
  /-- A date, a time, or both. -/
  | moment
  | array (items : List Value)
  | table (origin : Origin) (entries : List (Text × Value))
  /-- Tables with headers in double brackets. -/
  | tables (elements : List (List (Text × Value)))
  deriving Repr

/-- The entries of a table. -/
abbrev Entries := List (Text × Value)

/-! ### Blanks, comments and line ends -/

/-- A blank within a line. -/
def isSpace (c : Char) : Bool := c == ' ' || c == '\t'

/-- The text without the blanks at its beginning. -/
def skipSpace (t : Text) : Text := t.dropWhile isSpace

/-- A character that may stand in a comment or, quotes apart, in a string: a tab or no control. -/
def isPlain (c : Char) : Bool := c == '\t' || (0x20 ≤ c.toNat && c.toNat != 0x7F)

/-- The text behind a line end. -/
def newline? : Text → Option Text
  | '\n' :: t => some t
  | '\r' :: '\n' :: t => some t
  | _ => none

/-- The text without the comment at its beginning, if there is one. -/
def skipComment : Text → Text
  | '#' :: t => t.dropWhile isPlain
  | t => t

/-- The text behind the end of the line; blanks and a comment may precede it. -/
def lineEnd? (t : Text) : Option Text :=
  match skipComment (skipSpace t) with
  | [] => some []
  | t => newline? t

/-- The text behind blanks, line ends and comments. In a comment everything up to the line end is
passed over. -/
def skipLines (inComment : Bool) : Text → Text
  | [] => []
  | c :: t =>
      if inComment then
        if c == '\n' then skipLines false t
        else if isPlain c || (c == '\r' && t.head? == some '\n') then skipLines true t
        else c :: t
      else if isSpace c || c == '\n' || (c == '\r' && t.head? == some '\n') then skipLines false t
      else if c == '#' then skipLines true t
      else c :: t

/-! ### Strings -/

/-- The value of hexadecimal digits. -/
def hex? (t : Text) : Option Nat :=
  t.foldlM (fun n c =>
    if c.isDigit then some (n * 16 + (c.toNat - 0x30))
    else if 'a' ≤ c && c ≤ 'f' then some (n * 16 + (c.toNat - 0x57))
    else if 'A' ≤ c && c ≤ 'F' then some (n * 16 + (c.toNat - 0x37))
    else none) 0

/-- The character that so many hexadecimal digits denote. -/
def unicode? (digits : Nat) (t : Text) : Option Char :=
  if t.length < digits then none
  else (hex? (t.take digits)).bind fun n =>
    if n < 0xD800 ∨ (0xDFFF < n ∧ n < 0x110000) then some (Char.ofNat n) else none

/-- The character of an escape behind its backslash, and how many characters the escape has. -/
def escape? : Text → Option (Char × Nat)
  | 'b' :: _ => some ('\x08', 1)
  | 't' :: _ => some ('\t', 1)
  | 'n' :: _ => some ('\n', 1)
  | 'f' :: _ => some ('\x0c', 1)
  | 'r' :: _ => some ('\r', 1)
  | '"' :: _ => some ('"', 1)
  | '\\' :: _ => some ('\\', 1)
  | 'u' :: t => (unicode? 4 t).map (·, 5)
  | 'U' :: t => (unicode? 8 t).map (·, 9)
  | _ => none

/-- A string in double quotes behind its opening quote; the first `skip` characters belong to an
escape already read. -/
def basicString? : Nat → Text → Option (Text × Text)
  | _, [] => none
  | skip + 1, _ :: t => basicString? skip t
  | 0, c :: t =>
      if c == '"' then some ([], t)
      else if c == '\\' then
        (escape? t).bind fun (d, n) => (basicString? n t).map fun (s, rest) => (d :: s, rest)
      else if isPlain c then (basicString? 0 t).map fun (s, rest) => (c :: s, rest)
      else none

/-- A string in single quotes behind its opening quote. -/
def literalString? : Text → Option (Text × Text)
  | [] => none
  | c :: t =>
      if c == '\'' then some ([], t)
      else if isPlain c then (literalString? t).map fun (s, rest) => (c :: s, rest)
      else none

/-- How many of the given quotes a text begins with. -/
def quoteCount (quote : Char) (t : Text) : Nat := (t.takeWhile (· == quote)).length

/-- Whether a backslash ends its line, blanks apart. -/
def endsLine (t : Text) : Bool := (newline? (skipSpace t)).isSome

/-- A string in triple quotes behind its opening quotes; `escapes` says whether a backslash means
anything in it. Up to two quotes before the closing ones belong to the string, a line end is a line
feed, and a backslash at the end of a line joins it to what follows the blanks. The first `skip`
characters are passed over. -/
def longString? (quote : Char) (escapes : Bool) : Nat → Text → Option (Text × Text)
  | _, [] => none
  | skip + 1, _ :: t => longString? quote escapes skip t
  | 0, c :: t =>
      let quotes := quoteCount quote (c :: t)
      if 3 ≤ quotes then
        some (List.replicate (min (quotes - 3) 2) quote, (c :: t).drop (min quotes 5))
      else if c == quote then
        (longString? quote escapes 0 t).map fun (s, rest) => (c :: s, rest)
      else if c == '\\' && escapes then
        if endsLine t then
          longString? quote escapes
            (t.takeWhile fun d => isSpace d || d == '\n' || d == '\r').length t
        else
          (escape? t).bind fun (d, n) =>
            (longString? quote escapes n t).map fun (s, rest) => (d :: s, rest)
      else if c == '\r' && t.head? == some '\n' then
        (longString? quote escapes 1 t).map fun (s, rest) => ('\n' :: s, rest)
      else if isPlain c || c == '\n' then
        (longString? quote escapes 0 t).map fun (s, rest) => (c :: s, rest)
      else none

/-- A long string without the line end directly behind its opening quotes. -/
def longBody? (quote : Char) (escapes : Bool) (t : Text) : Option (Text × Text) :=
  longString? quote escapes 0 ((newline? t).getD t)

/-- A string of any kind. -/
def string? : Text → Option (Text × Text)
  | '"' :: '"' :: '"' :: t => longBody? '"' true t
  | '"' :: t => basicString? 0 t
  | '\'' :: '\'' :: '\'' :: t => longBody? '\'' false t
  | '\'' :: t => literalString? t
  | _ => none

/-! ### Numbers -/

/-- Digits with single underscores between them, which are dropped. -/
def digits? (isDigit : Char → Bool) : Text → Option (Text × Text)
  | [] => none
  | [c] => if isDigit c then some ([c], []) else none
  | c :: '_' :: t =>
      if isDigit c then (digits? isDigit t).map fun (ds, rest) => (c :: ds, rest) else none
  | c :: t =>
      if isDigit c then
        match digits? isDigit t with
        | some (ds, rest) => some (c :: ds, rest)
        | none => some ([c], t)
      else none

/-- The sign of a number, and what follows it. -/
def sign : Text → Bool × Text
  | '-' :: t => (true, t)
  | '+' :: t => (false, t)
  | t => (false, t)

/-- Decimal digits of which the first is not 0 unless it is the only one. -/
def decimal? : Text → Option (Text × Text)
  | '0' :: t => some (['0'], t)
  | t => digits? Char.isDigit t

/-- The value of decimal digits. -/
def decimalValue (ds : Text) : Nat := ds.foldl (fun n c => n * 10 + (c.toNat - 0x30)) 0

/-- An integer of 64 bits. -/
def bounded? (n : Int) : Option Int := if -Nat.pow 2 63 ≤ n ∧ n < Nat.pow 2 63 then some n else none

/-- An integer behind the mark of its base. -/
def based? (isDigit : Char → Bool) (base : Nat) (t : Text) : Option (Int × Text) := do
  let (ds, rest) ← digits? isDigit t
  let value := ds.foldl (fun n c => n * base + (hex? [c]).getD 0) 0
  return (← bounded? value, rest)

/-- An integer. Only decimal ones have a sign. -/
def integer? : Text → Option (Int × Text)
  | '0' :: 'x' :: t => based? (fun c => (hex? [c]).isSome) 16 t
  | '0' :: 'o' :: t => based? (fun c => '0' ≤ c && c ≤ '7') 8 t
  | '0' :: 'b' :: t => based? (fun c => c == '0' || c == '1') 2 t
  | t => do
      let (negative, t) := sign t
      let (ds, rest) ← decimal? t
      let n : Int := decimalValue ds
      return (← bounded? (if negative then -n else n), rest)

/-- The exponent of a number behind its `e`. -/
def exponent? : Text → Option (Int × Text)
  | c :: t =>
      if c == 'e' || c == 'E' then do
        let (negative, t) := sign t
        let (ds, rest) ← digits? Char.isDigit t
        let n : Int := decimalValue ds
        return (if negative then -n else n, rest)
      else none
  | [] => none

/-- The number nearest to `units · 10^exponent`. Beyond four hundred places it is 0 or infinite. -/
def scaled (negative : Bool) (units : Nat) (exponent : Int) : Real :=
  let size : Int := (Text.ofNat units).length + exponent
  if units = 0 ∨ size < -400 then .finite negative .zero
  else if 400 < size then .infinite negative
  else
    let x := Binary64.ofRatio (units * Nat.pow 10 exponent.toNat) (Nat.pow 10 (-exponent).toNat)
    if 971 < x.exponent then .infinite negative else .finite negative x

/-- Infinity or no number, by name. -/
def named? : Text → Option (Real × Text)
  | t =>
      let (negative, t) := sign t
      match t with
      | 'i' :: 'n' :: 'f' :: rest => some (.infinite negative, rest)
      | 'n' :: 'a' :: 'n' :: rest => some (.notANumber, rest)
      | _ => none

/-- The digits behind the point of a number, which may be missing, and what follows them. -/
def fraction? : Text → Option (Text × Text)
  | '.' :: t => digits? Char.isDigit t
  | t => some ([], t)

/-- A floating-point number has a fraction, an exponent or both. One that is too large is refused
unless it is negative. -/
def real? (t : Text) : Option (Real × Text) :=
  (named? t).or do
    let (negative, t) := sign t
    let (ds, t) ← decimal? t
    let (fraction, t) ← fraction? t
    let exponent := exponent? t
    if fraction.isEmpty && exponent.isNone then none
    else
      let (e, rest) := exponent.getD (0, t)
      let r := scaled negative (decimalValue (ds ++ fraction)) (e - fraction.length)
      if r = .infinite false then none else some (r, rest)

/-! ### Dates and times -/

/-- A number of exactly so many digits. -/
def fixedDigits? (count : Nat) (t : Text) : Option (Nat × Text) :=
  let ds := t.take count
  if ds.length = count ∧ ds.all Char.isDigit then some (decimalValue ds, t.drop count) else none

/-- The text behind a given character. -/
def behind? (c : Char) : Text → Option Text
  | d :: t => if c == d then some t else none
  | [] => none

/-- The days of a month. -/
def daysIn (year month : Nat) : Nat :=
  if month = 2 then
    if year % 4 = 0 ∧ (year % 100 ≠ 0 ∨ year % 400 = 0) then 29 else 28
  else if [4, 6, 9, 11].contains month then 30 else 31

/-- The text behind a date. -/
def date? (t : Text) : Option Text := do
  let (year, t) ← fixedDigits? 4 t
  let (month, t) ← fixedDigits? 2 (← behind? '-' t)
  let (day, t) ← fixedDigits? 2 (← behind? '-' t)
  if 1 ≤ month ∧ month ≤ 12 ∧ 1 ≤ day ∧ day ≤ daysIn year month then some t else none

/-- The text behind a time of day; a leap second counts. -/
def time? (t : Text) : Option Text := do
  let (hour, t) ← fixedDigits? 2 t
  let (minute, t) ← fixedDigits? 2 (← behind? ':' t)
  let (second, t) ← fixedDigits? 2 (← behind? ':' t)
  if hour < 24 ∧ minute < 60 ∧ second ≤ 60 then
    match t with
    | '.' :: c :: rest => if c.isDigit then some (rest.dropWhile Char.isDigit) else some t
    | t => some t
  else none

/-- The text behind a distance from universal time. -/
def offset? : Text → Option Text
  | 'Z' :: t => some t
  | 'z' :: t => some t
  | c :: t =>
      if c == '+' || c == '-' then do
        let (hour, t) ← fixedDigits? 2 t
        let (minute, t) ← fixedDigits? 2 (← behind? ':' t)
        if hour < 24 ∧ minute < 60 then some t else none
      else none
  | [] => none

/-- The text behind a time that follows a date. -/
def timeBehindDate? : Text → Option Text
  | c :: t =>
      if c == 'T' || c == 't' || c == ' ' then
        (time? t).map fun rest => (offset? rest).getD rest
      else none
  | [] => none

/-- The text behind a date, a time, or both. -/
def moment? (t : Text) : Option Text :=
  match date? t with
  | some rest => some ((timeBehindDate? rest).getD rest)
  | none => time? t

end TunnelSync.Toml
