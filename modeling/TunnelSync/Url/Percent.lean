import TunnelSync.Text.Utf8

/-!
# Percent coding and form coding

A byte is written as `%` and two upper-case hexadecimal digits. Decoding takes digits of either
case, and a `%` without two of them stands for itself.

The `application/x-www-form-urlencoded` form of a query has pairs of a key and a value. A space is
written as `+` there, and every byte other than an ASCII letter or digit or one of `*`, `-`, `.` and
`_` as a percent triplet.
-/

namespace TunnelSync.Url

/-- The value of a hexadecimal digit. -/
def hexValue? (c : Char) : Option Nat :=
  if '0' ≤ c && c ≤ '9' then some (c.toNat - 0x30)
  else if 'a' ≤ c && c ≤ 'f' then some (c.toNat - 0x57)
  else if 'A' ≤ c && c ≤ 'F' then some (c.toNat - 0x37)
  else none

/-- The upper-case hexadecimal digit of a value below 16. -/
def hexDigit (n : Nat) : Char := if n < 10 then Char.ofNat (0x30 + n) else Char.ofNat (0x37 + n)

/-- The triplet of a byte. -/
def percentByte (b : UInt8) : Text := ['%', hexDigit (b.toNat / 16), hexDigit (b.toNat % 16)]

/-- The text with the triplets of the bytes of each character in `encoded`, and of each character
beyond ASCII. -/
def percentEncode (encoded : Char → Bool) (t : Text) : Text :=
  t.flatMap fun c =>
    if c.toNat ≥ 0x80 || encoded c then (String.utf8EncodeChar c).flatMap percentByte else [c]

/-- The value of a hexadecimal digit given as a byte. -/
def hexByte? (b : UInt8) : Option Nat := hexValue? (Char.ofNat b.toNat)

/-- The bytes with each triplet replaced by the byte it stands for. -/
def percentDecode : Bytes → Bytes
  | [] => []
  | b :: bs =>
      if b == 0x25 then
        match bs with
        | h :: l :: rest =>
            match hexByte? h, hexByte? l with
            | some x, some y => UInt8.ofNat (16 * x + y) :: percentDecode rest
            | _, _ => b :: percentDecode (h :: l :: rest)
        | bs => b :: percentDecode bs
      else b :: percentDecode bs
termination_by bs => bs.length

/-! ### Form coding -/

namespace Form

/-- Whether a byte stands for itself. -/
def isPlain (b : UInt8) : Bool :=
  let c := Char.ofNat b.toNat
  b < 0x80 && (c.isAlphanum || c == '*' || c == '-' || c == '.' || c == '_')

/-- The form of one byte. -/
def encodeByte (b : UInt8) : Text :=
  if isPlain b then [Char.ofNat b.toNat] else if b == 0x20 then ['+'] else percentByte b

/-- The form of a key or a value. -/
def encode (t : Text) : Text := (Text.encode t).flatMap encodeByte

/-- The key or value of a form; ill-formed bytes become U+FFFD. -/
def decode (t : Text) : Text :=
  Text.decodeLossy (percentDecode (Text.encode (t.map fun c => if c == '+' then ' ' else c)))

/-- Key and value of one piece of a query: what stands before and behind its first `=`. -/
def decodePair (piece : Text) : Text × Text :=
  (decode (piece.takeWhile (· != '=')), decode ((piece.dropWhile (· != '=')).drop 1))

/-- The pairs of a query, in order. Empty pieces are no pairs. -/
def pairs (query : Text) : List (Text × Text) :=
  ((Text.fields '&' query).filter (!·.isEmpty)).map decodePair

/-- The form of a pair. -/
def encodePair (pair : Text × Text) : Text := encode pair.1 ++ '=' :: encode pair.2

/-- The query of some pairs. -/
def encodePairs (ps : List (Text × Text)) : Text := List.intercalate ['&'] (ps.map encodePair)

end Form

end TunnelSync.Url
