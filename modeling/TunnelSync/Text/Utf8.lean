import TunnelSync.Text.Basic

/-!
# UTF-8

`encode` writes a text as UTF-8. `decodeLossy` reads bytes as UTF-8 and puts U+FFFD for each
maximal ill-formed piece: a lead byte with the continuation bytes that may follow it counts as one
piece, and the byte that breaks the sequence is read anew. `decode?` accepts the well-formed
sequences only.
-/

namespace TunnelSync.Text

/-- The UTF-8 form of a text. -/
def encode (t : Text) : Bytes := t.flatMap String.utf8EncodeChar

/-- Distinct texts have distinct forms. -/
theorem encode_injective {s t : Text} (h : encode s = encode t) : s = t := by
  have hutf8 : s.utf8Encode = t.utf8Encode := congrArg List.toByteArray h
  have harray := congrArg ByteArray.utf8Decode? hutf8
  simpa using harray

namespace Utf8

/-- A character of which some bytes have been read: `need` bytes are missing, the next one lies
between `lower` and `upper`, and `value` holds the bits so far. -/
structure Partial where
  need : Nat
  lower : Nat
  upper : Nat
  value : Nat
  deriving DecidableEq, Repr

/-- The character that stands for ill-formed bytes. -/
def replacement : Char := Char.ofNat 0xFFFD

/-- The first byte of a character: what it yields at once, and what it leaves open. The bounds of
the second byte keep out overlong forms, surrogates and values beyond U+10FFFF. -/
def lead (b : Nat) : Text × Option Partial :=
  if b < 0x80 then ([Char.ofNat b], none)
  else if 0xC2 ≤ b && b ≤ 0xDF then ([], some ⟨1, 0x80, 0xBF, b - 0xC0⟩)
  else if b == 0xE0 then ([], some ⟨2, 0xA0, 0xBF, 0⟩)
  else if b == 0xED then ([], some ⟨2, 0x80, 0x9F, 0xD⟩)
  else if 0xE1 ≤ b && b ≤ 0xEF then ([], some ⟨2, 0x80, 0xBF, b - 0xE0⟩)
  else if b == 0xF0 then ([], some ⟨3, 0x90, 0xBF, 0⟩)
  else if 0xF1 ≤ b && b ≤ 0xF3 then ([], some ⟨3, 0x80, 0xBF, b - 0xF0⟩)
  else if b == 0xF4 then ([], some ⟨3, 0x80, 0x8F, 4⟩)
  else ([replacement], none)

/-- One byte, after a partly read character or at the beginning of one. -/
def next (open? : Option Partial) (b : Nat) : Text × Option Partial :=
  match open? with
  | none => lead b
  | some p =>
      if p.lower ≤ b && b ≤ p.upper then
        let value := p.value * 64 + (b - 0x80)
        if p.need == 1 then ([Char.ofNat value], none)
        else ([], some ⟨p.need - 1, 0x80, 0xBF, value⟩)
      else
        let (out, rest) := lead b
        (replacement :: out, rest)

/-- The text that the bytes yield behind a partly read character. -/
def run (open? : Option Partial) : Bytes → Text
  | [] => if open?.isSome then [replacement] else []
  | b :: bs =>
      let (out, rest) := next open? b.toNat
      out ++ run rest bs

end Utf8

/-- The text of the bytes, with U+FFFD for each maximal ill-formed piece. -/
def decodeLossy (bs : Bytes) : Text := Utf8.run none bs

/-- The text of well-formed bytes: reading them loses nothing exactly when writing the result gives
them back. -/
def decode? (bs : Bytes) : Option Text :=
  let t := decodeLossy bs
  if encode t = bs then some t else none

/-- Accepted bytes are the UTF-8 form of the text they yield. -/
theorem encode_of_decode? {bs : Bytes} {t : Text} (h : decode? bs = some t) : encode t = bs := by
  simp only [decode?] at h
  split at h
  next he => cases h; exact he
  next => cases h

/-- Overlong forms, surrogates and what lies beyond U+10FFFF are not characters. -/
example : decode? [0xC0, 0x80] = none ∧ decode? [0xE0, 0x80, 0x80] = none
    ∧ decode? [0xED, 0xA0, 0x80] = none ∧ decode? [0xF4, 0x90, 0x80, 0x80] = none
    ∧ decode? [0xF4, 0x8F, 0xBF, 0xBF] = some [Char.ofNat 0x10FFFF] := by decide

/-- A broken sequence counts once, and the byte that breaks it is read anew. -/
example : decodeLossy [0xF0, 0x9F, 0x41, 0xFF] =
    [Utf8.replacement, 'A', Utf8.replacement] := by decide

end TunnelSync.Text
