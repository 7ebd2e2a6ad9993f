import TunnelSync.Url.Percent

/-!
# Addresses as hosts

A host whose last part is a number is an IPv4 address. It has up to four parts, each in decimal, in
octal behind `0` or in hexadecimal behind `0x`; the last part fills all bytes that are left.

An IPv6 address has eight pieces of 16 bits in hexadecimal, with colons between them. One row of
zero pieces may be left out between two colons, and the last two pieces may be written as an IPv4
address.
-/

namespace TunnelSync.Url

/-! ### IPv4 -/

namespace Ipv4

/-- What a part of a host may be. -/
inductive Part
  /-- Not a number. -/
  | word
  /-- A number of 32 bits. -/
  | number (n : Nat)
  /-- A number that is too large. -/
  | tooLarge
  deriving DecidableEq, Repr

/-- The number that digits of a base denote. -/
def digits? (b : Nat) (t : Text) : Option Nat :=
  t.foldlM (fun n c => (hexValue? c).bind fun d => if d < b then some (n * b + d) else none) 0

/-- The digits of a part and their base. -/
def base : Text → Nat × Text
  | '0' :: 'x' :: rest => (16, rest)
  | '0' :: 'X' :: rest => (16, rest)
  | '0' :: c :: rest => (8, c :: rest)
  | t => (10, t)

/-- Reads a part. A base without digits denotes 0. -/
def readPart (t : Text) : Part :=
  if t.isEmpty then .word
  else
    let (b, ds) := base t
    match digits? b ds with
    | none => .word
    | some n => if n < Nat.pow 2 32 then .number n else .tooLarge

/-- Whether the last part of a host, not counting an empty one behind a final full stop, is a
number. -/
def endsInNumber (host : Text) : Bool :=
  let parts := (Text.fields '.' host).reverse
  let isNumber (part : Text) : Bool :=
    (!part.isEmpty && part.all (·.isDigit)) || readPart part != .word
  match parts with
  | [] :: last :: _ => isNumber last
  | last :: _ => isNumber last
  | [] => false

/-- The values of parts that are all numbers. -/
def numbers? (parts : List Text) : Option (List Nat) :=
  parts.mapM fun part => match readPart part with
    | .number n => some n
    | _ => none

/-- The address of a host that ends in a number. -/
def parse? (host : Text) : Option Nat := do
  let parts := Text.fields '.' host
  let parts := if parts.getLast? == some [] then parts.dropLast else parts
  if parts.length > 4 then none
  else
    let ns ← numbers? parts
    let last ← ns.getLast?
    let leading := ns.dropLast
    if leading.all (· < 256) && last < Nat.pow 256 (4 - leading.length) then
      some (leading.foldl (fun a n => a * 256 + n) 0 * Nat.pow 256 (4 - leading.length) + last)
    else none

/-- Four decimal numbers with full stops between them. -/
def toText (address : Nat) : Text :=
  List.intercalate ['.'] ([Nat.pow 2 24, Nat.pow 2 16, Nat.pow 2 8, 1].map fun w => Text.ofNat (address / w % 256))

end Ipv4

/-! ### IPv6 -/

namespace Ipv6

/-- What an address is written of. -/
inductive Item
  | piece (n : Nat)
  /-- A row of zero pieces, left out. -/
  | gap
  deriving DecidableEq, Repr

/-- A decimal number up to 255 without leading zeros. -/
def byte? (t : Text) : Option Nat :=
  match t with
  | [] => none
  | c :: rest =>
      if t.all (·.isDigit) && (c != '0' || rest.isEmpty) && t.length ≤ 3 then
        let n := t.foldl (fun n c => n * 10 + (c.toNat - 0x30)) 0
        if n < 256 then some n else none
      else none

/-- The two pieces of an IPv4 address. -/
def embedded? (t : Text) : Option (List Item) :=
  match (Text.fields '.' t).mapM byte? with
  | some [a, b, c, d] => some [.piece (a * 256 + b), .piece (c * 256 + d)]
  | _ => none

/-- The value of hexadecimal digits. -/
def hexNumber (t : Text) : Nat := t.foldl (fun n c => n * 16 + (hexValue? c).getD 0) 0

/-- The items from the beginning of a piece on. -/
def items? (t : Text) : Option (List Item) :=
  match t with
  | [] => some []
  | ':' :: rest => (items? rest).map (.gap :: ·)
  | c :: t =>
      let ds := (c :: t.take 3).takeWhile fun d => (hexValue? d).isSome
      match _h : (c :: t).drop ds.length with
      | [] => some [.piece (hexNumber ds)]
      | '.' :: _ => embedded? (c :: t)
      | ':' :: d :: rest =>
          if ds.isEmpty then none else (items? (d :: rest)).map (.piece (hexNumber ds) :: ·)
      | _ => none
termination_by t.length
decreasing_by
  · simp only [List.length_cons]; omega
  · have h := congrArg List.length _h
    simp only [List.length_drop, List.length_cons] at h ⊢
    omega

/-- The items of a whole address, which may begin with two colons but not with one. -/
def allItems? (t : Text) : Option (List Item) :=
  match t with
  | ':' :: ':' :: rest => (items? rest).map (.gap :: ·)
  | ':' :: _ => none
  | t => items? t

/-- The values of items that are all pieces. -/
def pieces? (items : List Item) : Option (List Nat) :=
  items.mapM fun
    | .piece n => some n
    | .gap => none

/-- The eight pieces of an address. A gap stands for at least one piece. -/
def parse? (t : Text) : Option (List Nat) := do
  let items ← allItems? t
  let front ← pieces? (items.takeWhile (· != .gap))
  match items.dropWhile (· != .gap) with
  | [] => if front.length = 8 then some front else none
  | _ :: rest =>
      let back ← pieces? rest
      if front.length + back.length ≤ 7 then
        some (front ++ List.replicate (8 - front.length - back.length) 0 ++ back)
      else none

/-- The hexadecimal digits of a piece. -/
def pieceText (n : Nat) : Text := Nat.toDigits 16 n

/-- The lengths of the zero rows that begin at each piece. -/
def zeroRows : List Nat → List Nat
  | [] => []
  | n :: rest =>
      let rows := zeroRows rest
      (if n = 0 then rows.headD 0 + 1 else 0) :: rows

/-- The address with its first longest row of two or more zeros left out. -/
def toText (pieces : List Nat) : Text :=
  let rows := zeroRows pieces
  let longest := rows.foldl max 0
  if longest < 2 then List.intercalate [':'] (pieces.map pieceText)
  else
    let start := rows.findIdx (· == longest)
    List.intercalate [':'] ((pieces.take start).map pieceText) ++ ':' :: ':'
      :: List.intercalate [':'] ((pieces.drop (start + longest)).map pieceText)

end Ipv6

end TunnelSync.Url
