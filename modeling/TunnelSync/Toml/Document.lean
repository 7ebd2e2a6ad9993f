import TunnelSync.Toml.Scalar

/-!
# TOML documents

`Toml.parse?` reads a whole document: lines of keys with values, and headers that open a table. A
key is given once, a table is opened once, and values are not nested deeper than `maxDepth`.

Readers of values take `fuel`, more than twice the length of the text they read: of two calls one
within the other at least one passes a character.
-/

namespace TunnelSync.Toml

/-- The levels to which values nest, and the parts that a key has, stay below this number. -/
def maxDepth : Nat := 80

/-! ### Keys -/

/-- A character of a key without quotes. -/
def isBare (c : Char) : Bool := c.isAlphanum || c == '_' || c == '-'

/-- One part of a key. -/
def keyPart? : Text → Option (Text × Text)
  | '"' :: t => basicString? 0 t
  | '\'' :: t => literalString? t
  | t =>
      let name := t.takeWhile isBare
      if name.isEmpty then none else some (name, t.dropWhile isBare)

/-- The parts of a key, with full stops between them. -/
def key? : Nat → Text → Option (List Text × Text)
  | 0, _ => none
  | fuel + 1, t => do
      let (part, rest) ← keyPart? (skipSpace t)
      match skipSpace rest with
      | '.' :: more => (key? fuel more).map fun (parts, rest) => (part :: parts, rest)
      | rest => some ([part], rest)

/-- A key with fewer than `maxDepth` parts. -/
def boundedKey? (t : Text) : Option (List Text × Text) :=
  (key? (t.length + 1) t).bind fun (parts, rest) =>
    if parts.length < maxDepth then some (parts, rest) else none

/-! ### Tables -/

/-- The value of a key. -/
def lookup? (key : Text) (es : Entries) : Option Value :=
  (es.find? (·.1 = key)).map (·.2)

/-- The entries with the value of a key changed. -/
def replace (key : Text) (v : Value) (es : Entries) : Entries :=
  es.map fun (k, w) => if k = key then (k, v) else (k, w)

/-- What may be done to the table at the end of a path, given how that table came about. -/
abbrev Edit := Origin → Entries → Option Entries

/-- Edits the table at the end of a path below a table. Tables on the way that are missing are made:
by a dotted key if `dotted`, and such a key does not pass through a table with a header or in
braces. Of tables in double brackets the last one is meant. -/
def editAt (dotted : Bool) (edit : Edit) : List Text → Edit
  | [], origin, es => edit origin es
  | key :: path, _, es =>
      let made : Origin := if dotted then .dotted else .implicit
      match lookup? key es with
      | none => (editAt dotted edit path made []).map fun below => es ++ [(key, .table made below)]
      | some (.table origin below) =>
          if origin = .inline ∨ (dotted ∧ origin = .header) then none
          else
            (editAt dotted edit path origin below).map fun below =>
              replace key (.table origin below) es
      | some (.tables elements) =>
          elements.getLast?.bind fun last =>
            (editAt dotted edit path .header last).map fun last =>
              replace key (.tables (elements.dropLast ++ [last])) es
      | some _ => none

/-- Adds a key that the table does not have. A dotted key adds only to a table that a dotted key
made. -/
def addKey (isDotted : Bool) (key : Text) (v : Value) : Edit := fun origin es =>
  if (lookup? key es).isSome ∨ (isDotted ∧ origin ≠ .dotted) then none else some (es ++ [(key, v)])

/-- Adds the value of a dotted key to a table. -/
def addPath (path : List Text) (v : Value) : Edit := fun origin es =>
  match path.getLast? with
  | some key => editAt true (addKey (1 < path.length) key v) path.dropLast origin es
  | none => none

/-- Opens a table. One that only the header of a table below it has made may be opened later, and
comes behind the others then. -/
def openTable (key : Text) : Edit := fun _ es =>
  match lookup? key es with
  | none => some (es ++ [(key, .table .header [])])
  | some (.table .implicit below) =>
      some (es.filter (·.1 ≠ key) ++ [(key, .table .header below)])
  | some _ => none

/-- Opens one more table of those in double brackets. -/
def openElement (key : Text) : Edit := fun _ es =>
  match lookup? key es with
  | none => some (es ++ [(key, .tables [[]])])
  | some (.tables elements) => some (replace key (.tables (elements ++ [[]])) es)
  | some _ => none

/-! ### Values -/

mutual

/-- A value; `depth` more levels may be nested in it. -/
def value? (fuel depth : Nat) (t : Text) : Option (Value × Text) :=
  match fuel with
  | 0 => none
  | fuel + 1 =>
      match t with
      | '[' :: rest =>
          match depth with
          | 0 => none
          | depth + 1 => (items? fuel depth (skipLines false rest)).map fun (vs, rest) =>
              (.array vs, rest)
      | '\x7b' :: rest =>
          match depth with
          | 0 => none
          | depth + 1 =>
              match skipSpace rest with
              | '\x7d' :: rest => some (.table .inline [], rest)
              | rest => (pairs? fuel depth [] rest).map fun (es, rest) => (.table .inline es, rest)
      | 't' :: 'r' :: 'u' :: 'e' :: rest => some (.boolean true, rest)
      | 'f' :: 'a' :: 'l' :: 's' :: 'e' :: rest => some (.boolean false, rest)
      | t =>
          ((string? t).map fun (s, rest) => (.string s, rest)).or
            (((moment? t).map (.moment, ·)).or
              (((real? t).map fun (r, rest) => (.real r, rest)).or
                ((integer? t).map fun (n, rest) => (.integer n, rest))))

/-- The items of an array behind its bracket or a comma. -/
def items? (fuel depth : Nat) (t : Text) : Option (List Value × Text) :=
  match fuel with
  | 0 => none
  | fuel + 1 =>
      match t with
      | ']' :: rest => some ([], rest)
      | t => do
          let (v, rest) ← value? fuel depth t
          match skipLines false rest with
          | ',' :: rest =>
              (items? fuel depth (skipLines false rest)).map fun (vs, rest) => (v :: vs, rest)
          | ']' :: rest => some ([v], rest)
          | _ => none

/-- The entries of a table in braces behind its brace or a comma. -/
def pairs? (fuel depth : Nat) (es : Entries) (t : Text) : Option (Entries × Text) :=
  match fuel with
  | 0 => none
  | fuel + 1 => do
      let (path, rest) ← boundedKey? t
      let rest ← behind? '=' rest
      let (v, rest) ← value? fuel depth (skipSpace rest)
      let es ← addPath path v .inline es
      match skipSpace rest with
      | ',' :: rest => pairs? fuel depth es rest
      | '\x7d' :: rest => some (es, rest)
      | _ => none

end

/-! ### Whole documents -/

/-- What has been read: all entries, and the path of the table that a header opened last. -/
structure State where
  entries : Entries
  path : List Text
  deriving Repr

/-- A header of one table behind its bracket. -/
def header? (s : State) (t : Text) : Option (State × Text) := do
  let (path, rest) ← boundedKey? t
  let rest ← behind? ']' rest
  let key ← path.getLast?
  let entries ← editAt false (openTable key) path.dropLast .header s.entries
  return (⟨entries, path⟩, ← lineEnd? rest)

/-- A header of one of many tables behind its brackets. -/
def elementHeader? (s : State) (t : Text) : Option (State × Text) := do
  let (path, rest) ← boundedKey? t
  let rest ← behind? ']' rest
  let rest ← behind? ']' rest
  let key ← path.getLast?
  let entries ← editAt false (openElement key) path.dropLast .header s.entries
  return (⟨entries, path⟩, ← lineEnd? rest)

/-- A key with its value. -/
def keyValue? (s : State) (t : Text) : Option (State × Text) := do
  let (path, rest) ← boundedKey? t
  let rest ← behind? '=' rest
  let rest := skipSpace rest
  let (v, rest) ← value? (2 * rest.length + 2) (maxDepth - 1) rest
  let entries ← editAt false (addPath path v) s.path .header s.entries
  return (⟨entries, s.path⟩, ← lineEnd? rest)

/-- The lines of a document. -/
def lines? : Nat → State → Text → Option Entries
  | 0, _, _ => none
  | fuel + 1, s, t =>
      match skipSpace t with
      | [] => some s.entries
      | '#' :: rest => (lineEnd? ('#' :: rest)).bind (lines? fuel s)
      | '[' :: '[' :: rest => (elementHeader? s rest).bind fun (s, rest) => lines? fuel s rest
      | '[' :: rest => (header? s rest).bind fun (s, rest) => lines? fuel s rest
      | t =>
          match newline? t with
          | some rest => lines? fuel s rest
          | none => (keyValue? s t).bind fun (s, rest) => lines? fuel s rest

/-- The entries of a document; a byte order mark before it does not count. -/
def parse? (t : Text) : Option Entries :=
  let t := match t with
    | c :: rest => if c.toNat = 0xFEFF then rest else t
    | [] => []
  lines? (t.length + 1) ⟨[], []⟩ t

end TunnelSync.Toml
