/-!
# Text

A `Text` is a list of characters: names, patterns, arguments and program output are all read and
written character by character, so the operations below are short recursions on the list.

* `Text.after?` : the rest of a text behind a given beginning
* `Text.fields` : the pieces between the occurrences of a separator
* `Text.dropTrailing` : a text without the given character at its end
* `Text.replace` : every leftmost, non-overlapping occurrence of a word replaced
* `Text.ofNat` : decimal notation
-/

namespace TunnelSync

/-- A text is the list of its characters. -/
abbrev Text := List Char

/-- Bytes as they travel over a connection or stand in a file. -/
abbrev Bytes := List UInt8

instance : Coe String Text := ⟨String.toList⟩

namespace Text

/-- What follows `p` in a text that begins with `p`. -/
def after? : Text → Text → Option Text
  | [], t => some t
  | _ :: _, [] => none
  | c :: p, d :: t => if c = d then after? p t else none

theorem after?_eq_some_iff {p t r : Text} : after? p t = some r ↔ t = p ++ r := by
  induction p generalizing t with
  | nil => simp [after?, eq_comm]
  | cons c p ih =>
      cases t with
      | nil => simp [after?]
      | cons d t =>
          by_cases h : c = d
          · subst h; simp [after?, ih]
          · simp [after?, h, Ne.symm h]

/-- Whether `t` begins with `p`. -/
def startsWith (p t : Text) : Bool := (after? p t).isSome

theorem startsWith_iff {p t : Text} : startsWith p t = true ↔ p <+: t := by
  simp only [startsWith, Option.isSome_iff_exists, after?_eq_some_iff]
  exact ⟨fun ⟨r, h⟩ => ⟨r, h.symm⟩, fun ⟨r, h⟩ => ⟨r, h.symm⟩⟩

/-- The pieces of a text between the separators; a text without one is a single piece. -/
def fields (sep : Char) : Text → List Text
  | [] => [[]]
  | c :: t =>
      if c = sep then [] :: fields sep t
      else match fields sep t with
        | [] => [[c]]
        | f :: fs => (c :: f) :: fs

theorem fields_ne_nil (sep : Char) (t : Text) : fields sep t ≠ [] := by
  cases t with
  | nil => simp [fields]
  | cons c t =>
      simp only [fields]
      split
      · simp
      · split <;> simp

/-- Joining the pieces again gives the text back. -/
theorem intercalate_fields (sep : Char) (t : Text) : [sep].intercalate (fields sep t) = t := by
  induction t with
  | nil => rfl
  | cons c t ih =>
      simp only [fields]
      split
      next h =>
        cases hf : fields sep t with
        | nil => exact absurd hf (fields_ne_nil sep t)
        | cons f fs => rw [hf] at ih; simp [List.intercalate, List.intersperse, h] at ih ⊢; exact ih
      next h =>
        cases hf : fields sep t with
        | nil => exact absurd hf (fields_ne_nil sep t)
        | cons f fs =>
            rw [hf] at ih
            cases fs with
            | nil => simpa [List.intercalate] using ih
            | cons g gs => simpa [List.intercalate] using ih

/-- The text without the occurrences of `c` at its end. -/
def dropTrailing (c : Char) (t : Text) : Text :=
  (t.reverse.dropWhile (· == c)).reverse

theorem dropTrailing_isPrefix (c : Char) (t : Text) : dropTrailing c t <+: t := by
  have h : t.reverse.dropWhile (· == c) <:+ t.reverse := List.dropWhile_suffix _
  simpa [dropTrailing] using List.reverse_prefix.mpr h

/-- Replacement behind the first `skip` characters, which belong to an occurrence already
replaced. -/
def replaceFrom (p r : Text) : Nat → Text → Text
  | _, [] => []
  | skip + 1, _ :: t => replaceFrom p r skip t
  | 0, c :: t =>
      if startsWith p (c :: t) then r ++ replaceFrom p r (p.length - 1) t
      else c :: replaceFrom p r 0 t

/-- The text with every leftmost, non-overlapping occurrence of the non-empty word `p` replaced
by `r`. -/
def replace (p r t : Text) : Text :=
  if p = [] then t else replaceFrom p r 0 t

/-- Whether the word occurs in the text. -/
def occursIn (p : Text) : Text → Bool
  | [] => p.isEmpty
  | c :: t => startsWith p (c :: t) || occursIn p t

/-- Decimal notation of a natural number. -/
def ofNat (n : Nat) : Text := Nat.toDigits 10 n

/-- Decimal notation of an integer, with a minus sign before a negative one. -/
def ofInt : Int → Text
  | .ofNat n => ofNat n
  | .negSucc n => '-' :: ofNat (n + 1)

/-- The lower-case form of an ASCII letter, any other character itself. -/
def asciiLower (c : Char) : Char := c.toLower

end Text

end TunnelSync
