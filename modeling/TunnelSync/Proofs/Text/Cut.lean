import Mathlib.Data.List.DropRight
import TunnelSync.Text.Class

/-!
# Cutting texts

* `exists_fields_cons`, `head?_of_fields` : the first piece of a text
* `fields_eq_splitOn` : the pieces of a text are those of a list
* `mem_of_mem_fields`, `mem_intercalate` : the characters of pieces and of joined texts
* `mem_words_iff` : the words of a text are what blanks enclose in it
* `exists_dropTrailing_append` : what is dropped at the end of a text
* `trim_eq_self_iff` : the texts that are not trimmed
-/

namespace TunnelSync.Text

/-! ### Pieces -/

theorem fields_cons_self (sep : Char) (t : Text) : fields sep (sep :: t) = [] :: fields sep t :=
  if_pos rfl

/-- A character that does not separate goes to the first piece. -/
theorem exists_fields_cons {c sep : Char} (h : c ≠ sep) (t : Text) :
    ∃ f fs, fields sep t = f :: fs ∧ fields sep (c :: t) = (c :: f) :: fs := by
  obtain ⟨f, fs, hf⟩ := List.exists_cons_of_ne_nil (fields_ne_nil sep t)
  exact ⟨f, fs, hf, by rw [fields, if_neg h, hf]⟩

/-- The first piece begins as the text does, unless that begins with the separator. -/
theorem head?_of_fields {sep c : Char} {t f : Text} {fs : List Text} (h : fields sep t = f :: fs)
    (hc : c ≠ sep) : f.head? = some c ↔ t.head? = some c := by
  cases t with
  | nil =>
      cases h
      rfl
  | cons d t =>
      by_cases hd : d = sep
      · subst hd
        cases (fields_cons_self d t).symm.trans h
        simp [Ne.symm hc]
      · obtain ⟨_, _, -, hcons⟩ := exists_fields_cons hd t
        cases hcons.symm.trans h
        rfl

theorem fields_eq_splitOn (sep : Char) (t : Text) : fields sep t = t.splitOn sep := by
  induction t with
  | nil => rfl
  | cons c t ih =>
      rw [List.splitOn_cons_eq_if_modifyHead, ← ih]
      by_cases hc : c = sep
      · rw [hc, fields_cons_self, if_pos (by simp)]
      · obtain ⟨f, fs, hf, hcons⟩ := exists_fields_cons hc t
        rw [hcons, hf, if_neg (by simpa using hc), List.modifyHead_cons]

/-- The characters of a piece are those of the text that do not separate. -/
theorem mem_of_mem_fields {sep : Char} {t f : Text} {c : Char} (hf : f ∈ fields sep t)
    (hc : c ∈ f) : c ∈ t ∧ c ≠ sep := by
  induction t generalizing f with
  | nil =>
      rw [fields, List.mem_singleton] at hf
      rw [hf] at hc
      cases hc
  | cons d t ih =>
      have htail {g : Text} (hg : g ∈ fields sep t) (hc : c ∈ g) : c ∈ d :: t ∧ c ≠ sep :=
        (ih hg hc).imp_left fun h => List.mem_cons_of_mem d h
      by_cases hd : d = sep
      · rw [hd, fields_cons_self, List.mem_cons] at hf
        rcases hf with rfl | hf
        · cases hc
        · exact htail hf hc
      · obtain ⟨g, gs, ht, hcons⟩ := exists_fields_cons hd t
        rw [hcons, List.mem_cons] at hf
        rcases hf with rfl | hf
        · rcases List.mem_cons.mp hc with rfl | hc
          · exact ⟨by simp, hd⟩
          · exact htail (g := g) (by simp [ht]) hc
        · exact htail (by simp [ht, hf]) hc

/-- What stands in joined texts stands in one of them or in a separator. -/
theorem mem_intercalate {sep : Text} {ts : List Text} {c : Char} (h : c ∈ sep.intercalate ts) :
    c ∈ sep ∨ ∃ t ∈ ts, c ∈ t := by
  induction ts with
  | nil => cases h
  | cons t ts ih =>
      cases ts with
      | nil => exact .inr ⟨t, by simp, by simpa using h⟩
      | cons u us =>
          rw [List.intercalate_cons_cons, List.mem_append, List.mem_append] at h
          rcases h with (h | h) | h
          · exact .inr ⟨t, by simp, h⟩
          · exact .inl h
          · exact (ih h).imp_right fun ⟨s, hs, hc⟩ => ⟨s, by simp [hs], hc⟩

/-! ### Words -/

/-- A text without blanks. -/
def IsSolid (t : Text) : Prop := ∀ c ∈ t, isBlank c = false

/-- A word that stands in a text on its own: blanks, or the ends of the text, are around it. -/
def HasWord (w t : Text) : Prop :=
  w ≠ [] ∧ IsSolid w ∧
    ∃ before after, t = before ++ w ++ after ∧ (∀ c, before.getLast? = some c → isBlank c = true) ∧
      ∀ c, after.head? = some c → isBlank c = true

theorem IsSolid.eq_nil_of_getLast {t : Text} (h : IsSolid t)
    (hblank : ∀ c, t.getLast? = some c → isBlank c = true) : t = [] := by
  cases hlast : t.getLast? with
  | none => exact List.getLast?_eq_none_iff.mp hlast
  | some c =>
      have hc := h c (List.mem_of_getLast? hlast)
      rw [hblank c hlast] at hc
      cases hc

theorem IsSolid.eq_nil_of_head {t : Text} (h : IsSolid t)
    (hblank : ∀ c, t.head? = some c → isBlank c = true) : t = [] := by
  cases t with
  | nil => rfl
  | cons c t =>
      have hc := h c (by simp)
      rw [hblank c rfl] at hc
      cases hc

theorem hasWord_solid_iff {w t : Text} (ht : IsSolid t) : HasWord w t ↔ w ≠ [] ∧ w = t := by
  constructor
  · rintro ⟨hne, -, before, after, rfl, hbefore, hafter⟩
    obtain rfl : before = [] :=
      IsSolid.eq_nil_of_getLast (fun c hc => ht c (by simp [hc])) hbefore
    obtain rfl : after = [] := IsSolid.eq_nil_of_head (fun c hc => ht c (by simp [hc])) hafter
    exact ⟨hne, by simp⟩
  · rintro ⟨hne, rfl⟩
    exact ⟨hne, ht, [], [], by simp, nofun, nofun⟩

/-- The first blank ends the first word. -/
theorem hasWord_append_blank_iff {w u t : Text} {c : Char} (hu : IsSolid u)
    (hc : isBlank c = true) : HasWord w (u ++ c :: t) ↔ (w ≠ [] ∧ w = u) ∨ HasWord w t := by
  have hnot {v : Text} (hv : IsSolid v) : c ∉ v := fun h => by
    have hsolid := hv c h
    rw [hc] at hsolid
    cases hsolid
  constructor
  · rintro ⟨hne, hw, before, after, heq, hbefore, hafter⟩
    rw [List.append_assoc, List.append_eq_append_iff] at heq
    rcases heq with ⟨more, rfl, hmore⟩ | ⟨more, rfl, hmore⟩
    · -- the word stands behind the blank
      cases more with
      | nil =>
          obtain ⟨d, w, rfl⟩ := List.exists_cons_of_ne_nil hne
          obtain ⟨rfl, -⟩ := List.cons.inj hmore
          exact absurd (by simp) (hnot hw)
      | cons d more =>
          obtain ⟨rfl, rfl⟩ := List.cons.inj hmore
          refine .inr ⟨hne, hw, more, after, by simp, fun x hx => hbefore x ?_, hafter⟩
          simp [List.getLast?_append, List.getLast?_cons, hx]
    · -- the word begins before the blank
      obtain rfl : before = [] :=
        IsSolid.eq_nil_of_getLast (fun x hx => hu x (by simp [hx])) hbefore
      rcases List.append_eq_append_iff.mp hmore with ⟨rest, rfl, rfl⟩ | ⟨rest, rfl, hrest⟩
      · obtain rfl : rest = [] := by
          refine IsSolid.eq_nil_of_head (fun x hx => hu x (by simp [hx])) fun x hx => hafter x ?_
          simp [List.head?_append, hx]
        exact .inl ⟨hne, by simp⟩
      · cases rest with
        | nil => exact .inl ⟨hne, by simp⟩
        | cons d rest =>
            obtain ⟨rfl, -⟩ := List.cons.inj hrest
            exact absurd (by simp) (hnot hw)
  · rintro (⟨hne, rfl⟩ | ⟨hne, hw, before, after, rfl, hbefore, hafter⟩)
    · refine ⟨hne, hu, [], c :: t, by simp, nofun, fun x hx => ?_⟩
      cases hx
      exact hc
    · refine ⟨hne, hw, u ++ c :: before, after, by simp, fun x hx => ?_, hafter⟩
      cases hlast : before.getLast? with
      | none =>
          obtain rfl := List.getLast?_eq_none_iff.mp hlast
          simp at hx
          exact hx ▸ hc
      | some y =>
          simp only [List.getLast?_append, List.getLast?_cons, hlast, Option.getD_some,
            Option.some_or] at hx
          exact hbefore x (hlast.trans hx)

theorem mem_wordsFrom_iff {w word t : Text} (hword : IsSolid word) :
    w ∈ wordsFrom word t ↔ HasWord w (word.reverse ++ t) := by
  have hrev {v : Text} (hv : IsSolid v) : IsSolid v.reverse :=
    fun c hc => hv c (List.mem_reverse.mp hc)
  induction t generalizing word with
  | nil =>
      rw [List.append_nil, hasWord_solid_iff (hrev hword)]
      cases word with
      | nil => simp [wordsFrom]
      | cons c word =>
          simp only [wordsFrom, List.isEmpty_cons, Bool.false_eq_true, if_false,
            List.mem_singleton]
          exact ⟨fun h => ⟨by simp [h], h⟩, (·.2)⟩
  | cons c t ih =>
      by_cases hc : isBlank c = true
      · rw [hasWord_append_blank_iff (hrev hword) hc]
        have hrest := ih (show IsSolid [] from nofun)
        cases word with
        | nil =>
            simp only [wordsFrom, hc, if_true, List.isEmpty_nil, hrest]
            simp
        | cons d word =>
            simp only [wordsFrom, hc, if_true, List.isEmpty_cons, Bool.false_eq_true, if_false,
              List.mem_cons, hrest]
            refine or_congr ⟨fun h => ⟨by simp [h], h⟩, (·.2)⟩ ?_
            simp
      · have hsolid : IsSolid (c :: word) := by
          intro d hd
          rcases List.mem_cons.mp hd with rfl | hd
          · simpa using hc
          · exact hword d hd
        have hrest := ih hsolid
        rw [List.reverse_cons, List.append_assoc] at hrest
        simpa [wordsFrom, hc] using hrest

/-- The words of a text are those that stand in it on their own. -/
theorem mem_words_iff {w t : Text} : w ∈ words t ↔ HasWord w t := mem_wordsFrom_iff nofun

/-! ### The end of a text -/

theorem exists_rdropWhile_append {α : Type} [DecidableEq α] (a : α) (l : List α) :
    ∃ n, l = l.rdropWhile (· == a) ++ List.replicate n a := by
  induction l using List.reverseRecOn with
  | nil => exact ⟨0, rfl⟩
  | append_singleton l b ih =>
      by_cases hb : b = a
      · obtain ⟨n, hn⟩ := ih
        subst hb
        refine ⟨n + 1, ?_⟩
        rw [List.rdropWhile_concat_pos _ _ _ (by simp), List.replicate_succ', ← List.append_assoc,
          ← hn]
      · refine ⟨0, ?_⟩
        rw [List.rdropWhile_concat_neg _ _ _ (by simpa using hb)]
        simp

theorem exists_dropTrailing_append (c : Char) (t : Text) :
    ∃ n, t = dropTrailing c t ++ List.replicate n c :=
  exists_rdropWhile_append c t

theorem mem_dropTrailing_iff {c d : Char} (hc : c ≠ d) (t : Text) :
    c ∈ dropTrailing d t ↔ c ∈ t := by
  obtain ⟨n, hn⟩ := exists_dropTrailing_append d t
  conv_rhs => rw [hn]
  simp [hc]

theorem dropTrailing_concat (c : Char) (t : Text) : dropTrailing c (t ++ [c]) = dropTrailing c t :=
  List.rdropWhile_concat_pos _ _ _ (by simp)

theorem dropTrailing_idem (c : Char) (t : Text) :
    dropTrailing c (dropTrailing c t) = dropTrailing c t :=
  List.rdropWhile_idempotent _ t

/-- Nothing is trimmed if there is no blank at either end. -/
theorem trim_eq_self_iff {t : Text} : trim t = t ↔
    (∀ c ∈ t.head?, isBlank c = false) ∧ ∀ c ∈ t.getLast?, isBlank c = false := by
  have hhead : t.dropWhile isBlank = t ↔ ∀ c ∈ t.head?, isBlank c = false := by
    cases t <;> simp [List.dropWhile_eq_self_iff]
  have hlast : t.rdropWhile isBlank = t ↔ ∀ c ∈ t.getLast?, isBlank c = false := by
    rcases t.eq_nil_or_concat with rfl | ⟨t, c, rfl⟩ <;> simp [List.rdropWhile_eq_self_iff]
  rw [← hhead, ← hlast]
  constructor
  · intro h
    have hlength : t.length ≤ (t.dropWhile isBlank).length := by
      conv_lhs => rw [← h]
      exact (List.rdropWhile_prefix isBlank (t.dropWhile isBlank)).length_le
    have heq : t.dropWhile isBlank = t := (List.dropWhile_suffix isBlank).eq_of_length_le hlength
    rw [trim, heq] at h
    exact ⟨heq, h⟩
  · rintro ⟨h, h'⟩
    rw [trim, h]
    exact h'

end TunnelSync.Text
