import TunnelSync.Proofs.Text.Cut

/-!
# The lines that a text is made of

A line has no line feed in it. It ends with one, or with a carriage return and a line feed, or,
where it is the last, with the text. A carriage return before a line feed may be read as part of the
line as well as of its ending; since it is blank, the line says the same either way.

* `HasLines` : a text and the lines it is made of
* `exists_hasLines` : every text is made of lines
* `LineAdded` : a text with one line more
* `HasLines.map_trim` : what is read line by line, but for blanks at the ends
-/

namespace TunnelSync.Text

/-! ### Blanks at the ends -/

/-- A text of blanks. -/
def IsBlankLine (l : Text) : Prop := ∀ c ∈ l, isBlank c = true

-- over the characters of the line: the instance for a finite type would go through all there are
instance (l : Text) : Decidable (IsBlankLine l) := List.decidableBAll (isBlank · = true) l

theorem trim_eq_nil_iff {l : Text} : trim l = [] ↔ IsBlankLine l := by
  have hrest : trim l = [] ↔ ∀ c ∈ l.dropWhile isBlank, isBlank c = true :=
    List.rdropWhile_eq_nil_iff
  rw [hrest]
  constructor
  · intro h c hc
    rw [← List.takeWhile_append_dropWhile (p := isBlank) (l := l), List.mem_append] at hc
    rcases hc with hc | hc
    · exact List.mem_takeWhile_imp hc
    · exact h c hc
  · intro h c hc
    exact h c ((List.dropWhile_suffix _).subset hc)

theorem trim_concat {l : Text} {c : Char} (hc : isBlank c = true) : trim (l ++ [c]) = trim l := by
  unfold trim
  rw [List.dropWhile_append]
  cases hrest : l.dropWhile isBlank with
  | nil => simp [trimEnd, hc]
  | cons d rest => exact List.rdropWhile_concat_pos _ _ _ hc

theorem trim_dropReturn (l : Text) : trim (dropReturn l) = trim l := by
  unfold dropReturn
  split
  next h =>
    have hl := List.dropLast_append_getLast? '\r' h
    conv_rhs => rw [← hl, trim_concat (by decide)]
  next => rfl

/-! ### Lines -/

/-- The texts that are made of the given lines. -/
inductive HasLines : Text → List Text → Prop
  /-- Nothing is left. -/
  | nil : HasLines [] []
  /-- The last line may lack its ending. -/
  | last {l : Text} (hl : '\n' ∉ l) (hne : l ≠ []) : HasLines l [l]
  /-- A line, a line feed and the rest. -/
  | feed {l t : Text} {ls : List Text} (hl : '\n' ∉ l) (h : HasLines t ls) :
      HasLines (l ++ '\n' :: t) (l :: ls)
  /-- A line, a carriage return, a line feed and the rest. -/
  | returnFeed {l t : Text} {ls : List Text} (hl : '\n' ∉ l) (h : HasLines t ls) :
      HasLines (l ++ '\r' :: '\n' :: t) (l :: ls)

/-- Every text is made of lines. -/
theorem exists_hasLines (t : Text) : ∃ ls, HasLines t ls := by
  induction t with
  | nil => exact ⟨[], .nil⟩
  | cons c t ih =>
      obtain ⟨ls, h⟩ := ih
      by_cases hc : c = '\n'
      · subst hc
        exact ⟨[] :: ls, .feed (l := []) nofun h⟩
      · have hline {l : Text} (hl : '\n' ∉ l) : '\n' ∉ c :: l := by simp [Ne.symm hc, hl]
        -- the character belongs to the first line, whatever ends it
        cases h with
        | nil => exact ⟨[[c]], .last (hline nofun) nofun⟩
        | last hl hne => exact ⟨[c :: t], .last (hline hl) nofun⟩
        | feed hl h => exact ⟨_, .feed (hline hl) h⟩
        | returnFeed hl h => exact ⟨_, .returnFeed (hline hl) h⟩

/-- A text behind which a line begins: nothing, or what ends with a line feed. -/
def IsEnded (t : Text) : Prop := ∀ c, t.getLast? = some c → c = '\n'

theorem IsEnded.of_append {s t : Text} (h : IsEnded (s ++ t)) : IsEnded t := by
  intro c hc
  exact h c (by rw [List.getLast?_append, hc, Option.some_or])

/-- Texts in a row have their lines in a row, if the first text ends with a line. -/
theorem HasLines.append {s t : Text} {ls ms : List Text} (hs : HasLines s ls) (hend : IsEnded s)
    (ht : HasLines t ms) : HasLines (s ++ t) (ls ++ ms) := by
  induction hs with
  | nil => exact ht
  | @last l hl hne =>
      -- the text would end with a character of a line
      have hlast := List.getLast?_eq_some_getLast hne
      have hmem := List.getLast_mem hne
      rw [hend _ hlast] at hmem
      exact absurd hmem hl
  | @feed l u ls hl h ih =>
      rw [List.append_assoc, List.cons_append, List.cons_append]
      exact .feed hl (ih (IsEnded.of_append (s := l ++ ['\n']) (by simpa using hend)))
  | @returnFeed l u ls hl h ih =>
      rw [List.append_assoc, List.cons_append, List.cons_append, List.cons_append]
      exact .returnFeed hl (ih (IsEnded.of_append (s := l ++ ['\r', '\n']) (by simpa using hend)))

/-- The text `t` becomes `t'` by a line that is put in where a line begins. -/
def LineAdded (t l t' : Text) : Prop :=
  ∃ before after ending, t = before ++ after ∧ IsEnded before ∧ '\n' ∉ l ∧
    (ending = ['\n'] ∨ ending = ['\r', '\n']) ∧ t' = before ++ (l ++ ending ++ after)

/-- The other lines stay as they are. -/
theorem LineAdded.exists_hasLines {t l t' : Text} (h : LineAdded t l t') :
    ∃ front back, HasLines t (front ++ back) ∧ HasLines t' (front ++ l :: back) := by
  obtain ⟨before, after, ending, rfl, hend, hl, hending, rfl⟩ := h
  obtain ⟨front, hfront⟩ := Text.exists_hasLines before
  obtain ⟨back, hback⟩ := Text.exists_hasLines after
  refine ⟨front, back, hfront.append hend hback, hfront.append hend ?_⟩
  rcases hending with rfl | rfl
  · simpa using HasLines.feed hl hback
  · simpa using HasLines.returnFeed hl hback

/-! ### The lines as they are read -/

theorem fields_of_not_mem {sep : Char} {l : Text} (hl : sep ∉ l) : fields sep l = [l] := by
  rw [fields_eq_splitOn, List.splitOn_eq_singleton hl]

theorem lines_of_not_mem {l : Text} (hl : '\n' ∉ l) (hne : l ≠ []) : lines l = [l] := by
  simp [lines, fields_of_not_mem hl, hne]

theorem lines_append_cons {l t : Text} (hl : '\n' ∉ l) :
    lines (l ++ '\n' :: t) = dropReturn l :: lines t := by
  have hfields : fields '\n' (l ++ '\n' :: t) = l :: fields '\n' t := by
    rw [fields_eq_splitOn, List.splitOn_append_cons_self, List.splitOn_eq_singleton hl,
      fields_eq_splitOn, List.singleton_append]
  obtain ⟨f, fs, ht⟩ := List.exists_cons_of_ne_nil (fields_ne_nil '\n' t)
  simp [lines, hfields, ht]

/-- Line by line, the text says what its lines say. -/
theorem HasLines.map_trim {t : Text} {ls : List Text} (h : HasLines t ls) :
    (lines t).map trim = ls.map trim := by
  induction h with
  | nil => rfl
  | last hl hne => rw [lines_of_not_mem hl hne]
  | feed hl h ih =>
      rw [lines_append_cons hl, List.map_cons, List.map_cons, trim_dropReturn, ih]
  | @returnFeed l t ls hl h ih =>
      have hreturn : '\n' ∉ l ++ ['\r'] := by simpa using hl
      have htext : l ++ '\r' :: '\n' :: t = (l ++ ['\r']) ++ '\n' :: t := by simp
      rw [htext, lines_append_cons hreturn, List.map_cons, List.map_cons, trim_dropReturn,
        trim_concat (by decide), ih]

end TunnelSync.Text
