import Mathlib.Data.List.Basic
import TunnelSync.Text.Basic

/-!
# Words and quotes

Programs that take a command as one text split it into words themselves, and each has its own
quotes. `Quoting.words?` is such a reader: separators end a word, and a quote takes what follows as
it is, up to the next quote of the same kind.

* `Quoting.words?_words`, `Quoting.words?_quoted` : how plain and quoted words are read
* `Quoting.Reads` : how the words of a text are read, as a relation
* `Quoting.Reads.count_lt` : a quote that ends the text is in no word
* `Quoting.count_lt_of_mem` : nor are all of those that stand in a quoted part
* `Quoting.Reads.not_mem` : a reader without doubled quotes puts no quote into a word
* `Quoting.Reads.unquoted` : separators outside quotes are in no word
-/

namespace TunnelSync.Transport

/-- How a reader takes the characters of a command. -/
structure Quoting where
  /-- Ends a word. -/
  separates : Char → Bool
  /-- Begins a quoted part, and ends the one that it has begun. -/
  quotes : Char → Bool
  /-- Whether the quote of a quoted part stands in it, if it is written twice. -/
  doubles : Bool
  /-- Makes the reader do something else than split, unless it is quoted. -/
  acts : Char → Bool

namespace Quoting

/-- A character that is put into a word as it is. -/
def isPlain (q : Quoting) (c : Char) : Bool := !q.separates c && !q.quotes c && !q.acts c

/-- A word that can be written without quotes. -/
def isWord (q : Quoting) (w : Text) : Bool := !w.isEmpty && w.all q.isPlain

/-- The words of a text behind the quote of a quoted part, if it has been begun, and behind a word,
if it has been begun. There are none if the reader does something else than split, or if a quoted
part does not end. -/
def words? (q : Quoting) : Option Char → Option Text → Text → Option (List Text)
  | none, word, [] => some word.toList
  | some _, _, [] => none
  | none, word, c :: t =>
      if q.separates c then (q.words? none none t).map (word.toList ++ ·)
      else if q.quotes c then q.words? (some c) (some (word.getD [])) t
      else if q.acts c then none
      else q.words? none (some (word.getD [] ++ [c])) t
  | some d, word, c :: t =>
      if c = d then
        match t with
        | [] => some word.toList
        | e :: rest =>
            if q.doubles && e == d then q.words? (some d) (some (word.getD [] ++ [d])) rest
            else q.words? none word (e :: rest)
      else q.words? (some d) (some (word.getD [] ++ [c])) t

variable {q : Quoting}

/-! ### Plain and quoted words -/

theorem words?_separates {c : Char} (hc : q.separates c = true) (word : Option Text) (t : Text) :
    q.words? none word (c :: t) = (q.words? none none t).map (word.toList ++ ·) := by
  rw [words?, if_pos hc]

theorem words?_plain {c : Char} (hc : q.isPlain c = true) (word : Option Text) (t : Text) :
    q.words? none word (c :: t) = q.words? none (some (word.getD [] ++ [c])) t := by
  simp only [isPlain, Bool.and_eq_true, Bool.not_eq_true'] at hc
  simp [words?, hc]

theorem isWord_iff {w : Text} :
    q.isWord w = true ↔ w ≠ [] ∧ ∀ c ∈ w, q.isPlain c = true := by
  simp [isWord]

theorem words?_append {w : Text} (hw : ∀ c ∈ w, q.isPlain c = true) (v t : Text) :
    q.words? none (some v) (w ++ t) = q.words? none (some (v ++ w)) t := by
  induction w generalizing v with
  | nil => simp
  | cons c w ih =>
      rw [List.cons_append, words?_plain (hw c (by simp)), ih fun d hd => hw d (by simp [hd])]
      simp

theorem words?_word {w : Text} (hw : q.isWord w = true) {s : Char} (hs : q.separates s = true)
    (t : Text) : q.words? none none (w ++ s :: t) = (q.words? none none t).map (w :: ·) := by
  obtain ⟨hne, hplain⟩ := isWord_iff.mp hw
  cases w with
  | nil => exact absurd rfl hne
  | cons c w =>
      rw [List.cons_append, words?_plain (hplain c (by simp)),
        words?_append fun d hd => hplain d (by simp [hd]), words?_separates hs]
      rfl

/-- Words, each with a separator behind it. -/
theorem words?_words {s : Char} (hs : q.separates s = true) {ws : List Text}
    (hws : ∀ w ∈ ws, q.isWord w = true) (t : Text) :
    q.words? none none (ws.flatMap (· ++ [s]) ++ t) = (q.words? none none t).map (ws ++ ·) := by
  induction ws with
  | nil => simp
  | cons w ws ih =>
      rw [List.flatMap_cons, List.append_assoc, List.append_assoc, List.singleton_append,
        words?_word (hws w (by simp)) hs, ih fun v hv => hws v (by simp [hv]), Option.map_map]
      rfl

theorem words?_opens {d : Char} (hq : q.quotes d = true) (hs : q.separates d = false) (t : Text) :
    q.words? none none (d :: t) = q.words? (some d) (some []) t := by
  rw [words?, if_neg (by simp [hs]), if_pos hq]
  rfl

theorem words?_inside {d : Char} {w : Text} (hd : d ∉ w) (v t : Text) :
    q.words? (some d) (some v) (w ++ t) = q.words? (some d) (some (v ++ w)) t := by
  induction w generalizing v with
  | nil => simp
  | cons c w ih =>
      have hc : c ≠ d := fun h => hd (h ▸ by simp)
      have hw : d ∉ w := fun h => hd (by simp [h])
      rw [List.cons_append, words?.eq_def]
      simp only [if_neg hc, Option.getD_some]
      rw [ih hw, List.append_assoc, List.singleton_append]

/-- A text in quotes is one word. -/
theorem words?_quoted {d : Char} (hq : q.quotes d = true) (hs : q.separates d = false) {w : Text}
    (hd : d ∉ w) : q.words? none none (d :: (w ++ [d])) = some [w] := by
  rw [words?_opens hq hs, words?_inside hd, words?.eq_def]
  simp

/-! ### What is in no word -/

/-- How the words of a text are read, one constructor for each kind of character. -/
inductive Reads (q : Quoting) : Option Char → Option Text → Text → List Text → Prop
  | done (word : Option Text) : Reads q none word [] word.toList
  | separates {c : Char} {word : Option Text} {t : Text} {ws : List Text}
      (hc : q.separates c = true) (h : Reads q none none t ws) :
      Reads q none word (c :: t) (word.toList ++ ws)
  | opens {c : Char} {word : Option Text} {t : Text} {ws : List Text}
      (hs : q.separates c = false) (hc : q.quotes c = true)
      (h : Reads q (some c) (some (word.getD [])) t ws) : Reads q none word (c :: t) ws
  | plain {c : Char} {word : Option Text} {t : Text} {ws : List Text} (hc : q.isPlain c = true)
      (h : Reads q none (some (word.getD [] ++ [c])) t ws) : Reads q none word (c :: t) ws
  | closes {d : Char} {word : Option Text} {t : Text} {ws : List Text}
      (h : Reads q none word t ws) : Reads q (some d) word (d :: t) ws
  | doubles {d : Char} {word : Option Text} {t : Text} {ws : List Text} (hd : q.doubles = true)
      (h : Reads q (some d) (some (word.getD [] ++ [d])) t ws) :
      Reads q (some d) word (d :: d :: t) ws
  | inside {c d : Char} {word : Option Text} {t : Text} {ws : List Text} (hc : c ≠ d)
      (h : Reads q (some d) (some (word.getD [] ++ [c])) t ws) : Reads q (some d) word (c :: t) ws

theorem reads_of_words? {quote : Option Char} {word : Option Text} {t : Text} {ws : List Text}
    (h : q.words? quote word t = some ws) : Reads q quote word t ws := by
  fun_induction words? q quote word t generalizing ws with
  | case1 word =>
      obtain rfl := Option.some.inj h
      exact .done word
  | case2 => cases h
  | case3 word c t hc ih =>
      obtain ⟨vs, hvs, rfl⟩ := Option.map_eq_some_iff.mp h
      exact .separates hc (ih hvs)
  | case4 word c t hs hc ih => exact .opens (by simpa using hs) hc (ih h)
  | case5 => cases h
  | case6 word c t hs hq ha ih => exact .plain (by simp [isPlain, hs, hq, ha]) (ih h)
  | case7 word d =>
      obtain rfl := Option.some.inj h
      exact .closes (.done word)
  | case8 word d e rest he ih =>
      simp only [Bool.and_eq_true, beq_iff_eq] at he
      obtain ⟨hd, rfl⟩ := he
      exact .doubles hd (ih h)
  | case9 word d e rest he ih => exact .closes (ih h)
  | case10 d word c t hc ih => exact .inside hc (ih h)

theorem flatten_toList (word : Option Text) : word.toList.flatten = word.getD [] := by
  cases word <;> simp

section
variable {quote : Option Char} {word : Option Text} {t : Text} {ws : List Text}

/-- Characters come into words from the text only. -/
theorem Reads.count_le (h : Reads q quote word t ws) (x : Char) :
    ws.flatten.count x ≤ (word.getD []).count x + t.count x := by
  induction h with
  | done word => simp [flatten_toList]
  | @separates c word t ws hc h ih =>
      rw [List.flatten_append, List.count_append, flatten_toList]
      simp only [Option.getD_none, List.count_nil, List.count_cons] at ih ⊢
      omega
  | opens hs hc h ih => simp only [Option.getD_some, List.count_cons] at ih ⊢; omega
  | plain hc h ih =>
      simp only [Option.getD_some, List.count_append, List.count_cons, List.count_nil] at ih ⊢
      omega
  | closes h ih => simp only [List.count_cons] at ih ⊢; omega
  | doubles hd h ih =>
      simp only [Option.getD_some, List.count_append, List.count_cons, List.count_nil] at ih ⊢
      omega
  | inside hc h ih =>
      simp only [Option.getD_some, List.count_append, List.count_cons, List.count_nil] at ih ⊢
      omega

/-- A quote at the end of the text, which has to end a quoted part, is in no word. -/
theorem Reads.count_lt (h : Reads q quote word t ws) {x : Char} (hx : q.quotes x = true)
    (hs : q.separates x = false) (hend : t.getLast? = some x) :
    ws.flatten.count x + 1 ≤ (word.getD []).count x + t.count x := by
  induction h with
  | done word => cases hend
  | @separates c word t ws hc h ih =>
      cases t with
      | nil =>
          obtain rfl : c = x := by simpa using hend
          rw [hs] at hc
          cases hc
      | cons e t =>
          have ih := ih hend
          rw [List.flatten_append, List.count_append, flatten_toList]
          rw [Option.getD_none, List.count_nil] at ih
          rw [List.count_cons (b := c)]
          omega
  | @opens c word t ws hs' hc h ih =>
      cases t with
      | nil => cases h
      | cons e t =>
          have ih := ih hend
          rw [List.count_cons (b := c)]
          rw [Option.getD_some] at ih
          omega
  | @plain c word t ws hc h ih =>
      cases t with
      | nil =>
          obtain rfl : c = x := by simpa using hend
          simp [isPlain, hx] at hc
      | cons e t =>
          have ih := ih hend
          rw [Option.getD_some, List.count_append, List.count_singleton] at ih
          rw [List.count_cons (b := c)]
          omega
  | @closes d word t ws h ih =>
      cases t with
      | nil =>
          obtain rfl : d = x := by simpa using hend
          have hle := h.count_le d
          simp only [List.count_cons_self, List.count_nil] at hle ⊢
          omega
      | cons e t =>
          have ih := ih hend
          rw [List.count_cons (b := d)]
          omega
  | @doubles d word t ws hd h ih =>
      cases t with
      | nil => cases h
      | cons e t =>
          have ih := ih hend
          rw [Option.getD_some, List.count_append, List.count_singleton] at ih
          rw [List.count_cons (b := d), List.count_cons (b := d)]
          omega
  | @inside c d word t ws hc h ih =>
      cases t with
      | nil => cases h
      | cons e t =>
          have ih := ih hend
          rw [Option.getD_some, List.count_append, List.count_singleton] at ih
          rw [List.count_cons (b := c)]
          omega

end

/-- If a quote stands in what is to be one quoted part, one more of them is in no word. -/
theorem count_lt_of_mem {d : Char} (hq : q.quotes d = true) (hs : q.separates d = false) {w : Text}
    (hd : d ∈ w) {ws : List Text} (h : q.words? none none (d :: (w ++ [d])) = some ws) :
    ws.flatten.count d < w.count d := by
  obtain ⟨before, after, rfl, hbefore⟩ := List.eq_append_cons_of_mem hd
  rw [words?_opens hq hs, List.append_assoc, words?_inside hbefore] at h
  have hlast : (after ++ [d]).getLast? = some d := by simp
  -- the first quote in the part is dropped, or the one behind it, and so is the last
  have hread := reads_of_words? h
  rw [List.cons_append] at hread
  generalize htail : after ++ [d] = tail at hread hlast
  have hcount : after.count d + 1 = tail.count d := by rw [← htail]; simp
  cases hread with
  | closes hread =>
      have hlt := hread.count_lt hq hs hlast
      simp only [Option.getD_some, List.nil_append, List.count_append, List.count_cons_self] at hlt ⊢
      omega
  | @doubles _ _ t _ hdoubles hread =>
      cases t with
      | nil => cases hread
      | cons e t =>
          have hlt := hread.count_lt hq hs hlast
          simp only [Option.getD_some, List.nil_append, List.count_append, List.count_cons_self,
            List.count_nil] at hlt hcount ⊢
          omega
  | inside hc _ => exact absurd rfl hc

/-- A reader with one kind of quote, which is not doubled, puts none into a word. -/
theorem Reads.not_mem {d : Char} (hdoubles : q.doubles = false) (hq : ∀ c, q.quotes c = (c == d))
    {quote : Option Char} {word : Option Text} {t : Text} {ws : List Text}
    (h : Reads q quote word t ws) (hquote : ∀ c, quote = some c → c = d)
    (hword : d ∉ word.getD []) : d ∉ ws.flatten := by
  induction h with
  | done word => rwa [flatten_toList]
  | @separates c word t ws hc h ih =>
      rw [List.flatten_append, List.mem_append, not_or, flatten_toList]
      exact ⟨hword, ih nofun List.not_mem_nil⟩
  | @opens c word t ws hs hc h ih =>
      refine ih (fun e he => ?_) hword
      obtain rfl : c = e := Option.some.inj he
      simpa [hq] using hc
  | @plain c word t ws hc h ih =>
      refine ih nofun ?_
      have hne : c ≠ d := fun hcd => by simp [isPlain, hq, hcd] at hc
      simpa [hne.symm] using hword
  | closes h ih => exact ih nofun hword
  | doubles hd h ih =>
      rw [hdoubles] at hd
      cases hd
  | @inside c e word t ws hc h ih =>
      refine ih hquote ?_
      have hne : c ≠ d := fun hcd => hc (hcd.trans (hquote e rfl).symm)
      simpa [hne.symm] using hword

/-- What stands before all quotes does not act, and its separators are in no word. -/
theorem Reads.unquoted {p : Text} (hp : ∀ c ∈ p, q.quotes c = false) {word : Option Text} {t : Text}
    {ws : List Text} (h : Reads q none word (p ++ t) ws) :
    (∀ c ∈ p, q.separates c = true ∨ q.isPlain c = true) ∧
      ∀ b, q.separates b = true → ws.flatten.count b ≤ (word.getD []).count b + t.count b := by
  induction p generalizing word ws with
  | nil => exact ⟨nofun, fun b _ => h.count_le b⟩
  | cons c p ih =>
      have hrest : ∀ e ∈ p, q.quotes e = false := fun e he => hp e (by simp [he])
      cases h with
      | @separates _ _ _ vs hc h =>
          obtain ⟨hall, hcount⟩ := ih hrest h
          refine ⟨List.forall_mem_cons.mpr ⟨.inl hc, hall⟩, fun b hb => ?_⟩
          have hle := hcount b hb
          rw [Option.getD_none, List.count_nil] at hle
          rw [List.flatten_append, List.count_append, flatten_toList]
          omega
      | opens hs hc h =>
          rw [hp c (by simp)] at hc
          cases hc
      | plain hc h =>
          obtain ⟨hall, hcount⟩ := ih hrest h
          refine ⟨List.forall_mem_cons.mpr ⟨.inr hc, hall⟩, fun b hb => ?_⟩
          have hne : c ≠ b := fun hcb => by simp [isPlain, hcb, hb] at hc
          have hle := hcount b hb
          rw [Option.getD_some, List.count_append, List.count_singleton, if_neg (by simpa using hne)]
            at hle
          omega

end Quoting

end TunnelSync.Transport
