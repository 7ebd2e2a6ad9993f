import Mathlib.Data.List.TakeWhile
import TunnelSync.Proofs.Text.Label
import TunnelSync.Stats

/-!
# Reading the statistics of a copy

The two numbers stand in lines of their own, each behind its label, somewhere in a text. A reader
takes the first place where a label, blanks and a number follow each other. A label has its only
colon at its end; so two labels cannot overlap, and text before a line that does not hold the label
as a whole does not matter.

* `ReadsAt`, `FirstAt` : what a line is, and the first one of a text
* `filesHere?_eq_some_iff`, `bytesHere?_eq_some_iff`, `firstAt?_eq_some_iff` : what is read
* `Numeral` : a number as it is written
* `Block` : statistics with any text around their two lines
* `Block.parse_text` : the numbers are read back
-/

namespace TunnelSync.TransferStats

/-! ### Numbers -/

/-- A text that does not go on with a number. -/
def EndsNumber (t : Text) : Prop := ∀ c, t.head? = some c → isNumberChar c = false

theorem EndsNumber.append {s t : Text} (hs : EndsNumber s) (ht : EndsNumber t) :
    EndsNumber (s ++ t) := by
  cases s with
  | nil => exact ht
  | cons c s => exact hs

theorem isDigit_of_ascii {c : Char} (h : c.isDigit = true) : Text.isDigit c = true := by
  have hle : c.toNat ≤ 57 := by
    simp only [Char.isDigit, Bool.and_eq_true, decide_eq_true_eq] at h
    exact h.2
  rw [Text.isDigit, if_pos (by omega), h]

/-- No blank is a digit of any script, or a comma. -/
theorem isBlank_of_isNumberChar {c : Char} (h : isNumberChar c = true) :
    Text.isBlank c = false := by
  have hranges : ∀ r ∈ Text.digitRanges, (r.2 < 0x2000 ∨ 0x200A < r.1) ∧
      ∀ b ∈ [0x85, 0xA0, 0x1680, 0x2028, 0x2029, 0x202F, 0x205F, 0x3000], b < r.1 ∨ r.2 < b := by
    decide
  rw [isNumberChar, Bool.or_eq_true, beq_iff_eq] at h
  rcases h with rfl | h
  · decide
  · by_contra hblank
    simp only [Text.isBlank, Bool.not_eq_false, Bool.or_eq_true, Bool.and_eq_true,
      decide_eq_true_eq, beq_iff_eq] at hblank
    rw [Text.isDigit] at h
    split at h
    · simp only [Char.isDigit, Bool.and_eq_true, decide_eq_true_eq] at h
      have hlo : 48 ≤ c.toNat := h.1
      have hhi : c.toNat ≤ 57 := h.2
      omega
    · obtain ⟨r, hr, hin⟩ := List.any_eq_true.mp h
      obtain ⟨hspaces, hothers⟩ := hranges r hr
      simp only [Bool.and_eq_true, decide_eq_true_eq] at hin
      simp only [List.forall_mem_cons] at hothers
      omega

/-- The number behind blanks is the longest one. -/
theorem numberChars_eq_iff {t number : Text} (hne : number ≠ []) :
    numberChars t = number ↔
      ∃ gap rest, t = gap ++ (number ++ rest) ∧ (∀ c ∈ gap, Text.isBlank c = true) ∧
        (∀ c ∈ number, isNumberChar c = true) ∧ EndsNumber rest := by
  constructor
  · rintro rfl
    refine ⟨t.takeWhile Text.isBlank, (t.dropWhile Text.isBlank).dropWhile isNumberChar, ?_,
      fun c hc => List.mem_takeWhile_imp hc, fun c hc => List.mem_takeWhile_imp hc, fun c hc => ?_⟩
    · rw [numberChars, List.takeWhile_append_dropWhile, List.takeWhile_append_dropWhile]
    · have hstop := List.head?_dropWhile_not isNumberChar (t.dropWhile Text.isBlank)
      rw [hc] at hstop
      exact hstop
  · rintro ⟨gap, rest, rfl, hgap, hnumber, hrest⟩
    obtain ⟨d, more, rfl⟩ := List.exists_cons_of_ne_nil hne
    have hd : Text.isBlank d = false := isBlank_of_isNumberChar (hnumber d (by simp))
    have hrest' : rest.takeWhile isNumberChar = [] := by
      cases rest with
      | nil => rfl
      | cons c rest => rw [List.takeWhile_cons_of_neg (by simp [hrest c rfl])]
    rw [numberChars, List.dropWhile_append_of_pos hgap, List.cons_append,
      List.dropWhile_cons_of_neg (by simp [hd]), ← List.cons_append,
      List.takeWhile_append_of_pos hnumber, hrest', List.append_nil]

theorem readNatFrom_eq {t : Text} (h : ∀ c ∈ t, c.isDigit = true) (acc : Nat) :
    Text.readNatFrom acc t = some (Nat.ofDigitChars 10 t acc) := by
  induction t generalizing acc with
  | nil => simp [Text.readNatFrom]
  | cons c t ih =>
      obtain ⟨hc, ht⟩ := List.forall_mem_cons.mp h
      rw [Text.readNatFrom, Text.digitValue?, if_pos hc, Option.bind_some, ih ht,
        Nat.ofDigitChars_cons, Nat.mul_comm acc 10]
      rfl

theorem readNat?_ofNat (n : Nat) : Text.readNat? (Text.ofNat n) = some n := by
  have hdigits : ∀ c ∈ Text.ofNat n, c.isDigit = true :=
    fun c hc => Nat.isDigit_of_mem_toDigits (by decide) (by decide) hc
  have hne : (Text.ofNat n).isEmpty = false := by
    simp [Text.ofNat]
  rw [Text.readNat?, hne, readNatFrom_eq hdigits]
  exact congrArg some Nat.ofDigitChars_ten_toDigits

/-! ### A line of statistics -/

/-- The texts that begin with one of the labels, blanks and a number, and how this number is
written. It begins as `leads` says, and it is as long as it can be. -/
inductive ReadsAt (labels : List Text) (leads : Char → Bool) : Text → Text → Prop
  | line {label gap number rest : Text} (hlabel : label ∈ labels)
      (hgap : ∀ c ∈ gap, Text.isBlank c = true)
      (hleads : ∃ c, number.head? = some c ∧ leads c = true)
      (hnumber : ∀ c ∈ number, isNumberChar c = true) (hrest : EndsNumber rest) :
      ReadsAt labels leads (label ++ (gap ++ (number ++ rest))) number

/-- The line of the files; its number begins with a digit. -/
abbrev FilesAt : Text → Text → Prop := ReadsAt filesLabels Text.isDigit

/-- The line of the bytes. -/
abbrev BytesAt : Text → Text → Prop := ReadsAt [bytesLabel] isNumberChar

/-- No label begins with another one. -/
def PrefixFree (labels : List Text) : Prop := ∀ a ∈ labels, ∀ b ∈ labels, a <+: b → a = b

theorem findSome?_after?_eq_some_iff {labels : List Text} (hfree : PrefixFree labels)
    {t rest : Text} :
    labels.findSome? (Text.after? · t) = some rest ↔ ∃ label ∈ labels, t = label ++ rest := by
  constructor
  · intro h
    obtain ⟨label, hlabel, hrest⟩ := List.exists_of_findSome?_eq_some h
    exact ⟨label, hlabel, Text.after?_eq_some_iff.mp hrest⟩
  · rintro ⟨label, hlabel, rfl⟩
    have hsome : (labels.findSome? (Text.after? · (label ++ rest))).isSome = true := by
      rw [List.findSome?_isSome_iff]
      exact ⟨label, hlabel, by rw [Text.after?_eq_some_iff.mpr rfl]; rfl⟩
    obtain ⟨rest', h⟩ := Option.isSome_iff_exists.mp hsome
    obtain ⟨label', hlabel', hrest⟩ := List.exists_of_findSome?_eq_some h
    have heq := Text.after?_eq_some_iff.mp hrest
    -- of two labels that begin the text one begins the other
    obtain rfl : label = label' := by
      rcases List.prefix_or_prefix_of_prefix (List.prefix_append label rest)
        (heq ▸ List.prefix_append label' rest') with hpre | hpre
      · exact hfree _ hlabel _ hlabel' hpre
      · exact (hfree _ hlabel' _ hlabel hpre).symm
    rw [h, List.append_cancel_left heq]

theorem ReadsAt.exists_label {labels : List Text} {leads : Char → Bool} {t number : Text}
    (h : ReadsAt labels leads t number) : ∃ label ∈ labels, label <+: t := by
  cases h with
  | line hlabel => exact ⟨_, hlabel, List.prefix_append _ _⟩

theorem readsAt_iff {labels : List Text} {leads : Char → Bool} {t number : Text} :
    ReadsAt labels leads t number ↔ ∃ label ∈ labels, ∃ rest, t = label ++ rest ∧
      (∃ c, number.head? = some c ∧ leads c = true) ∧ numberChars rest = number := by
  have hne : (∃ c, number.head? = some c ∧ leads c = true) → number ≠ [] := by
    rintro ⟨c, hc, -⟩ rfl
    cases hc
  constructor
  · rintro ⟨hlabel, hgap, hleads, hnumber, hrest⟩
    exact ⟨_, hlabel, _, rfl, hleads,
      (numberChars_eq_iff (hne hleads)).mpr ⟨_, _, rfl, hgap, hnumber, hrest⟩⟩
  · rintro ⟨label, hlabel, rest, rfl, hleads, hread⟩
    obtain ⟨gap, rest, rfl, hgap, hnumber, hrest⟩ := (numberChars_eq_iff (hne hleads)).mp hread
    exact .line hlabel hgap hleads hnumber hrest

/-- The number of a line, if the text begins with one. -/
def readHere? (labels : List Text) (leads : Char → Bool) (t : Text) : Option Text :=
  match labels.findSome? (Text.after? · t) with
  | some rest =>
      let number := numberChars rest
      if (number.head?.map leads).getD false then some number else none
  | none => none

theorem filesHere?_eq (t : Text) : filesHere? t = readHere? filesLabels Text.isDigit t := rfl

theorem bytesHere?_eq (t : Text) : bytesHere? t = readHere? [bytesLabel] isNumberChar t := by
  have hafter : [bytesLabel].findSome? (Text.after? · t) = Text.after? bytesLabel t := by
    cases h : Text.after? bytesLabel t <;> simp [h]
  unfold bytesHere? readHere?
  rw [hafter]
  cases Text.after? bytesLabel t with
  | none => rfl
  | some rest =>
      cases hnumber : numberChars rest with
      | nil => simp [hnumber]
      | cons c number =>
          have hc : isNumberChar c = true := by
            have hmem : c ∈ numberChars rest := by simp [hnumber]
            exact List.mem_takeWhile_imp hmem
          simp [hnumber, hc]

theorem readHere?_eq_some_iff {labels : List Text} {leads : Char → Bool} (hfree : PrefixFree labels)
    {t number : Text} :
    readHere? labels leads t = some number ↔ ReadsAt labels leads t number := by
  have hleads (n : Text) :
      (n.head?.map leads).getD false = true ↔ ∃ c, n.head? = some c ∧ leads c = true := by
    cases n <;> simp
  rw [readsAt_iff]
  unfold readHere?
  constructor
  · intro h
    split at h
    next rest hrest =>
      obtain ⟨label, hlabel, heq⟩ := (findSome?_after?_eq_some_iff hfree).mp hrest
      obtain ⟨hlead, hnumber⟩ := Option.ite_none_right_eq_some.mp h
      obtain rfl := Option.some.inj hnumber
      exact ⟨label, hlabel, rest, heq, (hleads _).mp hlead, rfl⟩
    next => cases h
  · rintro ⟨label, hlabel, rest, heq, hlead, rfl⟩
    rw [(findSome?_after?_eq_some_iff hfree).mpr ⟨label, hlabel, heq⟩]
    exact if_pos ((hleads _).mpr hlead)

theorem filesHere?_eq_some_iff {t number : Text} :
    filesHere? t = some number ↔ FilesAt t number := by
  rw [filesHere?_eq]
  exact readHere?_eq_some_iff (by unfold PrefixFree; decide)

theorem bytesHere?_eq_some_iff {t number : Text} :
    bytesHere? t = some number ↔ BytesAt t number := by
  rw [bytesHere?_eq]
  exact readHere?_eq_some_iff (by unfold PrefixFree; decide)

/-! ### The first line -/

/-- How the number of the first line of a text is written; `here` says what a line is. -/
def FirstAt (here : Text → Text → Prop) (t number : Text) : Prop :=
  ∃ before rest, t = before ++ rest ∧ here rest number ∧
    ∀ s, s <:+ before → s ≠ [] → ∀ n, ¬ here (s ++ rest) n

theorem firstAt?_eq_some_iff {here? : Text → Option Text} {here : Text → Text → Prop}
    (h : ∀ {t number}, here? t = some number ↔ here t number) {t number : Text} :
    firstAt? here? t = some number ↔ FirstAt here t number := by
  induction t with
  | nil =>
      rw [firstAt?, h]
      constructor
      · intro hread
        exact ⟨[], [], rfl, hread, fun s hs hne => absurd (List.suffix_nil.mp hs) hne⟩
      · rintro ⟨before, rest, heq, hread, -⟩
        obtain ⟨rfl, rfl⟩ := List.append_eq_nil_iff.mp heq.symm
        exact hread
  | cons c t ih =>
      rw [firstAt?, Option.or_eq_some_iff, ih]
      constructor
      · rintro (hread | ⟨hnone, before, rest, rfl, hread, hbefore⟩)
        · exact ⟨[], c :: t, rfl, h.mp hread, fun s hs hne => absurd (List.suffix_nil.mp hs) hne⟩
        · refine ⟨c :: before, rest, rfl, hread, fun s hs hne n hn => ?_⟩
          rcases List.suffix_cons_iff.mp hs with rfl | hs
          · rw [List.cons_append, ← h, hnone] at hn
            cases hn
          · exact hbefore s hs hne n hn
      · rintro ⟨before, rest, heq, hread, hbefore⟩
        cases before with
        | nil =>
            obtain rfl : c :: t = rest := heq
            exact .inl (h.mpr hread)
        | cons d before =>
            obtain ⟨rfl, rfl⟩ := List.cons.inj heq
            refine .inr ⟨Option.eq_none_iff_forall_ne_some.mpr fun n hn => ?_, before, rest, rfl,
              hread, fun s hs => hbefore s (List.suffix_cons_iff.mpr (.inr hs))⟩
            exact hbefore _ List.suffix_rfl nofun n (h.mp hn)

theorem firstAt?_filesHere?_eq_some_iff {t number : Text} :
    firstAt? filesHere? t = some number ↔ FirstAt FilesAt t number :=
  firstAt?_eq_some_iff filesHere?_eq_some_iff

theorem firstAt?_bytesHere?_eq_some_iff {t number : Text} :
    firstAt? bytesHere? t = some number ↔ FirstAt BytesAt t number :=
  firstAt?_eq_some_iff bytesHere?_eq_some_iff

/-! ### Numbers and blocks as they are printed -/

/-- A number in decimal notation, with commas at any places behind its first digit. -/
structure Numeral where
  value : Nat
  text : Text
  head_ne : text.head? ≠ some ','
  digits : text.filter (· != ',') = Text.ofNat value

/-- A text that may follow a line: nothing, or what begins with the end of the line. -/
def EndsLine (t : Text) : Prop := ∀ c, t.head? = some c → c = '\n' ∨ c = '\r'

theorem EndsLine.endsNumber {t : Text} (h : EndsLine t) : EndsNumber t := by
  intro c hc
  rcases h c hc with rfl | rfl <;> decide

/-- What stands before the number of files, in either wording. -/
def filesLabel (regular : Bool) : Text :=
  if regular then "Number of regular files transferred:" else "Number of files transferred:"

theorem mem_filesLabels_iff (label : Text) :
    label ∈ filesLabels ↔ ∃ regular, label = filesLabel regular := by
  rw [Bool.exists_bool, or_comm, filesLabels, List.mem_cons, List.mem_singleton]
  rfl

theorem isLabel_filesLabel (regular : Bool) : Text.IsLabel (filesLabel regular) := by
  cases regular with
  | false => exact ⟨"Number of files transferred".toList, by simp [filesLabel], by simp⟩
  | true => exact ⟨"Number of regular files transferred".toList, by simp [filesLabel], by simp⟩

theorem suffix_filesLabel (regular : Bool) :
    "files transferred:".toList <:+ filesLabel regular := by
  cases regular <;> decide

theorem isLabel_bytesLabel : Text.IsLabel bytesLabel :=
  ⟨"Total transferred file size".toList, rfl, by decide⟩

/-- Statistics as they are printed: the line of the files before that of the bytes, with any other
text before them, between them and behind them. -/
structure Block where
  before : Text
  regular : Bool
  filesGap : Text
  files : Numeral
  between : Text
  bytesGap : Text
  bytes : Numeral
  unit : Text
  after : Text
  filesGap_blank : ∀ c ∈ filesGap, Text.isBlank c = true
  bytesGap_blank : ∀ c ∈ bytesGap, Text.isBlank c = true
  unit_mem : unit ∈ [[], " B".toList, " bytes".toList]
  between_ends : EndsLine between
  after_ends : EndsLine after
  files_before : ¬ "files transferred:".toList <:+: before
  bytes_before : ¬ "Total transferred file size:".toList <:+: before
  bytes_between : ¬ "Total transferred file size:".toList <:+: between

namespace Numeral

variable (n : Numeral)

theorem isDigit_of_mem {c : Char} (hc : c ∈ n.text) : c = ',' ∨ c.isDigit = true := by
  by_cases hcomma : c = ','
  · exact .inl hcomma
  · have hmem : c ∈ n.text.filter (· != ',') := by simp [hc, hcomma]
    rw [n.digits] at hmem
    exact .inr (Nat.isDigit_of_mem_toDigits (by decide) (by decide) hmem)

theorem isNumberChar_of_mem : ∀ c ∈ n.text, isNumberChar c = true := by
  intro c hc
  rw [isNumberChar, Bool.or_eq_true, beq_iff_eq]
  exact (n.isDigit_of_mem hc).imp_right isDigit_of_ascii

theorem exists_head : ∃ c, n.text.head? = some c ∧ c.isDigit = true := by
  cases htext : n.text with
  | nil =>
      have hnil := n.digits
      rw [htext] at hnil
      exact absurd hnil.symm Nat.toDigits_ne_nil
  | cons c text =>
      refine ⟨c, rfl, (n.isDigit_of_mem (by simp [htext])).resolve_left fun hcomma => ?_⟩
      exact n.head_ne (by rw [htext, hcomma]; rfl)

theorem counterValue_text :
    counterValue n.text = if n.value < counterLimit then n.value else 0 := by
  rw [counterValue, n.digits, readNat?_ofNat]

end Numeral

namespace Block

variable (b : Block)

/-- The line of the bytes and what is behind it. -/
def bytesLine : Text :=
  "Total transferred file size:".toList ++ (b.bytesGap ++ (b.bytes.text ++ (b.unit ++ b.after)))

/-- The line of the files and what is behind it. -/
def filesLine : Text :=
  filesLabel b.regular ++ (b.filesGap ++ (b.files.text ++ (b.between ++ b.bytesLine)))

/-- The whole text. -/
def text : Text := b.before ++ b.filesLine

theorem filesAt_filesLine : FilesAt b.filesLine b.files.text := by
  have hrest : EndsNumber (b.between ++ b.bytesLine) :=
    b.between_ends.endsNumber.append fun c hc => by cases hc; decide
  obtain ⟨c, hc, hdigit⟩ := b.files.exists_head
  exact .line ((mem_filesLabels_iff _).mpr ⟨b.regular, rfl⟩) b.filesGap_blank
    ⟨c, hc, isDigit_of_ascii hdigit⟩ b.files.isNumberChar_of_mem hrest

theorem bytesAt_bytesLine : BytesAt b.bytesLine b.bytes.text := by
  have hunit : EndsNumber b.unit := by
    have hunits : ∀ unit ∈ [[], " B".toList, " bytes".toList],
        (unit.head?.map isNumberChar).getD false = false := by decide
    intro c hc
    have hhead := hunits b.unit b.unit_mem
    rw [hc] at hhead
    exact hhead
  obtain ⟨c, hc, -⟩ := b.bytes.exists_head
  have hnumber := b.bytes.isNumberChar_of_mem
  exact .line (List.mem_singleton.mpr rfl) b.bytesGap_blank
    ⟨c, hc, hnumber c (List.mem_of_mem_head? hc)⟩ hnumber (hunit.append b.after_ends.endsNumber)

theorem firstAt_files : FirstAt FilesAt b.text b.files.text := by
  refine ⟨b.before, b.filesLine, rfl, b.filesAt_filesLine, fun s hs hne n hn => ?_⟩
  obtain ⟨label, hlabel, hpre⟩ := hn.exists_label
  obtain ⟨regular, rfl⟩ := (mem_filesLabels_iff _).mp hlabel
  rcases Text.prefix_or_eq_of_prefix_append (isLabel_filesLabel regular)
    (isLabel_filesLabel b.regular) hpre with hin | heq
  · exact b.files_before
      ((suffix_filesLabel regular).isInfix.trans (hin.isInfix.trans hs.isInfix))
  · have hends : ∀ r r', filesLabel r <:+ filesLabel r' → filesLabel r = filesLabel r' := by decide
    rw [← hends _ _ (heq ▸ List.suffix_append s _)] at heq
    exact hne (List.self_eq_append_left.mp heq)

theorem firstAt_bytes : FirstAt BytesAt b.text b.bytes.text := by
  have htext : b.text = (b.before ++ (filesLabel b.regular ++
      (b.filesGap ++ (b.files.text ++ b.between)))) ++ b.bytesLine := by
    simp [text, filesLine]
  refine ⟨_, b.bytesLine, htext, b.bytesAt_bytesLine, fun s hs hne n hn => ?_⟩
  obtain ⟨label, hlabel, hpre⟩ := hn.exists_label
  obtain rfl := List.mem_singleton.mp hlabel
  rcases Text.prefix_or_eq_of_prefix_append isLabel_bytesLabel isLabel_bytesLabel hpre
    with hin | heq
  · -- the label stands as a whole in the text before its line
    have hgap : 'T' ∉ b.filesGap := fun h => absurd (b.filesGap_blank _ h) (by decide)
    have hnumber : 'T' ∉ b.files.text :=
      fun h => absurd (b.files.isNumberChar_of_mem _ h) (by decide)
    have hapart : ∀ r, ¬ filesLabel r <:+ bytesLabel ∧ ¬ bytesLabel <:+ filesLabel r := by decide
    obtain ⟨hfiles, hbytes⟩ := hapart b.regular
    rcases Text.infix_or_of_infix_append isLabel_bytesLabel (isLabel_filesLabel b.regular) hfiles
      hbytes (hin.isInfix.trans hs.isInfix) with hbefore | hbehind
    · exact b.bytes_before hbefore
    · exact b.bytes_between (Text.infix_of_infix_append_of_not_mem hnumber
        (Text.infix_of_infix_append_of_not_mem hgap hbehind))
  · exact hne (List.self_eq_append_left.mp heq)

/-- **The numbers are read back.** Whatever text stands before the two lines, between them and
behind them, each number is read as it was printed, or as 0 if a counter of 64 bits cannot hold
it. -/
theorem parse_text :
    parse b.text =
      ⟨if b.files.value < counterLimit then b.files.value else 0,
        if b.bytes.value < counterLimit then b.bytes.value else 0⟩ := by
  have hfiles := firstAt?_filesHere?_eq_some_iff.mpr b.firstAt_files
  have hbytes := firstAt?_bytesHere?_eq_some_iff.mpr b.firstAt_bytes
  rw [parse, hfiles, hbytes, Option.map_some, Option.map_some, Option.getD_some, Option.getD_some,
    Numeral.counterValue_text, Numeral.counterValue_text]

end Block

end TunnelSync.TransferStats
