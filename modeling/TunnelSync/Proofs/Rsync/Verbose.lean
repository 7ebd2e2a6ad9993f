import TunnelSync.Proofs.Stats
import TunnelSync.Rsync.Outcome

/-!
# Names before the statistics

A verbose copy prints the names of what it transfers, one a line, before its statistics. The reader
takes the first line of statistics in the whole output. The names and the block are searched one
after the other: a line that begins among the names has its number there as well, for what follows
is a title. So the block decides what is read exactly as far as the names have no such line of their
own, or one with the same number.

* `listing` : the names as they are printed
* `firstAt?_listing_append` : the names are searched before the block
* `parse_listing_eq_iff` : the names that change nothing
* `listing_changes_nothing_iff` : the same for every verdict
-/

namespace TunnelSync.TransferStats

/-! ### A line among the names -/

/-- A text in front of which a number ends, also behind blanks. -/
def Interrupts (t : Text) : Prop := EndsNumber (t.dropWhile Text.isBlank)

/-- A number that is over before the end of a line does not reach what interrupts it. -/
theorem numberChars_append {s t : Text} (hs : s.getLast? = some '\n') (ht : Interrupts t) :
    numberChars (s ++ t) = numberChars s := by
  unfold numberChars
  rw [List.dropWhile_append]
  split
  next hblank =>
    -- nothing but blanks up to what interrupts
    rw [List.isEmpty_iff.mp hblank]
    cases hrest : t.dropWhile Text.isBlank with
    | nil => rfl
    | cons c rest =>
        have hc : isNumberChar c = false := ht c (by rw [hrest]; rfl)
        rw [List.takeWhile_cons_of_neg (by simp [hc]), List.takeWhile_nil]
  next hsome =>
    have hne : s.dropWhile Text.isBlank ≠ [] := by simpa using hsome
    have hlast : '\n' ∈ s.dropWhile Text.isBlank := by
      obtain ⟨r, hr⟩ := List.dropWhile_suffix (l := s) Text.isBlank
      rw [← hr, List.getLast?_append_of_ne_nil _ hne] at hs
      exact List.mem_of_getLast? hs
    -- the number stops at the end of the line at the latest
    rw [List.takeWhile_append, if_neg]
    intro hall
    have hsub := (List.takeWhile_prefix isNumberChar).eq_of_length hall
    rw [← hsub] at hlast
    exact absurd (List.mem_takeWhile_imp hlast) (by decide)

theorem readsAt_append_iff {labels : List Text} {leads : Char → Bool}
    (hlabels : ∀ label ∈ labels, '\n' ∉ label) {s t : Text} (hs : s.getLast? = some '\n')
    (ht : Interrupts t) {number : Text} :
    ReadsAt labels leads (s ++ t) number ↔ ReadsAt labels leads s number := by
  have hnewline := List.mem_of_getLast? hs
  rw [readsAt_iff, readsAt_iff]
  refine exists_congr fun label => and_congr_right fun hlabel => ?_
  have hrest {r : Text} (heq : s = label ++ r) : r.getLast? = some '\n' := by
    have hne : r ≠ [] := by
      rintro rfl
      rw [heq, List.append_nil] at hnewline
      exact hlabels label hlabel hnewline
    rwa [heq, List.getLast?_append_of_ne_nil _ hne] at hs
  constructor
  · rintro ⟨rest, heq, hleads, hnumber⟩
    rcases List.append_eq_append_iff.mp heq with ⟨a, ha, -⟩ | ⟨r, rfl, rfl⟩
    · -- the label would go on behind the end of a line
      refine absurd ?_ (hlabels label hlabel)
      rw [ha]
      exact List.mem_append_left a hnewline
    · rw [numberChars_append (hrest rfl) ht] at hnumber
      exact ⟨r, rfl, hleads, hnumber⟩
  · rintro ⟨r, rfl, hleads, hnumber⟩
    refine ⟨r ++ t, by simp, hleads, ?_⟩
    rw [numberChars_append (hrest rfl) ht, hnumber]

theorem firstAt?_append {here? : Text → Option Text} (hnil : here? [] = none) {s t : Text}
    (h : ∀ u, u <:+ s → u ≠ [] → here? (u ++ t) = here? u) :
    firstAt? here? (s ++ t) = (firstAt? here? s).or (firstAt? here? t) := by
  induction s with
  | nil => rw [List.nil_append, firstAt?, hnil, Option.none_or]
  | cons c s ih =>
      have hrest := ih fun u hu => h u (List.suffix_cons_iff.mpr (.inr hu))
      have hfirst := h (c :: s) List.suffix_rfl (List.cons_ne_nil c s)
      rw [List.cons_append] at hfirst ⊢
      rw [firstAt?, firstAt?, hfirst, hrest, Option.or_assoc]

/-! ### Names and a block -/

/-- Names as they are printed, one a line. -/
def listing (names : List Text) : Text := names.flatMap (· ++ ['\n'])

theorem getLast?_of_suffix_listing {names : List Text} {u : Text} (hu : u <:+ listing names)
    (hne : u ≠ []) : u.getLast? = some '\n' := by
  obtain ⟨w, hw⟩ := hu
  have hlast : (listing names).getLast? = u.getLast? := by
    rw [← hw, List.getLast?_append_of_ne_nil _ hne]
  rw [← hlast]
  cases names using List.reverseRecOn with
  | nil => exact absurd (List.append_eq_nil_iff.mp hw).2 hne
  | append_singleton names name => simp [listing]

theorem exists_name_of_infix_listing {p : Text} (hp : '\n' ∉ p) (hne : p ≠ []) {names : List Text}
    (h : p <:+: listing names) : ∃ name ∈ names, p <:+: name := by
  induction names with
  | nil => exact absurd (List.infix_nil.mp h) hne
  | cons name names ih =>
      have hcons : listing (name :: names) = name ++ '\n' :: listing names := by simp [listing]
      rw [hcons] at h
      rcases Text.infix_or_of_infix_append_cons hp h with hname | hnames
      · exact ⟨name, by simp, hname⟩
      · obtain ⟨other, hother, hin⟩ := ih hnames
        exact ⟨other, by simp [hother], hin⟩

section
variable {labels : List Text} {leads : Char → Bool}
  (hlabels : ∀ label ∈ labels, label ≠ [] ∧ '\n' ∉ label)
include hlabels

/-- The names are searched before what interrupts their last line. -/
theorem firstAt?_listing_append {here? : Text → Option Text}
    (hhere : ∀ {t number}, here? t = some number ↔ ReadsAt labels leads t number)
    (names : List Text) {t : Text} (ht : Interrupts t) :
    firstAt? here? (listing names ++ t) =
      (firstAt? here? (listing names)).or (firstAt? here? t) := by
  refine firstAt?_append ?_ fun u hu hne => Option.ext fun number => ?_
  · refine Option.eq_none_iff_forall_ne_some.mpr fun number hnumber => ?_
    obtain ⟨label, hlabel, hpre⟩ := (hhere.mp hnumber).exists_label
    exact (hlabels label hlabel).1 (List.prefix_nil.mp hpre)
  · rw [hhere, hhere]
    exact readsAt_append_iff (fun label hlabel => (hlabels label hlabel).2)
      (getLast?_of_suffix_listing hu hne) ht

theorem exists_label_of_firstAt {names : List Text} {number : Text}
    (h : FirstAt (ReadsAt labels leads) (listing names) number) :
    ∃ label ∈ labels, ∃ name ∈ names, label <:+: name := by
  obtain ⟨before, rest, heq, hread, -⟩ := h
  obtain ⟨label, hlabel, hpre⟩ := hread.exists_label
  have hin : label <:+: listing names := by
    rw [heq]
    exact hpre.isInfix.trans (List.suffix_append before rest).isInfix
  obtain ⟨hne, hline⟩ := hlabels label hlabel
  exact ⟨label, hlabel, exists_name_of_infix_listing hline hne hin⟩

end

theorem filesLabels_lines : ∀ label ∈ filesLabels, label ≠ [] ∧ '\n' ∉ label := by decide

theorem bytesLabel_lines : ∀ label ∈ [bytesLabel], label ≠ [] ∧ '\n' ∉ label := by decide

/-- A block that begins with its title, perhaps behind a blank line. -/
def Block.IsTitled (b : Block) : Prop :=
  ∃ gap rest, b.before = gap ++ ("Number of files:".toList ++ rest) ∧
    ∀ c ∈ gap, Text.isBlank c = true

theorem Block.IsTitled.interrupts {b : Block} (h : b.IsTitled) : Interrupts b.text := by
  obtain ⟨gap, rest, hbefore, hgap⟩ := h
  have hdrop : b.text.dropWhile Text.isBlank =
      "Number of files:".toList ++ (rest ++ b.filesLine) := by
    rw [text, hbefore, List.append_assoc, List.append_assoc, List.dropWhile_append_of_pos hgap]
    exact List.dropWhile_cons_of_neg (by decide)
  intro c hc
  rw [hdrop] at hc
  cases hc
  decide

/-- What is read in names and a block: what the names say, and else what the block says. -/
theorem parse_listing_append (names : List Text) {t : Text} (ht : Interrupts t) :
    parse (listing names ++ t) =
      ⟨((firstAt? filesHere? (listing names)).map counterValue).getD (parse t).files,
        ((firstAt? bytesHere? (listing names)).map counterValue).getD (parse t).bytes⟩ := by
  have hor (a b : Option Text) : ((a.or b).map counterValue).getD 0 =
      (a.map counterValue).getD ((b.map counterValue).getD 0) := by
    cases a <;> rfl
  rw [parse, firstAt?_listing_append filesLabels_lines filesHere?_eq_some_iff names ht,
    firstAt?_listing_append bytesLabel_lines bytesHere?_eq_some_iff names ht, hor, hor]
  rfl

/-- The names change nothing exactly if the first line of each kind among them, where there is one,
has the number that is read without them. -/
theorem parse_listing_eq_iff (names : List Text) {t : Text} (ht : Interrupts t) :
    parse (listing names ++ t) = parse t ↔
      (∀ number, FirstAt FilesAt (listing names) number → counterValue number = (parse t).files) ∧
      ∀ number, FirstAt BytesAt (listing names) number → counterValue number = (parse t).bytes := by
  have hgetD (o : Option Text) (n : Nat) :
      (o.map counterValue).getD n = n ↔ ∀ number, o = some number → counterValue number = n := by
    cases o <;> simp
  rw [parse_listing_append names ht]
  show (⟨_, _⟩ : TransferStats) = ⟨(parse t).files, (parse t).bytes⟩ ↔ _
  simp only [mk.injEq, hgetD, firstAt?_filesHere?_eq_some_iff, firstAt?_bytesHere?_eq_some_iff]

theorem parse_listing_of_no_label {names : List Text}
    (h : ∀ name ∈ names, ∀ label ∈ bytesLabel :: filesLabels, ¬ label <:+: name) {t : Text}
    (ht : Interrupts t) : parse (listing names ++ t) = parse t := by
  refine (parse_listing_eq_iff names ht).mpr ⟨fun number hread => ?_, fun number hread => ?_⟩
  · obtain ⟨label, hlabel, name, hname, hin⟩ := exists_label_of_firstAt filesLabels_lines hread
    exact absurd hin (h name hname label (List.mem_cons_of_mem _ hlabel))
  · obtain ⟨label, hlabel, name, hname, hin⟩ := exists_label_of_firstAt bytesLabel_lines hread
    obtain rfl := List.mem_singleton.mp hlabel
    exact absurd hin (h name hname _ List.mem_cons_self)

/-- Every verdict is the same exactly if the same is read. -/
theorem classify_congr_iff (out out' : Text) :
    (∀ code stderr, Rsync.classify ⟨code, out, stderr⟩ = Rsync.classify ⟨code, out', stderr⟩) ↔
      parse out = parse out' := by
  constructor
  · intro h
    exact Except.ok.inj (h (some 0) [])
  · intro h code stderr
    simp only [Rsync.classify, h, Rsync.Output.success]

/-- **Names before the statistics.** What is read in the names and a block, and every verdict with
it, is the same as for the block alone exactly if the first line of each kind among the names, where
there is one, has the number of the block. It is if no name holds a label. -/
theorem listing_changes_nothing_iff (names : List Text) {b : Block} (h : b.IsTitled) :
    (parse (listing names ++ b.text) = parse b.text ↔
      (∀ number, FirstAt FilesAt (listing names) number →
        counterValue number = (parse b.text).files) ∧
      ∀ number, FirstAt BytesAt (listing names) number →
        counterValue number = (parse b.text).bytes) ∧
    ((∀ code stderr, Rsync.classify ⟨code, listing names ++ b.text, stderr⟩ =
        Rsync.classify ⟨code, b.text, stderr⟩) ↔
      parse (listing names ++ b.text) = parse b.text) ∧
    ((∀ name ∈ names, ¬ "files transferred:".toList <:+: name ∧
        ¬ "Total transferred file size:".toList <:+: name) →
      parse (listing names ++ b.text) = parse b.text) := by
  refine ⟨parse_listing_eq_iff names h.interrupts, classify_congr_iff _ _, fun hnames => ?_⟩
  refine parse_listing_of_no_label (fun name hname label hlabel hin => ?_) h.interrupts
  obtain ⟨hfiles, hbytes⟩ := hnames name hname
  rcases List.mem_cons.mp hlabel with rfl | hlabel
  · exact hbytes hin
  · obtain ⟨regular, rfl⟩ := (mem_filesLabels_iff _).mp hlabel
    exact hfiles ((suffix_filesLabel regular).isInfix.trans hin)

/-- The block of a copy that moved nothing. -/
def idleBlock : Block where
  before := "Number of files: 1\n"
  regular := false
  filesGap := " "
  files := ⟨0, "0", by decide, by decide⟩
  between := "\nTotal file size: 3 B\n"
  bytesGap := " "
  bytes := ⟨0, "0", by decide, by decide⟩
  unit := " B"
  after := "\n"
  filesGap_blank := List.all_eq_true.mp (by decide)
  bytesGap_blank := List.all_eq_true.mp (by decide)
  unit_mem := by decide
  between_ends := fun c hc => by cases hc; decide
  after_ends := fun c hc => by cases hc; decide
  files_before := by decide
  bytes_before := by decide
  bytes_between := by decide

theorem isTitled_idleBlock : idleBlock.IsTitled := ⟨[], " 1\n", rfl, nofun⟩

/-- A name that looks like another line of the block changes nothing. -/
theorem listing_changes_nothing_iff_similar :
    idleBlock.IsTitled ∧
      parse (listing ["Total file size: 9 B"] ++ idleBlock.text) = parse idleBlock.text := by
  obtain ⟨-, -, hsame⟩ := listing_changes_nothing_iff ["Total file size: 9 B"] isTitled_idleBlock
  exact ⟨isTitled_idleBlock, hsame (by decide)⟩

/-- A name that reads as the line of the files: files are counted that were not moved, and a failed
copy is excused. -/
theorem name_counts_files :
    let names := ["Number of files transferred: 7".toList]
    let notice := "Warning: Permanently added '[::1]:50123'".toList
    (∀ name ∈ names, '\n' ∉ name) ∧ idleBlock.IsTitled ∧
      parse idleBlock.text = ⟨0, 0⟩ ∧ parse (listing names ++ idleBlock.text) = ⟨7, 0⟩ ∧
      Rsync.classify ⟨some 255, idleBlock.text, notice⟩ = .error (.process (some 255) notice) ∧
      Rsync.classify ⟨some 255, listing names ++ idleBlock.text, notice⟩ = .ok ⟨7, 0⟩ := by
  intro names notice
  have hblock : parse idleBlock.text = ⟨0, 0⟩ := by decide +kernel
  have hnames : parse (listing names ++ idleBlock.text) = ⟨7, 0⟩ := by decide +kernel
  have hbenign : Rsync.isBenign notice = true := by decide
  refine ⟨by decide, isTitled_idleBlock, hblock, hnames, ?_, ?_⟩
  · simp [Rsync.classify, Rsync.Output.success, hblock]
  · simp [Rsync.classify, Rsync.Output.success, hnames, hbenign]

end TunnelSync.TransferStats
