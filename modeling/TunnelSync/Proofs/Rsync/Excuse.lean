import TunnelSync.Proofs.Text.Lines
import TunnelSync.Rsync.Outcome

/-!
# Failed copies that are excused

A copy that did not exit with code 0 is excused if it moved files and complained of nothing: each
line on stderr that is not blank is ssh's notice of a new host key, and there is one. What counts is
which lines there are. Their order, how often a notice stands there, blank lines and the kind of
line endings do not matter, and one line of another kind is enough for an error.

* `Excused` : the statistics and the lines on stderr that excuse a failed copy
* `isBenign_iff` : the check of stderr, line by line
* `verdict_of_exit` : the verdict on every exit code and every stderr
* `failed_of_signal_iff` : the verdict on a copy that a signal ended
-/

namespace TunnelSync.Rsync

open Text (HasLines IsBlankLine LineAdded)

/-! ### Notices -/

/-- A line that says, but for blanks around it, that a host key was recorded. -/
def IsNotice (l : Text) : Prop := "Warning: Permanently added".toList <+: Text.trim l

/-- Lines that say something, and nothing but notices. -/
def OnlyNotices (ls : List Text) : Prop :=
  (∃ l ∈ ls, ¬ IsBlankLine l) ∧ ∀ l ∈ ls, ¬ IsBlankLine l → IsNotice l

/-- Files were moved, and only notices were given. -/
def Excused (stats : TransferStats) (ls : List Text) : Prop := 0 < stats.files ∧ OnlyNotices ls

instance (l : Text) : Decidable (IsNotice l) := inferInstanceAs (Decidable (_ <+: _))

instance (ls : List Text) : Decidable (OnlyNotices ls) := inferInstanceAs (Decidable (_ ∧ _))

instance (stats : TransferStats) (ls : List Text) : Decidable (Excused stats ls) :=
  inferInstanceAs (Decidable (_ ∧ _))

theorem onlyNotices_congr {ls ms : List Text} (h : ∀ l, ¬ IsBlankLine l → (l ∈ ls ↔ l ∈ ms)) :
    OnlyNotices ls ↔ OnlyNotices ms := by
  unfold OnlyNotices
  refine and_congr (exists_congr fun l => ?_) (forall_congr' fun l => ?_)
  · exact and_congr_left (h l)
  · constructor
    · intro hl hmem hsays
      exact hl ((h l hsays).mpr hmem) hsays
    · intro hl hmem hsays
      exact hl ((h l hsays).mp hmem) hsays

/-! ### What is said on stderr -/

section
variable {stderr : Text} {ls : List Text} (h : HasLines stderr ls)
include h

theorem mem_complaints_iff {w : Text} :
    w ∈ complaints stderr ↔ ∃ l ∈ ls, ¬ IsBlankLine l ∧ Text.trim l = w := by
  unfold complaints
  rw [h.map_trim, List.mem_filter, List.mem_map, Bool.not_eq_true', List.isEmpty_eq_false_iff]
  constructor
  · rintro ⟨⟨l, hl, rfl⟩, hw⟩
    exact ⟨l, hl, mt Text.trim_eq_nil_iff.mpr hw, rfl⟩
  · rintro ⟨l, hl, hsays, rfl⟩
    exact ⟨⟨l, hl, rfl⟩, mt Text.trim_eq_nil_iff.mp hsays⟩

theorem isBenign_iff : isBenign stderr = true ↔ OnlyNotices ls := by
  have hsome : complaints stderr ≠ [] ↔ ∃ l ∈ ls, ¬ IsBlankLine l := by
    constructor
    · intro hne
      obtain ⟨w, hw⟩ := List.exists_mem_of_ne_nil _ hne
      obtain ⟨l, hl, hsays, -⟩ := (mem_complaints_iff h).mp hw
      exact ⟨l, hl, hsays⟩
    · rintro ⟨l, hl, hsays⟩
      exact List.ne_nil_of_mem ((mem_complaints_iff h).mpr ⟨l, hl, hsays, rfl⟩)
  have hall : (∀ w ∈ complaints stderr, Text.startsWith hostKeyNotice w = true) ↔
      ∀ l ∈ ls, ¬ IsBlankLine l → IsNotice l := by
    simp only [mem_complaints_iff h, Text.startsWith_iff]
    constructor
    · intro hw l hl hsays
      exact hw _ ⟨l, hl, hsays, rfl⟩
    · rintro hl w ⟨l, hmem, hsays, rfl⟩
      exact hl l hmem hsays
  unfold isBenign OnlyNotices
  rw [Bool.and_eq_true, Bool.not_eq_true', List.isEmpty_eq_false_iff, List.all_eq_true, hsome, hall]

/-! ### The verdict -/

theorem classify_of_excused {stdout : Text} (hexcused : Excused (.parse stdout) ls)
    (code : Option Int) : classify ⟨code, stdout, stderr⟩ = .ok (.parse stdout) := by
  obtain ⟨hfiles, hnotices⟩ := hexcused
  have hbenign := (isBenign_iff h).mpr hnotices
  simp [classify, hfiles, hbenign]

theorem classify_of_not_excused {stdout : Text} (hnot : ¬ Excused (.parse stdout) ls)
    {code : Option Int} (hcode : code ≠ some 0) :
    classify ⟨code, stdout, stderr⟩ = .error (.process code stderr) := by
  have hbenign : ¬ (0 < (TransferStats.parse stdout).files ∧ isBenign stderr = true) := by
    rintro ⟨hfiles, hbenign⟩
    exact hnot ⟨hfiles, (isBenign_iff h).mp hbenign⟩
  simp only [classify, Output.success, beq_iff_eq, if_neg hcode, Bool.and_eq_true,
    decide_eq_true_eq, if_neg hbenign]

theorem classify_eq_ok_iff {stdout : Text} {code : Option Int} (hcode : code ≠ some 0) :
    classify ⟨code, stdout, stderr⟩ = .ok (.parse stdout) ↔ Excused (.parse stdout) ls := by
  constructor
  · intro hok
    by_contra hnot
    rw [classify_of_not_excused h hnot hcode] at hok
    cases hok
  · intro hexcused
    exact classify_of_excused h hexcused code

end

/-- The same lines have the same verdict, but for the error's own account of the end. -/
theorem toOption_classify_congr {stderr stderr' : Text} {ls ms : List Text}
    (h : HasLines stderr ls) (h' : HasLines stderr' ms)
    (hsame : ∀ l, ¬ IsBlankLine l → (l ∈ ls ↔ l ∈ ms)) {code code' : Option Int}
    (hcode : code ≠ some 0) (hcode' : code' ≠ some 0) (stdout : Text) :
    (classify ⟨code, stdout, stderr⟩).toOption = (classify ⟨code', stdout, stderr'⟩).toOption := by
  have hiff : Excused (.parse stdout) ls ↔ Excused (.parse stdout) ms :=
    and_congr_right fun _ => onlyNotices_congr hsame
  by_cases hexcused : Excused (.parse stdout) ls
  · rw [classify_of_excused h hexcused, classify_of_excused h' (hiff.mp hexcused)]
  · rw [classify_of_not_excused h hexcused hcode,
      classify_of_not_excused h' (mt hiff.mpr hexcused) hcode']
    rfl

/-- **The verdict on a copy that exited.** Exit code 0 is a success, whatever stderr says. Any other
one is a success exactly if the copy is excused by its statistics and the lines on stderr, and an
error with this exit code and stderr otherwise. So one more line that is neither blank nor a notice
makes it an error, one more blank line changes nothing, and neither do the order of the lines and
how often each of them is there. -/
theorem verdict_of_exit (stdout : Text) :
    (∀ stderr, classify ⟨some 0, stdout, stderr⟩ = .ok (.parse stdout)) ∧
    ∀ code : Int, code ≠ 0 → ∀ stderr, (∃ ls, HasLines stderr ls) ∧ ∀ ls, HasLines stderr ls →
      (classify ⟨some code, stdout, stderr⟩ = .ok (.parse stdout) ↔ Excused (.parse stdout) ls) ∧
      (¬ Excused (.parse stdout) ls →
        classify ⟨some code, stdout, stderr⟩ = .error (.process (some code) stderr)) ∧
      (∀ l stderr', LineAdded stderr l stderr' → ¬ IsBlankLine l → ¬ IsNotice l →
        classify ⟨some code, stdout, stderr'⟩ = .error (.process (some code) stderr')) ∧
      (∀ l stderr', LineAdded stderr l stderr' → IsBlankLine l →
        (classify ⟨some code, stdout, stderr'⟩).toOption =
          (classify ⟨some code, stdout, stderr⟩).toOption) ∧
      ∀ stderr' ms, HasLines stderr' ms → (∀ l, ¬ IsBlankLine l → (l ∈ ms ↔ l ∈ ls)) →
        (classify ⟨some code, stdout, stderr'⟩).toOption =
          (classify ⟨some code, stdout, stderr⟩).toOption := by
  refine ⟨fun stderr => rfl, fun code hcode stderr => ⟨Text.exists_hasLines stderr, fun ls h => ?_⟩⟩
  have hfailed : some code ≠ some 0 := by simpa using hcode
  refine ⟨classify_eq_ok_iff h hfailed, fun hnot => classify_of_not_excused h hnot hfailed, ?_, ?_,
    fun stderr' ms hms hsame => toOption_classify_congr hms h hsame hfailed hfailed stdout⟩
  · intro l stderr' hadded hsays hother
    obtain ⟨front, back, -, hlines⟩ := hadded.exists_hasLines
    refine classify_of_not_excused hlines (fun hexcused => hother ?_) hfailed
    exact hexcused.2.2 l (by simp) hsays
  · intro l stderr' hadded hblank
    obtain ⟨front, back, hlines, hlines'⟩ := hadded.exists_hasLines
    refine toOption_classify_congr hlines' hlines (fun m hm => ?_) hfailed hfailed stdout
    have hne : m ≠ l := fun heq => hm (heq ▸ hblank)
    simp [hne]

/-- Statistics of a copy that moved files. -/
def threeFiles : Text := "Number of files transferred: 3"

theorem parse_threeFiles : TransferStats.parse threeFiles = ⟨3, 0⟩ := by decide +kernel

/-- Notices of two new host keys. -/
def firstKey : Text := "Warning: Permanently added '[::1]:50123'"
def secondKey : Text := "Warning: Permanently added '[::1]:50124'"

/-- What rsync says when ssh is gone. -/
def connectionClosed : Text := "connection closed"

/-- Two notices are excused, in either order and with a blank line; a complaint between them is
not. -/
theorem verdict_of_exit_complaint :
    let stderr := firstKey ++ '\r' :: '\n' :: (secondKey ++ '\n' :: [])
    let added := (firstKey ++ ['\r', '\n']) ++ (connectionClosed ++ ['\n'] ++ (secondKey ++ ['\n']))
    let shuffled := secondKey ++ '\n' :: ([' '] ++ '\r' :: '\n' :: (firstKey ++ '\n' :: secondKey))
    classify ⟨some 255, threeFiles, stderr⟩ = .ok ⟨3, 0⟩ ∧
      classify ⟨some 255, threeFiles, added⟩ = .error (.process (some 255) added) ∧
      (classify ⟨some 255, threeFiles, shuffled⟩).toOption = some ⟨3, 0⟩ := by
  intro stderr added shuffled
  have hlines : HasLines stderr [firstKey, secondKey] :=
    .returnFeed (by decide) (.feed (by decide) .nil)
  have hshuffled : HasLines shuffled [secondKey, [' '], firstKey, secondKey] :=
    .feed (by decide) (.returnFeed (by decide) (.feed (by decide) (.last (by decide) (by decide))))
  have hadded : LineAdded stderr connectionClosed added :=
    ⟨firstKey ++ ['\r', '\n'], secondKey ++ ['\n'], ['\n'], by simp [stderr],
      fun c hc => by simpa using hc.symm, by decide, .inl rfl, rfl⟩
  have hsays : ∀ l, ¬ IsBlankLine l →
      (l ∈ [secondKey, [' '], firstKey, secondKey] ↔ l ∈ [firstKey, secondKey]) := by
    intro l hl
    have hne : l ≠ [' '] := by
      rintro rfl
      exact hl (by decide)
    simp only [List.mem_cons, List.not_mem_nil, or_false, hne, false_or]
    exact ⟨fun h => h.elim .inr id, .inr⟩
  obtain ⟨-, hfailed⟩ := verdict_of_exit threeFiles
  obtain ⟨-, hverdict⟩ := hfailed 255 (by decide) stderr
  obtain ⟨hexcused, -, hcomplaint, -, hsame⟩ := hverdict _ hlines
  have hok := hexcused.mpr (by rw [parse_threeFiles]; decide)
  rw [parse_threeFiles] at hok
  refine ⟨hok, hcomplaint _ _ hadded (by decide) (by decide), ?_⟩
  rw [hsame shuffled _ hshuffled hsays, hok]
  rfl

/-- **The verdict on a copy that a signal ended.** It is an error without an exit code and with this
stderr, unless the copy is excused; then it counts as a success, as one that exited with any code
but 0 does. -/
theorem failed_of_signal_iff {stderr : Text} {ls : List Text} (h : HasLines stderr ls)
    (stdout : Text) :
    (classify ⟨none, stdout, stderr⟩ = .error (.process none stderr) ↔
      ¬ Excused (.parse stdout) ls) ∧
    (classify ⟨none, stdout, stderr⟩ = .ok (.parse stdout) ↔ Excused (.parse stdout) ls) ∧
    ∀ code : Int, code ≠ 0 →
      (classify ⟨none, stdout, stderr⟩).toOption =
        (classify ⟨some code, stdout, stderr⟩).toOption := by
  have hsignal : (none : Option Int) ≠ some 0 := nofun
  refine ⟨⟨fun herror hexcused => ?_, fun hnot => ?_⟩, classify_eq_ok_iff h hsignal,
    fun code hcode => ?_⟩
  · rw [classify_of_excused h hexcused] at herror
    cases herror
  · exact classify_of_not_excused h hnot hsignal
  · have hfailed : some code ≠ some 0 := by simpa using hcode
    exact toOption_classify_congr h h (fun l _ => Iff.rfl) hsignal hfailed stdout

/-- A copy that a signal ended is not excused where it complained. -/
theorem failed_of_signal_iff_complaint :
    let stderr := firstKey ++ '\n' :: connectionClosed
    classify ⟨none, threeFiles, stderr⟩ = .error (.process none stderr) := by
  intro stderr
  have hlines : HasLines stderr [firstKey, connectionClosed] :=
    .feed (by decide) (.last (by decide) (by decide))
  exact (failed_of_signal_iff hlines threeFiles).1.mpr (by rw [parse_threeFiles]; decide)

/-- A copy that a signal ended counts as a success where it moved files and ssh gave a notice. -/
theorem signal_excused :
    classify ⟨none, threeFiles, firstKey⟩ = .ok ⟨3, 0⟩ ∧
      classify ⟨none, threeFiles, firstKey⟩ ≠ .error (.process none firstKey) := by
  have hlines : HasLines firstKey [firstKey] := .last (by decide) (by decide)
  have hexcused : Excused (.parse threeFiles) [firstKey] := by rw [parse_threeFiles]; decide
  have hok := classify_of_excused hlines hexcused none
  rw [parse_threeFiles] at hok
  exact ⟨hok, by rw [hok]; nofun⟩

end TunnelSync.Rsync
