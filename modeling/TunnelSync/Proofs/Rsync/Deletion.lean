import TunnelSync.Proofs.Rsync.Partition
import TunnelSync.Sync.Run

/-!
# What copies remove at the destination

With `--delete` a run of rsync removes what is at the destination and not in the source, unless the
rules of the run exclude it or a directory above it. A single copy has no rules but those of the
filter. Copies that share the entries each exclude whatever they have no entry for, so none of them
removes a name that is not in the listing at all.

* `deletes` : the switch in an argument vector
* `Removes`, `Removed` : the paths that a copy removes, and those that all copies of a job remove
* `Covers` : the paths that the rules of some entries let through
* `removed_chunks_iff` : which of the paths that a single copy removes are removed by shared copies
* `single_copy_removes_more` : a path that only the single copy removes
-/

namespace TunnelSync.Rsync

/-! ### One copy -/

/-- Whether an argument vector asks rsync to delete. Values of options are not looked at, nor is the
last operand. -/
def deletes : List Text → Bool
  | option :: value :: rest =>
      if option = "--exclude".toList ∨ option = "--include".toList ∨ option = "-e".toList then
        deletes rest
      else option == "--delete".toList || deletes (value :: rest)
  | _ => false

/-- The paths that a copy removes: what the destination has and the source does not have, if the
rules of the copy let it through at the destination with all directories above it. -/
structure Removes (d : Dialect) (source dest : FileNode) (own : Text → Location → Prop)
    (c : Command) (p : Location) : Prop where
  deletes : deletes c.args = true
  below : p ≠ []
  stands : (dest.at? p).isSome = true
  stale : source.at? p = none
  admitted : Sends d dest own c p

theorem deletes_flatMap {α : Type} {option : Text} (f : α → Text)
    (h : option = "--exclude".toList ∨ option = "--include".toList ∨ option = "-e".toList)
    (as : List α) (rest : List Text) :
    deletes (as.flatMap (fun a => [option, f a]) ++ rest) = deletes rest := by
  induction as with
  | nil => rfl
  | cons a as ih =>
      show deletes (option :: f a :: (as.flatMap (fun a => [option, f a]) ++ rest)) = _
      rw [deletes, if_pos h, ih]

theorem deletes_operands (localPath : Bytes) (destination : Text) :
    deletes [sourceArg localPath, destination] = false := by
  have hlast : (sourceArg localPath).getLast? = some '/' := by simp [sourceArg]
  have hne : ∀ option : Text, option.getLast? ≠ some '/' → sourceArg localPath ≠ option := by
    intro option hoption h
    rw [h] at hlast
    exact hoption hlast
  have hvalue : ¬ (sourceArg localPath = "--exclude".toList ∨
      sourceArg localPath = "--include".toList ∨ sourceArg localPath = "-e".toList) := by
    rintro (h | h | h)
    · exact hne _ (by decide) h
    · exact hne _ (by decide) h
    · exact hne _ (by decide) h
  have hswitch : (sourceArg localPath == "--delete".toList) = false :=
    beq_eq_false_iff_ne.mpr (hne _ (by decide))
  rw [deletes, if_neg hvalue, hswitch]
  rfl

theorem deletes_args (c : Command) : deletes c.args = c.options.delete := by
  have hselection : deletes (Command.selectionRules c.selection ++
      [sourceArg c.localPath, c.destination]) = false := by
    cases c.selection with
    | all => exact deletes_operands _ _
    | entries es =>
        rw [Command.selectionRules, List.append_assoc, deletes_flatMap _ (.inr (.inl rfl))]
        show deletes ["--exclude".toList, "*".toList, sourceArg c.localPath, c.destination] = _
        rw [deletes, if_pos (.inl rfl), deletes_operands]
  have hrules : deletes (Command.excludeRules c.filter ++ (Command.selectionRules c.selection ++
      [sourceArg c.localPath, c.destination])) = false := by
    rw [Command.excludeRules, deletes_flatMap (fun p => p) (.inl rfl), hselection]
  unfold Command.args Command.switches
  cases c.options.delete <;> cases c.options.dryRun <;> cases c.options.verbose <;>
    simp [deletes, hrules]

theorem sends_all_iff {d : Dialect} {root : FileNode} {own : Text → Location → Prop} {c : Command}
    (hc : c.selection = .all) {p : Location} :
    Sends d root own c p ↔ ¬ TakenOut own c.filter p := by
  have hadmitted (q : Location) :
      Admitted d root own c.filter.patterns.length (rules c.args) q ↔
        ∀ x ∈ c.filter.patterns, ¬ own x q := by
    have hrules := rules_args c
    rw [hc, List.append_nil] at hrules
    have hlen : (c.filter.patterns.map fun x => (⟨false, x⟩ : Rule)).length =
        c.filter.patterns.length := List.length_map _
    unfold Admitted
    rw [hrules, ← hlen, List.take_length, List.drop_length, List.map_map]
    exact (firstMatch_excludes _ _ _).trans (and_iff_left trivial)
  simp only [Sends, hadmitted, TakenOut, not_exists, not_and]

theorem isSome_top {root : FileNode} {name : Bytes} {rest : Location}
    (h : (root.at? (name :: rest)).isSome = true) : (root.at? [name]).isSome = true := by
  cases rest with
  | nil => exact h
  | cons below rest =>
      obtain ⟨entries, hdir⟩ := isDir_of_isSome h
      rw [hdir]
      rfl

/-! ### All copies of a job -/

/-- A sync of a source to a destination that exists already. What the rules of the filter match
there is up to `own`. -/
structure Mirror where
  source : FileNode
  dest : FileNode
  dialect : Dialect
  own : Text → Location → Prop
  options : Options
  filter : Filter
  localPath : Bytes
  /-- How the calls connect, each in its own way. -/
  shell : Call → Text
  operand : Call → Text

namespace Mirror

/-- The run of rsync for a call. -/
def command (m : Mirror) (c : Call) : Command :=
  { options := m.options, filter := m.filter, selection := c.selection, localPath := m.localPath,
    remoteShell := m.shell c, destination := m.operand c }

/-- The paths that a call removes. -/
def RemovedBy (m : Mirror) (c : Call) (p : Location) : Prop :=
  Removes m.dialect m.source m.dest m.own (m.command c) p

/-- The paths that the copies of a job remove together. -/
def Removed (m : Mirror) (entries : List Entry) (degree : Nat) (p : Location) : Prop :=
  ∃ c ∈ (⟨entries, degree⟩ : Syncer.Job).calls, m.RemovedBy c p

/-- What the destination has under the name of an entry is a directory if, and only if, the entry
is one. -/
def SameKind (m : Mirror) (e : Entry) : Prop :=
  (m.dest.at? [Text.encode e.name]).isSome = true →
    (e.isDir = true ↔ IsDir m.dest [Text.encode e.name])

/-- What a transport runs for the calls of a request are the runs of a mirror. -/
theorem exists_command_eq (m : Mirror) (t : Transport) (h : Host) (r : Request) :
    ∃ shell operand, ∀ c command, t.command? h r c = .ok (some command) →
      command = Mirror.command
        { m with
          options := r.options
          filter := .withBuiltin r.options.exclude
          localPath := r.localPath
          shell := shell
          operand := operand } c := by
  refine ⟨fun c => ((t.command? h r c).toOption.join.map (·.remoteShell)).getD [],
    fun c => ((t.command? h r c).toOption.join.map (·.destination)).getD [], fun c k hk => ?_⟩
  have hfields : k = Transport.commandTo r c k.remoteShell k.destination := by
    cases Transport.makes_of_command? hk with
    | curl program hurl => rfl
    | bridge hurl hport => rfl
  simp only [Mirror.command, hk]
  exact hfields

variable {m : Mirror} {entries : List Entry} {degree : Nat} {p : Location}

/-- A single copy removes what is stale and left by the filter. -/
theorem removed_single_iff :
    m.Removed entries 1 p ↔
      m.options.delete = true ∧ p ≠ [] ∧ (m.dest.at? p).isSome = true ∧ m.source.at? p = none ∧
        ¬ TakenOut m.own m.filter p := by
  have hsends : Sends m.dialect m.dest m.own (m.command ⟨1, .all⟩) p ↔
      ¬ TakenOut m.own m.filter p := sends_all_iff rfl
  have hdelete : deletes (m.command ⟨1, .all⟩).args = m.options.delete := deletes_args _
  constructor
  · rintro ⟨c, hc, h⟩
    obtain rfl : c = ⟨1, .all⟩ := by simpa [Syncer.Job.calls] using hc
    exact ⟨hdelete ▸ h.deletes, h.below, h.stands, h.stale, hsends.mp h.admitted⟩
  · rintro ⟨ho, hne, hstands, hstale, hleft⟩
    exact ⟨⟨1, .all⟩, by simp [Syncer.Job.calls],
      hdelete.trans ho, hne, hstands, hstale, hsends.mpr hleft⟩

/-- Shared copies remove of that what the rules of one of them cover. -/
theorem removed_shared_iff (hdegree : 2 ≤ degree) :
    m.Removed entries degree p ↔
      m.Removed entries 1 p ∧
        ∃ c ∈ Plan.split entries degree, Covers m.dialect m.dest c.entries p := by
  have hcalls : (⟨entries, degree⟩ : Syncer.Job).calls =
      (Plan.split entries degree).map fun c => ⟨c.worker, .entries c.entries⟩ :=
    if_neg (by omega : degree ≠ 1)
  have hsends (c : Chunk) :
      Sends m.dialect m.dest m.own (m.command ⟨c.worker, .entries c.entries⟩) p ↔
        ¬ TakenOut m.own m.filter p ∧ Covers m.dialect m.dest c.entries p :=
    sends_entries_iff (c := m.command _) rfl
  have hdelete (c : Call) : deletes (m.command c).args = m.options.delete := deletes_args _
  rw [removed_single_iff]
  constructor
  · rintro ⟨call, hcall, h⟩
    rw [hcalls] at hcall
    obtain ⟨c, hc, rfl⟩ := List.mem_map.mp hcall
    obtain ⟨hleft, hcovers⟩ := (hsends c).mp h.admitted
    exact ⟨⟨hdelete _ ▸ h.deletes, h.below, h.stands, h.stale, hleft⟩, c, hc, hcovers⟩
  · rintro ⟨⟨ho, hne, hstands, hstale, hleft⟩, c, hc, hcovers⟩
    refine ⟨⟨c.worker, .entries c.entries⟩, ?_, (hdelete _).trans ho, hne, hstands, hstale,
      (hsends c).mpr ⟨hleft, hcovers⟩⟩
    rw [hcalls]
    exact List.mem_map.mpr ⟨c, hc, rfl⟩

theorem exists_covers (hl : Listing entries) {e : Entry} (he : e ∈ entries) (hkind : m.SameKind e)
    {rest : Location} (hp : (m.dest.at? (Text.encode e.name :: rest)).isSome = true)
    (degree : Nat) :
    ∃ c ∈ Plan.split entries degree,
      Covers m.dialect m.dest c.entries (Text.encode e.name :: rest) := by
  obtain ⟨c, hc, hmem⟩ := Plan.exists_mem_chunk degree he
  have hdir := hkind (isSome_top hp)
  exact ⟨c, hc, (covers_iff hl (fun _ => Plan.mem_of_mem_chunk hc) he hdir hp).mpr hmem⟩

/-- **What shared copies remove.** Of the paths that a single copy removes, copies that share the
entries remove those that the rules of one of them cover, and these lie at or below an entry. If the
kinds at the top agree, they are all that lie there. So both remove the same if, and only if, the
single copy removes nothing under a name that the listing does not have. -/
theorem removed_chunks_iff (m : Mirror) (hl : Listing entries) (hdegree : 2 ≤ degree) :
    (∀ p, m.Removed entries degree p ↔ m.Removed entries 1 p ∧
      ∃ c ∈ Plan.split entries degree, Covers m.dialect m.dest c.entries p) ∧
    (∀ name rest, m.Removed entries degree (name :: rest) →
      ∃ e ∈ entries, Text.encode e.name = name) ∧
    ((∀ e ∈ entries, m.SameKind e) →
      (∀ name rest, m.Removed entries degree (name :: rest) ↔
        m.Removed entries 1 (name :: rest) ∧ ∃ e ∈ entries, Text.encode e.name = name) ∧
      ((∀ p, m.Removed entries degree p ↔ m.Removed entries 1 p) ↔
        ∀ name rest, m.Removed entries 1 (name :: rest) →
          ∃ e ∈ entries, Text.encode e.name = name)) := by
  have hshared : ∀ p, m.Removed entries degree p ↔ m.Removed entries 1 p ∧
      ∃ c ∈ Plan.split entries degree, Covers m.dialect m.dest c.entries p :=
    fun p => removed_shared_iff hdegree
  have hlisted : ∀ name rest, m.Removed entries degree (name :: rest) →
      ∃ e ∈ entries, Text.encode e.name = name := by
    intro name rest h
    obtain ⟨-, c, hc, hcovers⟩ := (hshared _).mp h
    have hsub : ∀ e ∈ c.entries, e ∈ entries := fun _ => Plan.mem_of_mem_chunk hc
    obtain ⟨e, he, hname⟩ :=
      exists_entry_of_covers (fun e he => hl.slash_free e (hsub e he)) hcovers
    exact ⟨e, hsub e he, hname⟩
  refine ⟨hshared, hlisted, fun hkinds => ?_⟩
  have hagree : ∀ name rest, m.Removed entries degree (name :: rest) ↔
      m.Removed entries 1 (name :: rest) ∧ ∃ e ∈ entries, Text.encode e.name = name := by
    refine fun name rest => ⟨fun h => ⟨((hshared _).mp h).1, hlisted name rest h⟩, ?_⟩
    rintro ⟨hsingle, e, he, rfl⟩
    obtain ⟨-, -, hstands, -⟩ := removed_single_iff.mp hsingle
    exact (hshared _).mpr ⟨hsingle, exists_covers hl he (hkinds e he) hstands degree⟩
  refine ⟨hagree, fun hsame name rest h => hlisted name rest ((hsame _).mpr h), fun hall p => ?_⟩
  cases p with
  | nil =>
      -- the destination itself is never removed
      refine ⟨fun h => ((hshared _).mp h).1, fun h => ?_⟩
      exact absurd rfl (removed_single_iff.mp h).2.1
  | cons name rest => exact (hagree name rest).trans (and_iff_left_of_imp (hall name rest))

/-- A directory and a file; the destination has them too, with a stale file in the directory and
another one beside it. -/
def staleMirror : Mirror :=
  { source := .dir
      [(Text.encode "a", .dir [(Text.encode "f", .file [])]), (Text.encode "b", .file [])]
    dest := .dir
      [(Text.encode "a", .dir [(Text.encode "f", .file []), (Text.encode "g", .file [])]),
        (Text.encode "b", .file []), (Text.encode "old", .file [])]
    dialect := ⟨fun _ _ => False, fun _ _ => False⟩
    own := fun _ _ => False
    options := { Options.none with delete := true }
    filter := .withBuiltin []
    localPath := Text.encode "/"
    shell := fun _ => "ssh"
    operand := fun _ => "user@host:/r/" }

theorem removed_stale {p : Location}
    (hp : p = [Text.encode "a", Text.encode "g"] ∨ p = [Text.encode "old"]) :
    staleMirror.Removed [.dir "a", .file "b"] 1 p := by
  have hleft : ¬ TakenOut staleMirror.own staleMirror.filter p := by
    rintro ⟨q, -, -, x, -, hown⟩
    exact hown
  refine removed_single_iff.mpr ⟨rfl, ?_, ?_, ?_, hleft⟩ <;> rcases hp with rfl | rfl <;> decide

/-- Copies that share the entries remove the stale file in the directory. -/
theorem removed_chunks_iff_stale :
    staleMirror.Removed [.dir "a", .file "b"] 2 [Text.encode "a", Text.encode "g"] ∧
      ¬ ∀ p, staleMirror.Removed [.dir "a", .file "b"] 2 p ↔
        staleMirror.Removed [.dir "a", .file "b"] 1 p := by
  have hl : Listing [.dir "a", .file "b"] := ⟨by decide, by decide⟩
  have hkinds : ∀ e ∈ [Entry.dir "a", .file "b"], staleMirror.SameKind e := by
    intro e he _
    simp only [List.mem_cons, List.not_mem_nil, or_false] at he
    rcases he with rfl | rfl
    · exact ⟨fun _ => ⟨_, rfl⟩, fun _ => rfl⟩
    · refine ⟨nofun, ?_⟩
      rintro ⟨below, hdir⟩
      have hfile : some (FileNode.file []) = some (.dir below) := hdir
      cases hfile
  obtain ⟨-, -, hagree⟩ := removed_chunks_iff staleMirror hl (Nat.le_refl 2)
  obtain ⟨hbelow, hsame⟩ := hagree hkinds
  refine ⟨(hbelow _ _).mpr ⟨removed_stale (.inl rfl), .dir "a", by simp, rfl⟩, fun h => ?_⟩
  obtain ⟨e, he, hname⟩ := hsame.mp h _ _ (removed_stale (.inr rfl))
  revert hname
  revert e
  decide

/-- At degree 1 the stale file beside the entries is removed, and at degree 2 it stays. -/
theorem single_copy_removes_more :
    Scan.list staleMirror.filter staleMirror.source [] staleMirror.localPath =
        .ok [.dir "a", .file "b"] ∧
      staleMirror.Removed [.dir "a", .file "b"] 1 [Text.encode "old"] ∧
      ¬ staleMirror.Removed [.dir "a", .file "b"] 2 [Text.encode "old"] := by
  refine ⟨?_, removed_stale (.inr rfl), fun h => ?_⟩
  · have hnames : FileNode.names staleMirror.localPath = [FileNode.here] := by decide
    have hfind : staleMirror.source.find [] staleMirror.localPath = .ok staleMirror.source := by
      rw [FileNode.find, FileNode.locate, hnames]
      simp only [FileNode.walk]
      rfl
    have hopen : staleMirror.source.openDir [] staleMirror.localPath = .ok staleMirror.source := by
      have hnode : staleMirror.source.openNode [] staleMirror.localPath =
          staleMirror.source.find [] staleMirror.localPath := rfl
      rw [FileNode.openDir, hnode, hfind]
      rfl
    have hreading : Scan.reading staleMirror.source [] staleMirror.localPath =
        .ok [.ok ⟨Text.encode "a", .ok .dir⟩, .ok ⟨Text.encode "b", .ok .file⟩] := by
      rw [Scan.reading, hopen]
      rfl
    have hentries : Scan.entries staleMirror.filter
        [.ok ⟨Text.encode "a", .ok .dir⟩, .ok ⟨Text.encode "b", .ok .file⟩] =
          .ok [.dir "a", .file "b"] := by decide +kernel
    have hsorted : [Entry.dir "a", .file "b"].Pairwise fun e e' => e.le e' = true := by decide
    rw [Scan.list, Scan.topLevel, hreading, Except.bind, hentries]
    exact congrArg Except.ok (List.mergeSort_of_pairwise hsorted)
  · obtain ⟨-, c, hc, hcovers⟩ := (removed_shared_iff (Nat.le_refl 2)).mp h
    have hsub : ∀ e ∈ c.entries, e ∈ [Entry.dir "a", .file "b"] := fun _ => Plan.mem_of_mem_chunk hc
    have hslash : ∀ e ∈ [Entry.dir "a", .file "b"], '/' ∉ e.name := by decide
    obtain ⟨e, he, hname⟩ := exists_entry_of_covers (fun e he => hslash e (hsub e he)) hcovers
    have hother : ∀ e ∈ [Entry.dir "a", .file "b"], Text.encode e.name ≠ Text.encode "old" := by
      decide
    exact hother e (hsub e he) hname

end Mirror

end TunnelSync.Rsync
