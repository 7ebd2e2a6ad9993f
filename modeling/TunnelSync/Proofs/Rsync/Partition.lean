import TunnelSync.Proofs.Plan
import TunnelSync.Proofs.Rsync.Rules

/-!
# The copies of a sync share the tree

Each copy has the rules of the filter first, then one rule for each of its entries, then a rule that
keeps out everything else. A top-level name gets past the last rule in the copy that holds its entry
and in no other one: no rule for another entry says anything of it. What lies below a directory gets
past with it. So what the filter leaves is sent by one copy, and what it takes out by none.
-/

namespace TunnelSync.Rsync

/-- Entries as they stand in one directory. -/
structure Listing (entries : List Entry) : Prop where
  nodup_names : (entries.map (·.name)).Nodup
  slash_free : ∀ e ∈ entries, '/' ∉ e.name

theorem Listing.nodup {entries : List Entry} (h : Listing entries) : entries.Nodup :=
  h.nodup_names.of_map _

/-- The run of rsync for a chunk. The chunks may differ in how they connect. -/
def chunkCommand (o : Options) (f : Filter) (localPath : Bytes) (shell destination : Chunk → Text)
    (c : Chunk) : Command :=
  { options := o, filter := f, selection := .entries c.entries, localPath := localPath,
    remoteShell := shell c, destination := destination c }

/-- Whether the rules of a filter take out a path or a directory above it. -/
def TakenOut (own : Text → Location → Prop) (f : Filter) (p : Location) : Prop :=
  ∃ q, q ≠ [] ∧ q <+: p ∧ ∃ x ∈ f.patterns, own x q

/-! ### Below a top-level name -/

theorem exists_dir_of_isSome {n : FileNode} {name : Bytes} {rest : Location}
    (h : (n.at? (name :: rest)).isSome = true) : ∃ entries, n = .dir entries := by
  cases n with
  | dir entries => exact ⟨entries, rfl⟩
  | file content => simp [FileNode.at?, FileNode.child?, FileNode.entries?] at h
  | link target => simp [FileNode.at?, FileNode.child?, FileNode.entries?] at h

theorem isDir_of_isSome {root : FileNode} {name below : Bytes} {rest : Location}
    (h : (root.at? (name :: below :: rest)).isSome = true) : IsDir root [name] := by
  have hsplit : root.at? (name :: below :: rest) =
      (root.child? name).bind (·.at? (below :: rest)) := rfl
  rw [hsplit] at h
  cases hchild : root.child? name with
  | none => simp [hchild] at h
  | some n =>
      rw [hchild] at h
      obtain ⟨entries, rfl⟩ := exists_dir_of_isSome h
      refine ⟨entries, ?_⟩
      show (root.child? name).bind (·.at? []) = _
      rw [hchild]
      rfl

theorem eq_singleton_of_isPrefix {α : Type} {q : List α} {a b : α} (h : q <+: [a])
    (hb : q.getLast? = some b) : b = a := by
  obtain ⟨rest, hrest⟩ := h
  cases q with
  | nil => cases hb
  | cons x q =>
      obtain ⟨rfl, hq⟩ := List.cons_eq_cons.mp hrest
      obtain ⟨rfl, -⟩ := List.append_eq_nil_iff.mp hq
      simpa [eq_comm] using hb

section
variable {d : Dialect} {root : FileNode} {e : Entry}

/-- The rule of an entry matches the entry and what is below it. -/
theorem matches_below (he : '/' ∉ e.name) (hdir : e.isDir = true ↔ IsDir root [Text.encode e.name])
    {rest q : Location} (hp : (root.at? (Text.encode e.name :: rest)).isSome = true)
    (hne : q ≠ []) (hq : q <+: Text.encode e.name :: rest) :
    Matches d root (includePattern e) q := by
  rw [matches_includePattern_iff he]
  obtain ⟨name, q, rfl⟩ := List.exists_cons_of_ne_nil hne
  obtain ⟨rfl, hbelow⟩ := List.cons_prefix_cons.mp hq
  cases h : e.isDir with
  | true =>
      rw [if_pos rfl]
      exact ⟨[Text.encode e.name], by simp, rfl, hdir.mp h⟩
  | false =>
      have hrest : rest = [] := by
        cases rest with
        | nil => rfl
        | cons below rest =>
            have hd := hdir.mpr (isDir_of_isSome hp)
            rw [h] at hd
            cases hd
      rw [hrest, List.prefix_nil] at hbelow
      rw [if_neg (by simp), hbelow]
      rfl

theorem encode_name_of_matches (he : '/' ∉ e.name) {name : Bytes}
    (h : Matches d root (includePattern e) [name]) : Text.encode e.name = name := by
  rw [matches_includePattern_iff he] at h
  split at h
  · obtain ⟨q, hq, hlast, -⟩ := h
    exact eq_singleton_of_isPrefix hq hlast
  · simpa [eq_comm] using h

end

/-! ### What some entries let through -/

/-- The paths that the rules of some entries let through: one of the rules matches the path, and one
matches each directory above it. -/
def Covers (d : Dialect) (root : FileNode) (es : List Entry) (p : Location) : Prop :=
  ∀ q, q ≠ [] → q <+: p → ∃ e ∈ es, Matches d root (includePattern e) q

section
variable {d : Dialect} {root : FileNode} {own : Text → Location → Prop} {c : Command}

theorem sends_entries_iff {es : List Entry} (hc : c.selection = .entries es) {p : Location} :
    Sends d root own c p ↔ ¬ TakenOut own c.filter p ∧ Covers d root es p := by
  have hadmitted (q : Location) (hq : q ≠ []) :
      Admitted d root own c.filter.patterns.length (rules c.args) q ↔
        (∀ x ∈ c.filter.patterns, ¬ own x q) ∧ ∃ e ∈ es, Matches d root (includePattern e) q := by
    have hstar : Matches d root "*".toList q := matches_star (List.getLast?_eq_some_getLast hq)
    rw [admitted_entries_iff hc]
    simp only [hstar, not_true_eq_false, or_false]
  constructor
  · intro hs
    refine ⟨?_, fun q hne hq => ((hadmitted q hne).mp (hs q hne hq)).2⟩
    rintro ⟨q, hne, hq, x, hx, hown⟩
    exact ((hadmitted q hne).mp (hs q hne hq)).1 x hx hown
  · rintro ⟨hleft, hcovers⟩ q hne hq
    exact (hadmitted q hne).mpr ⟨fun x hx hown => hleft ⟨q, hne, hq, x, hx, hown⟩, hcovers q hne hq⟩

theorem exists_entry_of_covers {es : List Entry} (hes : ∀ e ∈ es, '/' ∉ e.name) {name : Bytes}
    {rest : Location} (h : Covers d root es (name :: rest)) :
    ∃ e ∈ es, Text.encode e.name = name := by
  obtain ⟨e, he, hmatch⟩ := h [name] (by simp) (by simp)
  exact ⟨e, he, encode_name_of_matches (hes e he) hmatch⟩

theorem covers_iff {entries : List Entry} (hl : Listing entries) {es : List Entry}
    (hes : ∀ e' ∈ es, e' ∈ entries) {e : Entry} (he : e ∈ entries)
    (hdir : e.isDir = true ↔ IsDir root [Text.encode e.name]) {rest : Location}
    (hp : (root.at? (Text.encode e.name :: rest)).isSome = true) :
    Covers d root es (Text.encode e.name :: rest) ↔ e ∈ es := by
  constructor
  · intro h
    obtain ⟨e', he', hname⟩ :=
      exists_entry_of_covers (fun e' he' => hl.slash_free e' (hes e' he')) h
    obtain rfl := List.inj_on_of_nodup_map hl.nodup_names (hes e' he') he
      (Text.encode_injective hname)
    exact he'
  · intro hmem q hne hq
    exact ⟨e, hmem, matches_below (hl.slash_free e he) hdir hp hne hq⟩

end

/-! ### The chunks -/

section
variable (d : Dialect) (root : FileNode) (own : Text → Location → Prop) (o : Options) (f : Filter)
  (localPath : Bytes) (shell destination : Chunk → Text)

/-- A chunk sends what is at or below its own entries and left by the filter. -/
theorem sends_chunk_iff {entries : List Entry} (hl : Listing entries) {degree : Nat} {c : Chunk}
    (hc : c ∈ Plan.split entries degree) {e : Entry} (he : e ∈ entries)
    (hdir : e.isDir = true ↔ IsDir root [Text.encode e.name]) {rest : Location}
    (hp : (root.at? (Text.encode e.name :: rest)).isSome = true) :
    Sends d root own (chunkCommand o f localPath shell destination c) (Text.encode e.name :: rest) ↔
      e ∈ c.entries ∧ ¬ TakenOut own f (Text.encode e.name :: rest) := by
  have hsends : Sends d root own (chunkCommand o f localPath shell destination c)
      (Text.encode e.name :: rest) ↔
        ¬ TakenOut own f (Text.encode e.name :: rest) ∧
          Covers d root c.entries (Text.encode e.name :: rest) :=
    sends_entries_iff (c := chunkCommand o f localPath shell destination c) rfl
  rw [hsends, covers_iff hl (fun _ => Plan.mem_of_mem_chunk hc) he hdir hp, and_comm]

/-- **The chunks share the tree.** Whatever is at or below an entry, and whatever the rules of the
filter match: if they match it or a directory above it, no chunk sends it; else the chunk that holds
the entry sends it, and no other one. -/
theorem chunks_partition {entries : List Entry} (hl : Listing entries) (degree : Nat) {e : Entry}
    (he : e ∈ entries) (hdir : e.isDir = true ↔ IsDir root [Text.encode e.name]) {rest : Location}
    (hp : (root.at? (Text.encode e.name :: rest)).isSome = true) :
    (TakenOut own f (Text.encode e.name :: rest) → ∀ c ∈ Plan.split entries degree,
      ¬ Sends d root own (chunkCommand o f localPath shell destination c)
        (Text.encode e.name :: rest)) ∧
    (¬ TakenOut own f (Text.encode e.name :: rest) →
      ∃ c ∈ Plan.split entries degree, e ∈ c.entries ∧
        Sends d root own (chunkCommand o f localPath shell destination c)
          (Text.encode e.name :: rest) ∧
        ∀ c' ∈ Plan.split entries degree,
          Sends d root own (chunkCommand o f localPath shell destination c')
            (Text.encode e.name :: rest) → c' = c) := by
  have hsends : ∀ c ∈ Plan.split entries degree,
      (Sends d root own (chunkCommand o f localPath shell destination c)
          (Text.encode e.name :: rest) ↔
        e ∈ c.entries ∧ ¬ TakenOut own f (Text.encode e.name :: rest)) := fun c hc =>
    sends_chunk_iff d root own o f localPath shell destination hl hc he hdir hp
  constructor
  · intro hout c hc hs
    exact ((hsends c hc).mp hs).2 hout
  · intro hleft
    obtain ⟨c, hc, hmem⟩ := Plan.exists_mem_chunk degree he
    refine ⟨c, hc, hmem, (hsends c hc).mpr ⟨hmem, hleft⟩, fun c' hc' hs => ?_⟩
    exact Plan.chunk_eq_of_mem hl.nodup hc' hc ((hsends c' hc').mp hs).1 hmem

end

/-- A directory whose name has a wildcard, with a log in it, and a file. -/
def logTree : FileNode :=
  .dir
    [(Text.encode "a*", .dir [(Text.encode "x", .file []), (Text.encode "x.log", .file [])]),
      (Text.encode "b", .file [])]

/-- The copies of `logTree`, without logs. -/
def logCommand : Chunk → Command :=
  chunkCommand .none ⟨["*.log"]⟩ [0x2F] (fun _ => "ssh") (fun _ => "user@host:/")

/-- The rule of the filter matches the log. -/
def isLog (_ : Text) (p : Location) : Prop := p.getLast? = some (Text.encode "x.log")

theorem chunks_partition_logTree :
    (∃ c ∈ Plan.split [.dir "a*", .file "b"] 2, .dir "a*" ∈ c.entries ∧
      Sends ⟨fun _ _ => False, fun _ _ => False⟩ logTree isLog (logCommand c)
        [Text.encode "a*", Text.encode "x"]) ∧
    ∀ c ∈ Plan.split [.dir "a*", .file "b"] 2,
      ¬ Sends ⟨fun _ _ => False, fun _ _ => False⟩ logTree isLog (logCommand c)
        [Text.encode "a*", Text.encode "x.log"] := by
  have hl : Listing [.dir "a*", .file "b"] := ⟨by decide, by decide⟩
  have hdir : (Entry.dir "a*").isDir = true ↔ IsDir logTree [Text.encode "a*"] :=
    ⟨fun _ => ⟨_, rfl⟩, fun _ => rfl⟩
  have hshare := fun (rest : Location)
      (hp : (logTree.at? (Text.encode "a*" :: rest)).isSome = true) =>
    chunks_partition ⟨fun _ _ => False, fun _ _ => False⟩ logTree isLog .none ⟨["*.log"]⟩ [0x2F]
      (fun _ => "ssh") (fun _ => "user@host:/") hl 2 (by simp) hdir hp
  constructor
  · have hleft : ¬ TakenOut isLog ⟨["*.log"]⟩ [Text.encode "a*", Text.encode "x"] := by
      rintro ⟨q, -, hq, x, -, hlast⟩
      have hmem := hq.subset (List.mem_of_getLast? hlast)
      revert hmem
      decide
    obtain ⟨c, hc, hmem, hs, -⟩ := (hshare [Text.encode "x"] (by decide)).2 hleft
    exact ⟨c, hc, hmem, hs⟩
  · exact (hshare [Text.encode "x.log"] (by decide)).1
      ⟨_, by simp, List.prefix_rfl, "*.log".toList, by simp, rfl⟩

end TunnelSync.Rsync
