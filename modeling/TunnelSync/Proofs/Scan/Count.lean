import TunnelSync.Proofs.Os.Nodes
import TunnelSync.Proofs.Scan

/-!
# The count of a directory

The files below a directory are counted in one walk that leaves out excluded names at every depth,
and the listing has the entries of the directory alone. Both look at the same names: what is counted
is one for each entry that is no directory, and the count of each entry that is one.

* `isCounted` : what counts of the nodes of a tree
* `countFiles_eq` : the count of a tree, node by node
* `countFiles_mono` : more patterns, fewer files
* `count_eq_sum` : the count and the listing of a directory
-/

namespace TunnelSync

theorem Filter.excludes_mono {f g : Filter} (h : f.patterns ⊆ g.patterns) {name : Text}
    (hname : f.excludes name = true) : g.excludes name = true := by
  rw [Filter.excludes, List.any_eq_true] at hname ⊢
  obtain ⟨p, hp, hmatch⟩ := hname
  exact ⟨p, h hp, hmatch⟩

namespace Scan
open FileNode

/-! ### What is counted -/

/-- Whether a node counts: it is no directory, and none of the names on the way to it is excluded. -/
def isCounted (f : Filter) (x : Location × FileNode) : Bool :=
  x.2.kind != .dir && x.1.all fun name => !f.excludes (Text.decodeLossy name)

theorem isCounted_cons (f : Filter) (name : Bytes) (l : Location) (n : FileNode) :
    isCounted f (name :: l, n) =
      (!f.excludes (Text.decodeLossy name) && isCounted f (l, n)) := by
  rw [isCounted, isCounted, List.all_cons, Bool.and_left_comm]

theorem isCounted_mono {f g : Filter} (h : f.patterns ⊆ g.patterns) {x : Location × FileNode}
    (hx : isCounted g x = true) : isCounted f x = true := by
  simp only [isCounted, Bool.and_eq_true, List.all_eq_true, Bool.not_eq_true',
    ← Bool.not_eq_true] at hx ⊢
  exact ⟨hx.1, fun name hname => mt (Filter.excludes_mono h) (hx.2 name hname)⟩

/-! ### The count of a tree -/

theorem countEntries_eq_sum (f : Filter) (entries : List (Bytes × FileNode)) :
    countEntries f entries =
      ((entries.filter fun x => !f.excludes (Text.decodeLossy x.1)).map fun x =>
        countFiles f x.2).sum := by
  induction entries with
  | nil => rfl
  | cons x entries ih =>
      rw [countEntries, ih, List.filter_cons]
      cases f.excludes (Text.decodeLossy x.1) <;> simp

theorem countP_beneath (f : Filter) (entries : List (Bytes × FileNode)) :
    (beneath entries).countP (isCounted f) =
      ((entries.filter fun x => !f.excludes (Text.decodeLossy x.1)).map fun x =>
        (nodes x.2).countP (isCounted f)).sum := by
  induction entries with
  | nil => rfl
  | cons x entries ih =>
      have hcons : isCounted f ∘ (fun y : Location × FileNode => (x.1 :: y.1, y.2)) =
          fun y => !f.excludes (Text.decodeLossy x.1) && isCounted f y :=
        funext fun y => isCounted_cons f x.1 y.1 y.2
      rw [beneath, List.countP_append, List.countP_map, hcons, ih, List.filter_cons]
      cases f.excludes (Text.decodeLossy x.1) <;> simp

theorem countEntries_of_forall {f : Filter} {entries : List (Bytes × FileNode)}
    (h : ∀ x ∈ entries, countFiles f x.2 = (nodes x.2).countP (isCounted f)) :
    countEntries f entries = (beneath entries).countP (isCounted f) := by
  rw [countEntries_eq_sum, countP_beneath]
  exact congrArg List.sum (List.map_congr_left fun x hx => h x (List.mem_of_mem_filter hx))

/-- The walk counts the nodes that are to be counted, each of them once. -/
theorem countFiles_eq (f : Filter) (n : FileNode) :
    countFiles f n = (nodes n).countP (isCounted f) := by
  induction n using FileNode.induction with
  | file content => rfl
  | link target => rfl
  | dir entries ih =>
      rw [countFiles, nodes, List.countP_cons_of_neg (by simp [isCounted, kind])]
      exact countEntries_of_forall ih

theorem countEntries_eq (f : Filter) (entries : List (Bytes × FileNode)) :
    countEntries f entries = (beneath entries).countP (isCounted f) :=
  countEntries_of_forall fun x _ => countFiles_eq f x.2

theorem countFiles_mono {f g : Filter} (h : f.patterns ⊆ g.patterns) (n : FileNode) :
    countFiles g n ≤ countFiles f n := by
  rw [countFiles_eq, countFiles_eq]
  exact List.countP_mono_left fun _ _ => isCounted_mono h

/-! ### The count of a directory -/

section
variable {root : FileNode} {cwd : Location} {path : Bytes} {children : List (Bytes × FileNode)}

theorem count_eq (h : root.openDir cwd path = .ok (.dir children)) (f : Filter) :
    count f root cwd path = countEntries f children := by
  rw [count, h]
  rfl

/-- What an entry of a directory counts for. -/
def countName (f : Filter) (root : FileNode) (cwd : Location) (path : Bytes) (isDir : Bool)
    (name : Bytes) : Nat :=
  if isDir then count f root cwd (join path name) else 1

theorem countName_eq (hopen : root.openDir cwd path = .ok (.dir children))
    (hnamed : (dir children).WellNamed)
    (hpath : ∀ name below, (name, .dir below) ∈ children → (join path name).length < maxPath)
    (f : Filter) {x : Bytes × FileNode} (hx : x ∈ children) :
    countName f root cwd path (treeEntry x).isDir x.1 = countFiles f x.2 := by
  obtain ⟨name, n⟩ := x
  cases hnamed with
  | dir hnodup hnames _ =>
      cases n with
      | file content => rfl
      | link target => rfl
      | dir below =>
          have hbelow := openDir_join hopen (hnames _ hx)
            ((lookup_eq_some_iff_mem hnodup).mpr hx) (hpath _ _ hx)
          exact count_eq hbelow f

/-- **The count and the listing agree.** What is counted for a directory that can be opened is one
for each entry of its listing that is no directory, and for each that is one the count of its own
path. So the count is the number of nodes behind one name or more, links not followed, that are no
directories and have no excluded name on the way to them. With more patterns it does not grow, and
if the listing is empty it is 0. -/
theorem count_eq_sum (hopen : root.openDir cwd path = .ok (.dir children))
    (hnamed : (dir children).WellNamed)
    (hpath : ∀ name below, (name, .dir below) ∈ children → (join path name).length < maxPath)
    (f : Filter) :
    (∃ kept : List (Bytes × FileNode),
      kept.Perm (children.filter fun x => !f.excludes (Text.decodeLossy x.1)) ∧
      list f root cwd path = .ok (kept.map treeEntry) ∧
      count f root cwd path =
        (kept.map fun x => countName f root cwd path (treeEntry x).isDir x.1).sum) ∧
    (∀ es, (∀ x ∈ children, ∃ t, x.1 = Text.encode t) → list f root cwd path = .ok es →
      count f root cwd path =
        (es.map fun e => countName f root cwd path e.isDir (Text.encode e.name)).sum) ∧
    (∃ found : List (Location × FileNode), (found.map Prod.fst).Nodup ∧
      (∀ l n, (l, n) ∈ found ↔ l ≠ [] ∧ (dir children).at? l = some n ∧ n.kind ≠ .dir ∧
        ∀ name ∈ l, f.excludes (Text.decodeLossy name) = false) ∧
      count f root cwd path = found.length) ∧
    (∀ g : Filter, f.patterns ⊆ g.patterns → count g root cwd path ≤ count f root cwd path) ∧
    (list f root cwd path = .ok [] → count f root cwd path = 0) := by
  obtain ⟨kept, hperm, hlist⟩ := exists_kept_of_openDir hopen f
  have hkept : ∀ x ∈ kept, x ∈ children := fun x hx =>
    List.mem_of_mem_filter (hperm.mem_iff.mp hx)
  have hsum : count f root cwd path =
      (kept.map fun x => countName f root cwd path (treeEntry x).isDir x.1).sum := by
    rw [List.map_congr_left fun x hx => countName_eq hopen hnamed hpath f (hkept x hx),
      (hperm.map _).sum_nat, count_eq hopen, countEntries_eq_sum]
  refine ⟨⟨kept, hperm, hlist, hsum⟩, fun es hutf8 hes => ?_, ?_, fun g h => ?_, fun h => ?_⟩
  · obtain rfl : kept.map treeEntry = es := Except.ok.inj (hlist.symm.trans hes)
    rw [hsum, List.map_map]
    refine congrArg List.sum (List.map_congr_left fun x hx => ?_)
    obtain ⟨t, ht⟩ := hutf8 x (hkept x hx)
    have hname : Text.encode (treeEntry x).name = x.1 := by
      rw [treeEntry, ht, Text.decodeLossy_encode]
    rw [Function.comp_apply, hname]
  · refine ⟨(beneath children).filter (isCounted f), ?_, fun l n => ?_, ?_⟩
    · exact (nodup_beneath hnamed).sublist ((List.filter_sublist).map _)
    · rw [List.mem_filter, mem_beneath_iff hnamed]
      simp [isCounted, and_assoc]
    · rw [count_eq hopen, countEntries_eq, List.countP_eq_length_filter]
  · rw [count_eq hopen, count_eq hopen]
    exact countFiles_mono h (.dir children)
  · have hnil : kept = [] := List.map_eq_nil_iff.mp (Except.ok.inj (hlist.symm.trans h))
    rw [hsum, hnil]
    rfl

end

/-- A directory that has an excluded directory in it, and a link to the top. Its own name is excluded
as well. -/
def someEntries : List (Bytes × FileNode) :=
  [(Text.encode "a", .dir [(Text.encode "x", .file []), (Text.encode "skip", .file [])]),
    (Text.encode "skip", .dir [(Text.encode "y", .file [])]), (Text.encode "l", .link [slash])]

theorem count_eq_sum_excluded :
    let f : Filter := ⟨["skip"]⟩
    let root : FileNode := .dir [(Text.encode "skip", .dir someEntries)]
    ∃ es, list f root [] (Text.encode "/skip") = .ok es ∧
      count f root [] (Text.encode "/skip") = 2 ∧
      (es.map fun e =>
        countName f root [] (Text.encode "/skip") e.isDir (Text.encode e.name)).sum = 2 ∧
      count ⟨["skip", "a"]⟩ root [] (Text.encode "/skip") ≤ 2 := by
  intro f root
  have hnamed : (dir someEntries).WellNamed := by
    refine .dir (by decide) (by decide) ?_
    simp only [someEntries, List.forall_mem_cons]
    refine ⟨.dir (by decide) (by decide) ?_, .dir (by decide) (by decide) ?_, .link _,
      List.forall_mem_nil _⟩
    · simp [WellNamed.file]
    · simp [WellNamed.file]
  have hname : IsName (Text.encode "skip") := by decide
  have hopen : root.openDir [] (Text.encode "/skip") = .ok (.dir someEntries) :=
    openDir_join (openDir_slash rfl []) hname rfl (by decide)
  have hpath : ∀ name below, (name, dir below) ∈ someEntries →
      (join (Text.encode "/skip") name).length < maxPath := by
    intro name below h
    have hall : ∀ x ∈ someEntries, (join (Text.encode "/skip") x.1).length < maxPath := by decide
    exact hall _ h
  have hutf8 : ∀ x ∈ someEntries, ∃ t, x.1 = Text.encode t := by
    simp only [someEntries, List.forall_mem_cons]
    exact ⟨⟨_, rfl⟩, ⟨_, rfl⟩, ⟨_, rfl⟩, List.forall_mem_nil _⟩
  obtain ⟨⟨kept, -, hlist, -⟩, hsum, -, hmono, -⟩ := count_eq_sum hopen hnamed hpath f
  have htwo : count f root [] (Text.encode "/skip") = 2 := by
    rw [count_eq hopen]
    decide
  refine ⟨_, hlist, htwo, ?_, ?_⟩
  · rw [← hsum _ hutf8 hlist, htwo]
  · rw [← htwo]
    exact hmono ⟨["skip", "a"]⟩ (by simp [f])

end Scan

end TunnelSync
