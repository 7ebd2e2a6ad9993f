import Mathlib.Data.List.Nodup
import TunnelSync.Proofs.Os.Walk

/-!
# Everything below a directory

A tree as the list of its nodes, each with the names on the way to it.

* `FileNode.induction` : the induction over a tree
* `WellNamed` : a tree as a system can have it
* `nodes`, `beneath` : the nodes of a tree, and those below a directory
* `mem_nodes_iff`, `nodup_nodes` : each node is listed at its location and once
-/

namespace TunnelSync.FileNode

/-- What holds of files and links, and of a directory if it holds of all that is in it, holds of
every tree. -/
theorem induction {P : FileNode → Prop} (file : ∀ content, P (.file content))
    (link : ∀ target, P (.link target))
    (dir : ∀ entries, (∀ x ∈ entries, P x.2) → P (.dir entries)) (n : FileNode) : P n :=
  n.rec file (fun entries h => dir entries h) link (motive_2 := fun entries => ∀ x ∈ entries, P x.2)
    (motive_3 := fun x => P x.2) (List.forall_mem_nil _)
    (fun _ _ hx hrest => List.forall_mem_cons.mpr ⟨hx, hrest⟩) (fun _ _ h => h)

/-- Each directory of the tree has distinct names. -/
inductive WellNamed : FileNode → Prop
  | file (content : Bytes) : WellNamed (.file content)
  | link (target : Bytes) : WellNamed (.link target)
  | dir {entries : List (Bytes × FileNode)} : (entries.map Prod.fst).Nodup →
      (∀ x ∈ entries, IsName x.1) → (∀ x ∈ entries, WellNamed x.2) → WellNamed (.dir entries)

mutual

/-- The nodes of a tree, each with the names on the way to it. -/
def nodes : FileNode → List (Location × FileNode)
  | .file content => [([], .file content)]
  | .link target => [([], .link target)]
  | .dir entries => ([], .dir entries) :: beneath entries

/-- The nodes in and below the entries of a directory. -/
def beneath : List (Bytes × FileNode) → List (Location × FileNode)
  | [] => []
  | (name, n) :: rest => (nodes n).map (fun x => (name :: x.1, x.2)) ++ beneath rest

end

theorem beneath_eq (entries : List (Bytes × FileNode)) :
    beneath entries = entries.flatMap fun x => (nodes x.2).map fun y => (x.1 :: y.1, y.2) := by
  induction entries with
  | nil => rfl
  | cons x entries ih => rw [beneath, ih, List.flatMap_cons]

theorem lookup_eq_some_iff_mem {entries : List (Bytes × FileNode)}
    (h : (entries.map Prod.fst).Nodup) {name : Bytes} {n : FileNode} :
    entries.lookup name = some n ↔ (name, n) ∈ entries := by
  rw [List.lookup_eq_some_iff]
  constructor
  · rintro ⟨before, behind, rfl, -⟩
    simp
  · intro hmem
    obtain ⟨before, behind, rfl⟩ := List.append_of_mem hmem
    refine ⟨before, behind, rfl, fun p hp => ?_⟩
    rw [List.map_append, List.map_cons, List.nodup_append] at h
    exact bne_iff_ne.mpr (Ne.symm (h.2.2 p.1 (List.mem_map_of_mem hp) name List.mem_cons_self))

variable {entries : List (Bytes × FileNode)} {l : Location} {m n : FileNode}

theorem mem_beneath : (l, m) ∈ beneath entries ↔
    ∃ name n l', (name, n) ∈ entries ∧ l = name :: l' ∧ (l', m) ∈ nodes n := by
  rw [beneath_eq, List.mem_flatMap]
  constructor
  · rintro ⟨⟨name, n⟩, hx, hmem⟩
    obtain ⟨⟨l', m'⟩, hy, heq⟩ := List.mem_map.mp hmem
    cases heq
    exact ⟨name, n, l', hx, rfl, hy⟩
  · rintro ⟨name, n, l', hx, rfl, hy⟩
    exact ⟨(name, n), hx, List.mem_map.mpr ⟨(l', m), hy, rfl⟩⟩

/-- The nodes of a tree are what is found at the locations of the tree. -/
theorem mem_nodes_iff (h : n.WellNamed) : (l, m) ∈ nodes n ↔ n.at? l = some m := by
  induction h generalizing l with
  | file content => cases l <;> simp [nodes, at?, child?, entries?, eq_comm]
  | link target => cases l <;> simp [nodes, at?, child?, entries?, eq_comm]
  | @dir entries hnodup hnames hbelow ih =>
      rw [nodes, List.mem_cons, mem_beneath]
      cases l with
      | nil => simp [at?, eq_comm]
      | cons name l =>
          have hchild : (dir entries).child? name = entries.lookup name := rfl
          simp only [at?, hchild, Option.bind_eq_some_iff, lookup_eq_some_iff_mem hnodup]
          constructor
          · rintro (h | ⟨name', n, l', hx, heq, hy⟩)
            · cases h
            · cases heq
              exact ⟨n, hx, (ih _ hx).mp hy⟩
          · rintro ⟨n, hx, hat⟩
            exact .inr ⟨name, n, l, hx, rfl, (ih _ hx).mpr hat⟩

theorem mem_beneath_iff (h : (dir entries).WellNamed) :
    (l, m) ∈ beneath entries ↔ l ≠ [] ∧ (dir entries).at? l = some m := by
  rw [← mem_nodes_iff h, nodes, List.mem_cons]
  constructor
  · intro hmem
    obtain ⟨name, n, l', -, rfl, -⟩ := mem_beneath.mp hmem
    exact ⟨List.cons_ne_nil _ _, .inr hmem⟩
  · rintro ⟨hne, heq | hmem⟩
    · cases heq
      exact absurd rfl hne
    · exact hmem

/-- No location is listed twice. -/
theorem nodup_nodes (h : n.WellNamed) : ((nodes n).map Prod.fst).Nodup := by
  induction h with
  | file content => simp [nodes]
  | link target => simp [nodes]
  | @dir entries hnodup hnames hbelow ih =>
      have hlocations : (beneath entries).map Prod.fst =
          entries.flatMap fun x => ((nodes x.2).map Prod.fst).map (x.1 :: ·) := by
        rw [beneath_eq, List.map_flatMap]
        simp [Function.comp_def]
      rw [nodes, List.map_cons, List.nodup_cons, hlocations]
      refine ⟨by simp, List.nodup_flatMap.mpr ⟨fun x hx => ?_, ?_⟩⟩
      · exact (ih x hx).map fun _ _ h => (List.cons.inj h).2
      · refine (List.pairwise_map.mp hnodup).imp fun hne => ?_
        rw [Function.onFun_apply, List.disjoint_left]
        intro l hl hl'
        obtain ⟨_, -, rfl⟩ := List.mem_map.mp hl
        obtain ⟨_, -, heq⟩ := List.mem_map.mp hl'
        exact hne (List.cons.inj heq).1.symm

theorem nodup_beneath (h : (dir entries).WellNamed) : ((beneath entries).map Prod.fst).Nodup :=
  (List.nodup_cons.mp (nodup_nodes h)).2

end TunnelSync.FileNode
