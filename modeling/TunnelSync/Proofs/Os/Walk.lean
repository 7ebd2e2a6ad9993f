import Mathlib.Tactic.MkIffOfInductiveProp
import TunnelSync.Os.Tree

/-!
# Paths into a directory

The way to a name in a directory is the way to the directory and then one step, whatever links are
passed before. So what is in a directory is opened by its name behind the path of the directory.

* `names_join` : the names of a path with one more name behind it
* `walk_append` : a way that goes on
* `openDir_join` : a directory in a directory
-/

namespace TunnelSync.FileNode

/-- What a directory may have as a name. -/
@[mk_iff]
structure IsName (name : Bytes) : Prop where
  ne_nil : name ≠ []
  not_here : name ≠ here
  not_above : name ≠ above
  no_slash : slash ∉ name
  no_nul : 0 ∉ name
  short : name.length < maxName

instance (name : Bytes) : Decidable (IsName name) := decidable_of_iff' _ (isName_iff name)

/-! ### The names of a path -/

theorem pieces_ne_nil (path : Bytes) : pieces path ≠ [] := by
  induction path with
  | nil => simp [pieces]
  | cons b path ih =>
      rw [pieces]
      split
      · simp
      · split <;> simp

theorem pieces_append_slash (path rest : Bytes) :
    pieces (path ++ slash :: rest) = pieces path ++ pieces rest := by
  induction path with
  | nil => simp [pieces]
  | cons b path ih =>
      rw [List.cons_append, pieces, pieces, ih]
      by_cases hb : b = slash
      · simp [hb]
      · cases hpieces : pieces path with
        | nil => exact absurd hpieces (pieces_ne_nil path)
        | cons p ps => simp [hb]

theorem pieces_of_not_mem {name : Bytes} (h : slash ∉ name) : pieces name = [name] := by
  induction name with
  | nil => rfl
  | cons b name ih =>
      simp only [List.mem_cons, not_or] at h
      rw [pieces, if_neg (Ne.symm h.1), ih h.2]

variable {path name : Bytes}

theorem names_append_slash (hname : IsName name) (before : Bytes) :
    names (before ++ slash :: name) = (pieces before).filter (!·.isEmpty) ++ [name] := by
  obtain ⟨c, rest, hcons⟩ := List.exists_cons_of_ne_nil hname.ne_nil
  have hkept : (!name.isEmpty) = true := by simp [hcons]
  have hend : ((slash :: name).getLast? = some slash) ↔ False := by
    rw [hcons, List.getLast?_cons_cons, ← hcons]
    exact iff_false_intro fun h => hname.no_slash (List.mem_of_getLast? h)
  rw [names, pieces_append_slash, pieces_of_not_mem hname.no_slash, List.filter_append]
  simp [hkept, hend, List.getLast?_append]

/-- One more name comes behind those of the path, in place of what a slash at the end asks for. -/
theorem names_join (hname : IsName name) (hpath : path ≠ []) :
    isAbsolute (join path name) = isAbsolute path ∧
      ∃ ns, (names path = ns ∨ names path = ns ++ [here]) ∧ names (join path name) = ns ++ [name] := by
  have hrelative : isAbsolute name = false :=
    beq_eq_false_iff_ne.mpr fun h => hname.no_slash (List.mem_of_head? h)
  unfold join
  rw [if_neg (by simp [hrelative])]
  split
  next hslash =>
    obtain ⟨before, rfl⟩ := List.getLast?_eq_some_iff.mp hslash
    rw [List.append_assoc, List.singleton_append]
    refine ⟨?_, _, .inr ?_, names_append_slash hname before⟩
    · cases before <;> rfl
    · rw [names, pieces_append_slash]
      simp [pieces]
  next hslash =>
    obtain ⟨d, path, rfl⟩ := List.exists_cons_of_ne_nil hpath
    refine ⟨rfl, _, .inl ?_, names_append_slash hname _⟩
    rw [names]
    simp [hslash]

/-! ### The way -/

section
variable {root : FileNode} {start l : Location}

theorem at?_append (n : FileNode) (l l' : Location) :
    n.at? (l ++ l') = (n.at? l).bind (at? · l') := by
  induction l generalizing n with
  | nil => rfl
  | cons name l ih =>
      rw [List.cons_append, at?, at?]
      cases n.child? name with
      | none => rfl
      | some child => exact ih child

/-- A way that goes on from where its first part leads. Some links may be left for the rest. -/
theorem walk_append {links : Nat} {ns more : List Bytes}
    (h : root.walk true links start (ns ++ more) = .ok l) :
    ∃ links' l', (∀ rest, root.walk true links start (ns ++ rest) = root.walk true links' l' rest) ∧
      root.walk true links' l' more = .ok l := by
  generalize hfollow : true = follow at h ⊢
  fun_induction root.walk follow links start ns with
  | case1 links start => exact ⟨links, start, fun rest => rfl, h⟩
  | case2 links start ps entries hdir ih =>
      simp only [List.cons_append, walk, hdir, if_true] at h ⊢
      exact ih h
  | case3 links start ps entries hdir hhere ih =>
      simp only [List.cons_append, walk, hdir, if_neg hhere, if_true] at h ⊢
      exact ih h
  | case4 links start p ps entries hdir hhere habove hlong =>
      simp [walk, hdir, hhere, habove, hlong] at h
  | case5 links start p ps entries hdir hhere habove hshort hnone =>
      simp [walk, hdir, hhere, habove, hshort, hnone] at h
  | case6 links start p ps entries hdir hhere habove hshort target hlink hlast =>
      simp [← hfollow] at hlast
  | case7 start p ps entries hdir hhere habove hshort target hlink =>
      simp [walk, hdir, hhere, habove, hshort, hlink, ← hfollow] at h
  | case8 start p ps entries hdir hhere habove hshort target hlink hlast links ih =>
      subst hfollow
      simp only [List.cons_append, walk, hdir, if_neg hhere, if_neg habove, if_neg hshort, hlink,
        Bool.not_true, Bool.and_false, Bool.false_eq_true, if_false, ← List.append_assoc] at h ⊢
      exact ih h
  | case9 links start p ps entries hdir hhere habove hshort n hplain hnode ih =>
      simp only [List.cons_append, walk, hdir, if_neg hhere, if_neg habove, if_neg hshort, hnode]
        at h ⊢
      exact ih h
  | case10 links start p ps hdir =>
      simp [walk] at h

theorem walk_here {follow : Bool} {links : Nat} (h : root.walk follow links start [here] = .ok l) :
    l = start := by
  rw [walk] at h
  split at h
  · simp only [if_true, walk] at h
    exact (Except.ok.inj h).symm
  · cases h

variable {entries children : List (Bytes × FileNode)}

theorem at?_concat {n : FileNode} (hdir : root.at? l = some (.dir entries))
    (hchild : entries.lookup name = some n) : root.at? (l ++ [name]) = some n := by
  rw [at?_append, hdir]
  simp [at?, child?, entries?, hchild]

theorem walk_name {follow : Bool} {links : Nat} (hname : IsName name)
    (hdir : root.at? l = some (.dir entries)) (hchild : entries.lookup name = some (.dir children)) :
    root.walk follow links l [name] = .ok (l ++ [name]) := by
  rw [walk, hdir]
  simp only [if_neg hname.not_here, if_neg hname.not_above, if_neg (Nat.not_le.mpr hname.short),
    at?_concat hdir hchild, walk]

end

/-! ### What is opened -/

section
variable {root n : FileNode} {cwd : Location} {entries children : List (Bytes × FileNode)}

theorem find_eq_ok_iff : root.find cwd path = .ok n ↔
    path ≠ [] ∧ path.length < maxPath ∧
      ∃ l, root.walk true maxLinks (if isAbsolute path then [] else cwd) (names path) = .ok l ∧
        root.at? l = some n := by
  unfold find locate
  by_cases hnil : path = []
  · simp [hnil]
  by_cases hlong : maxPath ≤ path.length
  · simp [hnil, hlong, Nat.not_lt.mpr hlong]
  rw [if_neg (by simpa using hnil), if_neg hlong]
  generalize root.walk true maxLinks _ _ = found
  rcases found with e | l
  · simp
  · cases hat : root.at? l <;> simp [hnil, Nat.not_le.mp hlong, hat]

theorem openDir_eq_ok_iff : root.openDir cwd path = .ok n ↔
    0 ∉ path ∧ root.find cwd path = .ok n ∧ n.kind = .dir := by
  unfold openDir openNode
  by_cases hnul : 0 ∈ path
  · simp [hnul]
  · rcases hfind : root.find cwd path with e | m
    · simp [hnul]
    · rcases m with content | entries | target <;> simp +contextual [hnul, kind, eq_comm]

theorem openDir_slash (h : root.kind = .dir) (cwd : Location) :
    root.openDir cwd [slash] = .ok root := by
  rw [openDir_eq_ok_iff, find_eq_ok_iff]
  refine ⟨by decide, ⟨by decide, by decide, [], ?_, rfl⟩, h⟩
  cases root <;> simp_all [kind, names, pieces, isAbsolute, walk, at?]

/-- A directory in a directory is opened by its name behind the path of the other. -/
theorem openDir_join (hopen : root.openDir cwd path = .ok (.dir entries)) (hname : IsName name)
    (hchild : entries.lookup name = some (.dir children))
    (hlength : (join path name).length < maxPath) :
    root.openDir cwd (join path name) = .ok (.dir children) := by
  obtain ⟨hnul, hfind, -⟩ := openDir_eq_ok_iff.mp hopen
  obtain ⟨hne, -, l, hwalk, hat⟩ := find_eq_ok_iff.mp hfind
  obtain ⟨habsolute, ns, hpath, hjoin⟩ := names_join hname hne
  have hmem : ∀ b ∈ join path name, b ∈ path ∨ b = slash ∨ b ∈ name := by
    unfold join
    grind
  -- the names before the last lead to the directory, with some links left
  have hway : ∃ links, ∀ rest, root.walk true maxLinks (if isAbsolute path then [] else cwd)
      (ns ++ rest) = root.walk true links l rest := by
    rcases hpath with hpath | hpath
    · rw [hpath, ← List.append_nil ns] at hwalk
      obtain ⟨links, l', hfirst, hrest⟩ := walk_append hwalk
      rw [walk] at hrest
      cases hrest
      exact ⟨links, hfirst⟩
    · rw [hpath] at hwalk
      obtain ⟨links, l', hfirst, hrest⟩ := walk_append hwalk
      obtain rfl := walk_here hrest
      exact ⟨links, hfirst⟩
  obtain ⟨links, hway⟩ := hway
  refine openDir_eq_ok_iff.mpr ⟨fun h => ?_,
    find_eq_ok_iff.mpr ⟨?_, hlength, l ++ [name], ?_, at?_concat hat hchild⟩, rfl⟩
  · rcases hmem 0 h with h | h | h
    · exact hnul h
    · cases h
    · exact hname.no_nul h
  · intro hnil
    rw [hnil] at hjoin
    simp [names, pieces] at hjoin
  · rw [habsolute, hjoin, hway]
    exact walk_name hname hat hchild

end

end TunnelSync.FileNode
