import TunnelSync.Proofs.Text.Cut
import TunnelSync.Proofs.Text.Utf8
import TunnelSync.Scan
import TunnelSync.Transport.Run

/-!
# The operands as rsync reads them

Nothing is escaped in the two operands, so rsync may find something else in them than what was
asked for. An argument that begins with a dash is an option, and a colon before the first slash
makes an operand remote.

* `readOperand` : what rsync takes an argument for
* `isSource_sourceArg_iff`, `isDestination_remoteDestination_iff` : when an operand is read back
* `operands_read_iff` : both operands of a copy over the bridge
-/

namespace TunnelSync.Rsync

/-- What rsync takes an argument for. -/
inductive Operand
  | option (argument : Text)
  | localPath (path : Text)
  | remote (user : Option Text) (host path : Text)
  deriving DecidableEq, Repr

/-- Whether a character leaves it open whether the operand is remote. -/
def isUndecided (c : Char) : Bool := c != ':' && c != '/'

/-- What rsync takes an argument for. The user of a remote operand goes up to the last `@` before
the colon. -/
def readOperand (t : Text) : Operand :=
  if t.head? = some '-' then .option t
  else
    match t.dropWhile isUndecided with
    | ':' :: path =>
        let (user, host) := Url.splitUserInfo (t.takeWhile isUndecided)
        .remote user host path
    | _ => .localPath t

/-- A path without the slashes at its end. -/
def trimSlashes (path : Bytes) : Bytes := path.rdropWhile (· == 0x2F)

/-- The argument is read as this local path, up to slashes at the end. -/
def IsSource (argument : Text) (path : Bytes) : Prop :=
  ∃ p, readOperand argument = .localPath p ∧ trimSlashes (Text.encode p) = trimSlashes path

/-- The argument is read as this place on a remote host, up to slashes at the end. -/
def IsDestination (argument user host path : Text) : Prop :=
  ∃ p, readOperand argument = .remote (some user) host p ∧
    Text.dropTrailing '/' p = Text.dropTrailing '/' path

/-- A local path that rsync does not take for anything else. -/
structure ClearPath (path : Bytes) : Prop where
  encoded : Text.encode (Text.decodeLossy path) = path
  no_dash : (Text.decodeLossy path).head? ≠ some '-'
  no_colon : ':' ∉ (Text.decodeLossy path).takeWhile (· != '/')

/-- A user name that rsync does not take for anything else. -/
structure ClearUser (user : Text) : Prop where
  no_dash : user.head? ≠ some '-'
  no_colon : ':' ∉ user
  no_slash : '/' ∉ user

/-! ### Slashes at the end -/

theorem exists_last_byte {c : Char} (hc : c ≠ '/') :
    ∃ bs b, String.utf8EncodeChar c = bs ++ [b] ∧ b ≠ 0x2F := by
  have hne := Text.utf8EncodeChar_ne_nil c
  refine ⟨_, _, (List.dropLast_append_getLast hne).symm, fun hlast => hc ?_⟩
  have hmem := List.getLast_mem hne
  rw [hlast] at hmem
  exact Char.toNat_inj.mp (Text.toNat_of_mem_utf8EncodeChar hmem (by decide))

theorem trimSlashes_encode (t : Text) :
    trimSlashes (Text.encode t) = Text.encode (Text.dropTrailing '/' t) := by
  induction t using List.reverseRecOn with
  | nil => rfl
  | append_singleton t c ih =>
      change _ = Text.encode (List.rdropWhile (· == '/') (t ++ [c]))
      by_cases hc : c = '/'
      · subst hc
        rw [List.rdropWhile_concat_pos _ _ _ (by rfl), Text.encode_append]
        exact (List.rdropWhile_concat_pos _ _ _ (by rfl)).trans ih
      · obtain ⟨bs, b, hbytes, hb⟩ := exists_last_byte hc
        rw [List.rdropWhile_concat_neg _ _ _ (by simpa using hc), Text.encode_append]
        have hlast : Text.encode [c] = bs ++ [b] := by rw [← hbytes, Text.encode]; simp
        rw [hlast, ← List.append_assoc]
        exact List.rdropWhile_concat_neg _ _ _ (by simpa using hb)

theorem encode_slashes (n : Nat) :
    Text.encode (List.replicate n '/') = List.replicate n 0x2F := by
  induction n with
  | zero => rfl
  | succ n ih => rw [List.replicate_succ, Text.encode_cons, ih]; rfl

/-! ### The source -/

theorem exists_dropWhile_isUndecided_iff (t : Text) :
    (∃ path, t.dropWhile isUndecided = ':' :: path) ↔ ':' ∈ t.takeWhile (· != '/') := by
  induction t with
  | nil => simp
  | cons c t ih =>
      by_cases hcolon : c = ':'
      · subst hcolon
        exact ⟨fun _ => by simp, fun _ => ⟨t, rfl⟩⟩
      · by_cases hslash : c = '/'
        · subst hslash
          simp [isUndecided]
        · have hopen : isUndecided c = true := by simp [isUndecided, hcolon, hslash]
          simpa [List.dropWhile_cons, hopen, hslash, Ne.symm hcolon] using ih

/-- A local operand is the path as it was written. -/
theorem readOperand_eq_localPath_iff {t p : Text} :
    readOperand t = .localPath p ↔
      t.head? ≠ some '-' ∧ ':' ∉ t.takeWhile (· != '/') ∧ t = p := by
  unfold readOperand
  rw [← exists_dropWhile_isUndecided_iff]
  split
  next h => simp [h]
  next h =>
    split
    next path hpath => simp [hpath]
    next hnone =>
      have hnot : ¬ ∃ path, t.dropWhile isUndecided = ':' :: path := fun ⟨path, h⟩ => hnone path h
      simp [h, hnot]

theorem takeWhile_append_slashes (t : Text) (n : Nat) :
    (t ++ List.replicate n '/').takeWhile (· != '/') = t.takeWhile (· != '/') := by
  induction t with
  | nil => cases n <;> simp [List.replicate_succ]
  | cons c t ih => simp [List.takeWhile_cons, ih]

theorem takeWhile_dropTrailing (t : Text) :
    (Text.dropTrailing '/' t ++ ['/']).takeWhile (· != '/') = t.takeWhile (· != '/') := by
  obtain ⟨n, hn⟩ := Text.exists_dropTrailing_append '/' t
  calc (Text.dropTrailing '/' t ++ ['/']).takeWhile (· != '/')
      = (Text.dropTrailing '/' t).takeWhile (· != '/') := takeWhile_append_slashes _ 1
    _ = (Text.dropTrailing '/' t ++ List.replicate n '/').takeWhile (· != '/') :=
        (takeWhile_append_slashes _ n).symm
    _ = t.takeWhile (· != '/') := by rw [← hn]

theorem head?_dropTrailing {t : Text} {c : Char} (hc : c ≠ '/') :
    (Text.dropTrailing '/' t ++ ['/']).head? = some c ↔ t.head? = some c := by
  obtain ⟨n, hn⟩ := Text.exists_dropTrailing_append '/' t
  conv_rhs => rw [hn]
  cases n <;> cases Text.dropTrailing '/' t <;> simp [List.replicate_succ, Ne.symm hc]

/-- The bytes of the source operand are those of the path exactly if the path is a text. -/
theorem trimSlashes_sourceArg_iff (path : Bytes) :
    trimSlashes (Text.encode (sourceArg path)) = trimSlashes path ↔
      Text.encode (Text.decodeLossy path) = path := by
  have harg : trimSlashes (Text.encode (sourceArg path)) =
      Text.encode (Text.dropTrailing '/' (Text.decodeLossy path)) := by
    rw [trimSlashes_encode, sourceArg, Text.dropTrailing_concat, Text.dropTrailing_idem]
  rw [harg]
  constructor
  · intro h
    obtain ⟨n, hn⟩ := Text.exists_rdropWhile_append 0x2F path
    have htext : path = Text.encode
        (Text.dropTrailing '/' (Text.decodeLossy path) ++ List.replicate n '/') := by
      rw [Text.encode_append, encode_slashes, h]
      exact hn
    rw [htext, Text.decodeLossy_encode]
  · intro h
    rw [← trimSlashes_encode, h]

/-- The source operand is read as the local path exactly if that is clear. -/
theorem isSource_sourceArg_iff (path : Bytes) :
    IsSource (sourceArg path) path ↔ ClearPath path := by
  have hdash : (sourceArg path).head? = some '-' ↔ (Text.decodeLossy path).head? = some '-' :=
    head?_dropTrailing (by decide)
  have hcolon : (sourceArg path).takeWhile (· != '/') =
      (Text.decodeLossy path).takeWhile (· != '/') := takeWhile_dropTrailing _
  constructor
  · rintro ⟨p, hread, hbytes⟩
    obtain ⟨h₁, h₂, rfl⟩ := readOperand_eq_localPath_iff.mp hread
    exact
      { encoded := (trimSlashes_sourceArg_iff path).mp hbytes
        no_dash := fun h => h₁ (hdash.mpr h)
        no_colon := hcolon ▸ h₂ }
  · intro h
    have hread : readOperand (sourceArg path) = .localPath (sourceArg path) :=
      readOperand_eq_localPath_iff.mpr
        ⟨fun hd => h.no_dash (hdash.mp hd), hcolon ▸ h.no_colon, rfl⟩
    exact ⟨sourceArg path, hread, (trimSlashes_sourceArg_iff path).mpr h.encoded⟩

/-! ### The destination -/

theorem splitUserInfo_append (user : Text) {host : Text} (h : '@' ∉ host) :
    Url.splitUserInfo (user ++ '@' :: host) = (some user, host) := by
  have hhost : ∀ c ∈ host.reverse, (c != '@') = true := fun c hc => by
    simp only [List.mem_reverse] at hc
    exact bne_iff_ne.mpr fun hat => h (hat ▸ hc)
  have hreverse : (user ++ '@' :: host).reverse = host.reverse ++ '@' :: user.reverse := by simp
  unfold Url.splitUserInfo
  rw [hreverse, List.dropWhile_append_of_pos hhost, List.takeWhile_append_of_pos hhost]
  simp

theorem readOperand_eq_remote {t host path : Text} {user : Option Text}
    (h : readOperand t = .remote user host path) :
    t.head? ≠ some '-' ∧ t.dropWhile isUndecided = ':' :: path ∧
      Url.splitUserInfo (t.takeWhile isUndecided) = (user, host) := by
  unfold readOperand at h
  split at h
  next => cases h
  next hdash =>
    split at h
    next path' hpath => cases h; exact ⟨hdash, hpath, rfl⟩
    next => cases h

theorem eq_append_of_splitUserInfo {t user host : Text}
    (h : Url.splitUserInfo t = (some user, host)) : t = user ++ '@' :: host := by
  unfold Url.splitUserInfo at h
  split at h
  next => cases h
  next c before hbefore =>
    cases h
    have hat : c = '@' := by
      have hhead := List.head?_dropWhile_not (· != '@') t.reverse
      rw [hbefore] at hhead
      simpa using hhead
    calc t = (t.reverse.takeWhile (· != '@') ++ t.reverse.dropWhile (· != '@')).reverse := by
          rw [List.takeWhile_append_dropWhile, List.reverse_reverse]
      _ = before.reverse ++ '@' :: (t.reverse.takeWhile (· != '@')).reverse := by
          rw [hbefore, hat]; simp

/-- The destination is read as the place on the host exactly if the user is clear. -/
theorem isDestination_remoteDestination_iff (user path : Text) :
    IsDestination (remoteDestination user Transport.loopback path) user Transport.loopback path ↔
      ClearUser user := by
  have harg : remoteDestination user Transport.loopback path =
      user ++ '@' :: (Transport.loopback ++ ':' :: (Text.dropTrailing '/' path ++ ['/'])) := by
    simp [remoteDestination]
  constructor
  · rintro ⟨p, hread, -⟩
    obtain ⟨hdash, -, hsplit⟩ := readOperand_eq_remote hread
    -- the user is read out of what stands before the first colon and the first slash
    have hopen : ∀ c ∈ user, isUndecided c = true := fun c hc =>
      List.mem_takeWhile_imp (by rw [eq_append_of_splitUserInfo hsplit]; simp [hc])
    exact
      { no_dash := fun h => hdash (by rw [harg, List.head?_append, h]; rfl)
        no_colon := fun h => by simpa [isUndecided] using hopen _ h
        no_slash := fun h => by simpa [isUndecided] using hopen _ h }
  · intro h
    have hopen : ∀ c ∈ user ++ '@' :: Transport.loopback, isUndecided c = true := by
      intro c hc
      rw [List.mem_append] at hc
      rcases hc with hc | hc
      · simp only [isUndecided, Bool.and_eq_true, bne_iff_ne]
        exact ⟨fun hcolon => h.no_colon (hcolon ▸ hc), fun hslash => h.no_slash (hslash ▸ hc)⟩
      · have hhost : ('@' :: Transport.loopback).all isUndecided = true := by decide
        exact List.all_eq_true.mp hhost c hc
    have hdash : (remoteDestination user Transport.loopback path).head? ≠ some '-' := by
      rw [harg]
      cases user with
      | nil => simp
      | cons c user => simpa using h.no_dash
    have hsplit : remoteDestination user Transport.loopback path =
        (user ++ '@' :: Transport.loopback) ++ ':' :: (Text.dropTrailing '/' path ++ ['/']) := by
      rw [harg]; simp
    refine ⟨Text.dropTrailing '/' path ++ ['/'], ?_, ?_⟩
    · rw [readOperand, if_neg hdash, hsplit, List.dropWhile_append_of_pos hopen,
        List.takeWhile_append_of_pos hopen]
      simp [isUndecided, splitUserInfo_append user (show '@' ∉ Transport.loopback by decide)]
    · rw [Text.dropTrailing_concat, Text.dropTrailing_idem]

/-! ### Both -/

/-- What rsync reads in the last two arguments of a copy over the bridge. The source is the local
path exactly if the path is clear, and the destination is that of the request exactly if the token
is clear. -/
theorem operands_read_iff (port : Nat) (r : Request) (c : Call) :
    ∃ front source destination,
      (Transport.bridgeCommand port r c).args = front ++ [source, destination] ∧
      (IsSource source r.localPath ↔ ClearPath r.localPath) ∧
      (IsDestination destination r.token Transport.loopback r.remotePath ↔ ClearUser r.token) :=
  ⟨_, _, _, rfl, isSource_sourceArg_iff r.localPath,
    isDestination_remoteDestination_iff r.token r.remotePath⟩

/-! ### A request that is misread -/

/-- A directory is opened by its name in the directory that holds it. -/
theorem openDir_name {entries children : List (Bytes × FileNode)} {name : Bytes}
    (hname : FileNode.names name = [name] ∧ FileNode.isAbsolute name = false ∧
      name.contains 0 = false ∧ name ≠ FileNode.here ∧ name ≠ FileNode.above ∧
      name.length < FileNode.maxName)
    (h : entries.lookup name = some (.dir children)) :
    (FileNode.dir entries).openDir [] name = .ok (.dir children) := by
  obtain ⟨hnames, habsolute, hnul, hhere, habove, hlength⟩ := hname
  have hat : (FileNode.dir entries).at? [name] = some (.dir children) := by
    simp [FileNode.at?, FileNode.child?, FileNode.entries?, h]
  have hempty : name.isEmpty = false := by
    cases name with
    | nil => cases hnames
    | cons => rfl
  have hlong : ¬ FileNode.maxPath ≤ name.length := by
    simp only [FileNode.maxName, FileNode.maxPath] at hlength ⊢
    omega
  have hwalk : (FileNode.dir entries).walk true FileNode.maxLinks [] [name] = .ok [name] := by
    rw [FileNode.walk]
    simp only [FileNode.at?, if_neg hhere, if_neg habove, if_neg (Nat.not_le.mpr hlength)]
    rw [List.nil_append, hat]
    simp only [FileNode.walk]
  rw [FileNode.openDir, FileNode.openNode, hnul, FileNode.find, FileNode.locate, hempty, habsolute,
    hnames]
  simp [hlong, hwalk, hat]

/-- A directory `a:b` can be listed, but its contents would be taken from a host `a`; and a token
with a slash in it makes the destination a local path. -/
theorem operands_misread :
    let r : Request := ⟨"https://h", "tok/en", Text.encode "a:b", "/r", .none⟩
    let root : FileNode := .dir [(Text.encode "a:b", .dir [(Text.encode "f", .file [])])]
    Scan.list (.ofPatterns []) root [] r.localPath = .ok [⟨"f", false⟩] ∧
      ∃ front source destination,
        (Transport.bridgeCommand 50123 r ⟨0, .all⟩).args = front ++ [source, destination] ∧
        readOperand source = .remote none "a" "b/" ∧ ¬ IsSource source r.localPath ∧
        readOperand destination = .localPath "tok/en@127.0.0.1:/r/" ∧
        ¬ IsDestination destination r.token Transport.loopback r.remotePath := by
  intro r root
  refine ⟨?_, _, _, _, rfl, by decide, ?_, by decide, ?_⟩
  · have hopen : root.openDir [] (Text.encode "a:b") = .ok (.dir [(Text.encode "f", .file [])]) :=
      openDir_name (by decide) rfl
    have hentries : (Scan.reading root [] (Text.encode "a:b")).bind
        (Scan.entries (.ofPatterns [])) = .ok [⟨"f", false⟩] := by
      rw [Scan.reading, hopen]
      rfl
    rw [Scan.list, Scan.topLevel, hentries]
    exact congrArg Except.ok (List.mergeSort_singleton _)
  · exact fun h => ((isSource_sourceArg_iff _).mp h).no_colon (by decide)
  · exact fun h => ((isDestination_remoteDestination_iff _ _).mp h).no_slash (by decide)

end TunnelSync.Rsync
