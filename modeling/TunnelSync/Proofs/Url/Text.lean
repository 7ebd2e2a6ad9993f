import TunnelSync.Proofs.Url.Endpoint

/-!
# The text of any URL

What a URL is written with before its query has neither the mark of a query nor that of a fragment
in it, and a query has no mark of a fragment, whatever the scheme. So a text tells the query and the
fragment of the URL that is written like that.

* `forall_mem_resolve` : what holds of the segments of a path
* `Legible`, `legible_of_parse` : where the marks stand
* `parts_eq_of_toText_eq` : URLs with the same text have the same parts
-/

namespace TunnelSync.Url

/-! ### Paths of every kind -/

section
variable {p : Text → Prop} {kind : Kind}

/-- What holds of the empty segment and of each written one holds of all segments. -/
theorem forall_mem_resolve (hnil : p []) (hwritten : ∀ s, p (segmentText kind s)) (t : Text) :
    ∀ s ∈ resolve kind t, p s := by
  have hall : ∀ s ∈ resolveFrom kind [] (rawSegments kind t), p s :=
    forall_mem_resolveFrom hnil (by simp) fun s _ _ _ => hwritten s
  unfold resolve
  dsimp only
  split
  next =>
    split
    next => exact List.forall_mem_singleton.mpr hnil
    next => exact fun s hs => hall s ((List.dropWhile_suffix _).mem hs)
  next => exact hall

end

/-! ### No mark before the query -/

theorem endsPath_eq_false {p : Char → Bool} (hmarks : ['?', '#'].any p = false) {c : Char}
    (hc : p c = true) : endsPath c = false := by
  have hne : ∀ d ∈ ['?', '#'], (c == d) = false := fun d hd =>
    beq_eq_false_iff_ne.mpr fun heq => List.any_eq_false.mp hmarks d hd (heq ▸ hc)
  simp [endsPath, hne '?' (by simp), hne '#' (by simp)]

theorem endsPath_of_mem_percentByte {b : UInt8} {c : Char} (h : c ∈ percentByte b) :
    endsPath c = false := by
  have hall := forall_mem_percentByte (p := fun c => !endsPath c) (by decide) (by decide) h
  simpa using hall

theorem endsPath_of_mem_percentEncode {coded : Char → Bool}
    (hmarks : ['?', '#'].any (!coded ·) = false) {t : Text} {c : Char}
    (h : c ∈ percentEncode coded t) : endsPath c = false := by
  rcases mem_percentEncode h with ⟨-, -, hplain⟩ | ⟨b, hb⟩
  · exact endsPath_eq_false hmarks (by simp [hplain])
  · exact endsPath_of_mem_percentByte hb

theorem endsPath_of_mem_segmentText (kind : Kind) (s : Text) :
    ∀ c ∈ segmentText kind s, endsPath c = false := by
  have hcoded : ∀ c ∈ percentEncode inPath s, endsPath c = false := fun c hc =>
    endsPath_of_mem_percentEncode (by decide) hc
  unfold segmentText
  split
  next c d =>
    split
    next hdrive =>
      have halpha : c.isAlpha = true := by
        simp only [isDrive, Bool.and_eq_true] at hdrive
        exact hdrive.2.1
      have hc : endsPath c = false := endsPath_eq_false (p := Char.isAlpha) (by decide) halpha
      exact List.forall_mem_cons.mpr ⟨hc, List.forall_mem_singleton.mpr (by decide)⟩
    next => exact hcoded
  next => exact hcoded

theorem endsPath_of_mem_readPath {kind : Kind} {t : Text} {c : Char}
    (h : c ∈ (readPath kind t).toText) : endsPath c = false := by
  have hresolve : ∀ s ∈ resolve kind (dropSeparator kind t), ∀ c ∈ s, endsPath c = false :=
    forall_mem_resolve (by simp) (endsPath_of_mem_segmentText kind) _
  unfold readPath at h
  split at h
  · cases h
  · rw [Path.toText, List.mem_flatMap] at h
    obtain ⟨s, hs, hc⟩ := h
    rcases List.mem_cons.mp hc with rfl | hc
    · decide
    · exact hresolve s hs c hc

theorem toNat_lt_of_isSchemeChar {c : Char} (h : isSchemeChar c = true) : c.toNat < 0x80 := by
  have hnat : c.toNat = c.val.toNat := rfl
  have hdigit : c.isDigit = true → c.val.toNat ≤ 57 := fun h =>
    UInt32.le_iff_toNat_le.mp (of_decide_eq_true (Bool.and_eq_true_iff.mp h).2)
  have hupper : c.isUpper = true → c.val.toNat ≤ 90 := fun h =>
    UInt32.le_iff_toNat_le.mp (of_decide_eq_true h).2
  have hlower : c.isLower = true → c.val.toNat ≤ 122 := fun h =>
    UInt32.le_iff_toNat_le.mp (of_decide_eq_true (Bool.and_eq_true_iff.mp h).2)
  have halphanum : c.isAlphanum = (c.isUpper || c.isLower || c.isDigit) := rfl
  simp only [isSchemeChar, halphanum, Bool.or_eq_true, beq_iff_eq] at h
  rcases h with ((((h | h) | h) | rfl) | rfl) | rfl
  · exact Nat.lt_of_le_of_lt (hupper h) (by decide)
  · exact Nat.lt_of_le_of_lt (hlower h) (by decide)
  · exact Nat.lt_of_le_of_lt (hdigit h) (by decide)
  all_goals decide

theorem isSchemeChar_lower :
    ∀ n < 0x80, isSchemeChar (Char.ofNat n) = true →
      endsPath (Text.asciiLower (Char.ofNat n)) = false := by decide +kernel

theorem endsPath_of_mem_scheme? {t scheme rest : Text} (h : scheme? t = some (scheme, rest)) :
    ∀ c ∈ scheme, endsPath c = false := by
  unfold scheme? at h
  split at h
  · split at h
    · cases h
      intro c hc
      obtain ⟨d, hd, rfl⟩ := List.mem_map.mp hc
      have hd : isSchemeChar d = true := List.mem_takeWhile_imp hd
      have hlower := isSchemeChar_lower d.toNat (toNat_lt_of_isSchemeChar hd)
      rw [Char.ofNat_toNat] at hlower
      exact hlower hd
    · cases h
  · cases h

theorem endsPath_of_readDomain {t : Text} {host : Host} (h : Host.readDomain t = .ok host) :
    ∀ c ∈ host.toText, endsPath c = false := fun c hc =>
  endsPath_of_endsAuthority (Host.endsAuthority_of_mem_toText h c hc)

/-- The host of a URL of any kind has no mark in it. -/
theorem endsPath_of_readHost {kind : Kind} {t : Text} {host : Host}
    (h : readHost kind t = .ok (some host)) : ∀ c ∈ host.toText, endsPath c = false := by
  have hdomain {r : Except UrlError Host} (hr : r.map some = .ok (some host)) : r = .ok host := by
    cases r with
    | error e => cases hr
    | ok other => cases hr; rfl
  unfold readHost at h
  split at h
  · unfold Host.readPlain at h
    split at h
    next hbracket =>
      refine endsPath_of_readDomain (t := t) ?_
      rw [Host.readDomain, if_pos hbracket]
      exact hdomain h
    next =>
      split at h
      · cases h
      next hrefused =>
        split at h
        · cases h
        · cases h
          intro c hc
          rcases mem_percentEncode hc with ⟨hmem, -, -⟩ | ⟨b, hb⟩
          · have hkept : Host.isRefused c = false := by
              simpa using List.any_eq_false.mp (Bool.eq_false_iff.mpr hrefused) c hmem
            exact endsPath_eq_false (p := (!Host.isRefused ·)) (by decide) (by simp [hkept])
          · exact endsPath_of_mem_percentByte hb
  · split at h
    · cases h
    · exact endsPath_of_readDomain (hdomain h)

/-- An authority has no mark in it if neither its user nor its host has. -/
theorem Authority.endsPath_of_mem_toText {a : Authority}
    (huser : ∀ c ∈ a.userInfo, endsPath c = false)
    (hhost : ∀ host, a.host = some host → ∀ c ∈ host.toText, endsPath c = false) :
    ∀ c ∈ a.toText, endsPath c = false := by
  intro c hc
  unfold Authority.toText at hc
  rcases List.mem_append.mp hc with hc | hc
  · rcases List.mem_append.mp hc with hc | hc
    · exact huser c hc
    · cases hsome : a.host with
      | none =>
          rw [hsome] at hc
          cases hc
      | some host =>
          rw [hsome] at hc
          exact hhost host hsome c hc
  · unfold Authority.portText at hc
    split at hc
    · rcases List.mem_cons.mp hc with rfl | hc
      · decide
      · exact endsPath_of_endsAuthority (endsAuthority_of_mem_ofNat _ c hc)
    · cases hc

/-! ### Reading any URL -/

/-- What the parts of a URL are read from. -/
structure ReadFrom (u : Url) : Prop where
  scheme : ∃ t rest, scheme? t = some (u.scheme, rest)
  authority : ∀ a, u.authority = some a → ∀ c ∈ a.toText, endsPath c = false
  path : (∃ kind t, u.path = readPath kind t) ∨
    ∃ t, u.path = .plain (percentEncode Host.isControl (pathPart t))
  tail : ∃ kind t, (u.query, u.fragment) = readTail kind t

theorem endsPath_of_readAuthority {scheme t rest : Text} {kind : Kind} {a : Authority}
    (h : readAuthority scheme kind t = .ok (a, rest)) : ∀ c ∈ a.toText, endsPath c = false := by
  obtain ⟨⟨userText, huser⟩, ⟨hostText, hhost⟩, -⟩ := parts_of_readAuthority h
  refine Authority.endsPath_of_mem_toText (fun c hc => ?_) fun host hsome => ?_
  · exact endsPath_of_endsAuthority (endsAuthority_of_readUserInfo huser c hc)
  · exact endsPath_of_readHost (hsome ▸ hhost)

theorem endsPath_of_file {host : Option Host} (hasDrive : Bool)
    (h : ∀ g, host = some g → ∀ c ∈ g.toText, endsPath c = false) :
    ∀ c ∈ ({ Authority.empty with host := if hasDrive then none else host } : Authority).toText,
      endsPath c = false := by
  refine Authority.endsPath_of_mem_toText (by simp [Authority.userInfo, Authority.empty]) ?_
  intro g hg
  cases hasDrive with
  | true => cases hg
  | false => exact h g hg

theorem endsPath_of_readFileHost {t : Text} {host : Option Host} (h : readFileHost t = .ok host) :
    ∀ g, host = some g → ∀ c ∈ g.toText, endsPath c = false := by
  unfold readFileHost at h
  split at h
  · cases h
    nofun
  · cases hdomain : Host.readDomain t with
    | error e =>
        rw [hdomain] at h
        cases h
    | ok other =>
        rw [hdomain] at h
        simp only [Except.map, Except.ok.injEq] at h
        subst h
        intro g hg
        split at hg
        · cases hg
        · cases hg
          exact endsPath_of_readDomain hdomain

section
variable {scheme t : Text} {u : Url} (hscheme : ∃ t rest, scheme? t = some (scheme, rest))
include hscheme

theorem readFrom_assemble (kind : Kind) {authority : Option Authority} {path : Path} (tail : Text)
    (hauthority : ∀ a, authority = some a → ∀ c ∈ a.toText, endsPath c = false)
    (hpath : (∃ kind t, path = readPath kind t) ∨
      ∃ t, path = .plain (percentEncode Host.isControl (pathPart t))) :
    ReadFrom (assemble scheme kind authority path tail) :=
  { scheme := hscheme
    authority := hauthority
    path := hpath
    tail := ⟨kind, tail, rfl⟩ }

theorem readFrom_of_parseFile (h : parseFile scheme t = .ok u) : ReadFrom u := by
  have hbuild (host : Option Host) (hasDrive : Bool) (path tail : Text)
      (hhost : ∀ g, host = some g → ∀ c ∈ g.toText, endsPath c = false) :
      ReadFrom (assemble scheme .file
        (some { Authority.empty with host := if hasDrive then none else host })
        (readPath .file path) tail) :=
    readFrom_assemble hscheme .file tail
      (fun a ha => Option.some.inj ha ▸ endsPath_of_file hasDrive hhost) (.inl ⟨_, _, rfl⟩)
  unfold parseFile at h
  simp only [bind, Except.bind, pure, Except.pure] at h
  split at h
  · split at h
    · split at h
      · cases h
        exact hbuild none _ _ _ nofun
      · split at h
        · cases h
        next host hhost =>
          cases h
          exact hbuild host _ _ _ (endsPath_of_readFileHost hhost)
    · cases h
      exact hbuild none _ _ _ nofun
  · cases h
    exact hbuild none _ _ _ nofun

theorem readFrom_of_parseOther (h : parseOther scheme t = .ok u) : ReadFrom u := by
  unfold parseOther at h
  simp only [bind, Except.bind, pure, Except.pure] at h
  split at h
  · split at h
    · cases h
    next hauthority =>
      cases h
      exact readFrom_assemble hscheme .other _
        (fun a ha => Option.some.inj ha ▸ endsPath_of_readAuthority hauthority) (.inl ⟨_, _, rfl⟩)
  · cases h
    exact readFrom_assemble hscheme .other _ nofun (.inl ⟨_, _, rfl⟩)
  · cases h
    exact readFrom_assemble hscheme .other _ nofun (.inr ⟨_, rfl⟩)

theorem readFrom_of_parseWeb (h : parseWeb scheme t = .ok u) : ReadFrom u := by
  unfold parseWeb at h
  simp only [bind, Except.bind, pure, Except.pure] at h
  split at h
  · cases h
  next hauthority =>
    cases h
    exact readFrom_assemble hscheme .web _
      (fun a ha => Option.some.inj ha ▸ endsPath_of_readAuthority hauthority) (.inl ⟨_, _, rfl⟩)

end

theorem readFrom_of_parse {t : Text} {u : Url} (h : parse t = .ok u) : ReadFrom u := by
  unfold parse at h
  split at h
  · cases h
  next scheme rest hscheme =>
    split at h
    next => exact readFrom_of_parseFile ⟨_, _, hscheme⟩ h
    next => exact readFrom_of_parseWeb ⟨_, _, hscheme⟩ h
    next => exact readFrom_of_parseOther ⟨_, _, hscheme⟩ h

/-! ### The parts of a text -/

/-- A URL whose text has the mark of the query, and that of the fragment, where these parts begin,
and not before. -/
structure Legible (u : Url) : Prop where
  place : ∀ c ∈ u.place, endsPath c = false
  query : ∀ q, u.query = some q → '#' ∉ q

theorem ReadFrom.legible {u : Url} (h : ReadFrom u) : Legible u := by
  obtain ⟨st, srest, hscheme⟩ := h.scheme
  refine ⟨fun c hc => ?_, fun q hq => ?_⟩
  · simp only [place, List.mem_append, List.mem_cons] at hc
    rcases hc with (hc | rfl | hc) | hc
    · exact endsPath_of_mem_scheme? hscheme c hc
    · decide
    · unfold beforePath at hc
      split at hc
      next a ha =>
        simp only [List.mem_cons] at hc
        rcases hc with rfl | rfl | hc
        · decide
        · decide
        · exact h.authority a ha c hc
      next =>
        split at hc
        · have hdot : "/.".toList.all (!endsPath ·) = true := by decide
          simpa using List.all_eq_true.mp hdot c hc
        · cases hc
    · rcases h.path with ⟨kind, t, hpath⟩ | ⟨t, hpath⟩
      · rw [hpath] at hc
        exact endsPath_of_mem_readPath hc
      · rw [hpath] at hc
        rcases mem_percentEncode hc with ⟨hmem, -, -⟩ | ⟨b, hb⟩
        · simpa using List.mem_takeWhile_imp hmem
        · exact endsPath_of_mem_percentByte hb
  · obtain ⟨kind, t, htail⟩ := h.tail
    intro hmem
    unfold readTail at htail
    dsimp only at htail
    split at htail
    · obtain rfl : q = percentEncode (inQuery kind) _ :=
        Option.some.inj (hq.symm.trans (congrArg Prod.fst htail))
      have hmark : inQuery kind '#' = true := by simp [inQuery]
      rcases mem_percentEncode hmem with ⟨-, -, hplain⟩ | ⟨b, hb⟩
      · rw [hmark] at hplain
        cases hplain
      · exact absurd (endsPath_of_mem_percentByte hb) (by decide)
    · cases hq.symm.trans (congrArg Prod.fst htail)

theorem legible_of_parse {t : Text} {u : Url} (h : parse t = .ok u) : Legible u :=
  (readFrom_of_parse h).legible

theorem toText_eq (u : Url) :
    u.toText = u.place ++ (marked '?' u.query ++ marked '#' u.fragment) :=
  List.append_assoc _ _ _

theorem Legible.parts_toText {u : Url} (h : Legible u) :
    pathPart u.toText = u.place ∧
      tailPart u.toText = marked '?' u.query ++ marked '#' u.fragment := by
  have hplace : ∀ c ∈ u.place, (!endsPath c) = true := fun c hc => by rw [h.place c hc]; rfl
  rw [toText_eq, pathPart, tailPart, List.takeWhile_append_of_pos hplace,
    List.dropWhile_append_of_pos hplace]
  cases u.query <;> cases u.fragment <;> simp [marked, endsPath]

theorem marked_injective (mark : Char) {s t : Option Text} (h : marked mark s = marked mark t) :
    s = t := by
  cases s <;> cases t <;> simp_all [marked]

theorem takeWhile_query {q : Text} (h : '#' ∉ q) (fragment : Option Text) :
    (q ++ marked '#' fragment).takeWhile (· != '#') = q := by
  have hq : ∀ c ∈ q, (c != '#') = true := fun c hc => bne_iff_ne.mpr fun heq => h (heq ▸ hc)
  rw [List.takeWhile_append_of_pos hq]
  cases fragment <;> simp [marked]

/-- URLs with the same text are the same before the query, in it and in the fragment. -/
theorem parts_eq_of_toText_eq {u v : Url} (hu : Legible u) (hv : Legible v)
    (h : u.toText = v.toText) :
    u.place = v.place ∧ u.query = v.query ∧ u.fragment = v.fragment := by
  obtain ⟨hplace, htail⟩ := hu.parts_toText
  obtain ⟨hplace', htail'⟩ := hv.parts_toText
  refine ⟨hplace.symm.trans (h ▸ hplace'), ?_⟩
  have htails : marked '?' u.query ++ marked '#' u.fragment =
      marked '?' v.query ++ marked '#' v.fragment := htail.symm.trans (h ▸ htail')
  cases hq : u.query with
  | none =>
      cases hr : v.query with
      | none =>
          rw [hq, hr] at htails
          exact ⟨rfl, marked_injective '#' htails⟩
      | some r =>
          rw [hq, hr] at htails
          cases hf : u.fragment <;> rw [hf] at htails <;> cases htails
  | some q =>
      cases hr : v.query with
      | none =>
          rw [hq, hr] at htails
          cases hf : v.fragment <;> rw [hf] at htails <;> cases htails
      | some r =>
          rw [hq, hr] at htails
          have hbehind := (List.cons.inj htails).2
          have hquery : q = r := by
            rw [← takeWhile_query (hu.query q hq) u.fragment,
              ← takeWhile_query (hv.query r hr) v.fragment]
            exact congrArg _ hbehind
          subst hquery
          exact ⟨rfl, marked_injective '#' (List.append_cancel_left hbehind)⟩

end TunnelSync.Url
