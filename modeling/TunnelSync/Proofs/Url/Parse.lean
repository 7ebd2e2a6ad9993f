import TunnelSync.Proofs.Url.Host
import TunnelSync.Proofs.Url.Path

/-!
# What a URL of the web is made of

* `Authority.Sound` : what holds of an authority that has been read
* `Sound` : what holds of a URL of the web that has been read
* `sound_of_parse` : reading gives a sound URL
* `tailPart_toText` : query and fragment are found again in its text
-/

namespace TunnelSync.Url

/-- An authority with a host, with no port that need not be written, and with no character that
would end it. -/
structure Authority.Sound (scheme : Text) (a : Authority) : Prop where
  host : a.host.isSome = true
  port : ∀ p, a.port = some p → defaultPort? scheme ≠ some p
  written : ∀ c ∈ a.toText, endsAuthority .web c = false

/-- A URL of the web with a sound authority and settled segments. -/
structure Sound (u : Url) : Prop where
  kind : kindOf u.scheme = .web
  authority : ∃ a, u.authority = some a ∧ a.Sound u.scheme
  path : ∃ segments, u.path = .rooted segments ∧ ∀ s ∈ segments, Settled s

/-! ### The authority -/

theorem endsAuthority_of_mem_userInfo {t : Text} {c : Char} (h : c ∈ percentEncode inUserInfo t) :
    endsAuthority .web c = false := by
  rcases mem_percentEncode h with ⟨-, -, hplain⟩ | ⟨b, hb⟩
  · exact endsAuthority_eq_false (p := (!inUserInfo ·)) (by decide) (by rw [hplain]; rfl)
  · have hall := forall_mem_percentByte (p := fun c => !endsAuthority .web c) (by decide)
      (by decide) hb
    simpa using hall

/-- Neither user name nor password ends the authority. -/
theorem endsAuthority_of_readUserInfo {t : Text} {a : Authority}
    (h : readUserInfo t = (a.username, a.password)) :
    ∀ c ∈ a.userInfo, endsAuthority .web c = false := by
  simp only [readUserInfo, Prod.mk.injEq] at h
  obtain ⟨hname, hpassword⟩ := h
  have husername : ∀ c ∈ a.username, endsAuthority .web c = false := fun c hc =>
    endsAuthority_of_mem_userInfo (hname ▸ hc)
  have hsigns : ∀ c ∈ [':', '@'], endsAuthority .web c = false := by simp [endsAuthority]
  intro c hc
  unfold Authority.userInfo at hc
  split at hc
  next p hp =>
    have hcoded : p = percentEncode inUserInfo ((t.dropWhile (· != ':')).drop 1) := by
      rw [hp] at hpassword
      split at hpassword
      · cases hpassword
      · exact (Option.some.inj hpassword).symm
    simp only [List.mem_append, List.mem_cons, List.not_mem_nil, or_false] at hc
    rcases hc with (hc | hc | hc) | hc
    · exact husername c hc
    · exact hsigns c (by simp [hc])
    · exact endsAuthority_of_mem_userInfo (hcoded ▸ hc)
    · exact hsigns c (by simp [hc])
  next =>
    split at hc
    · cases hc
    · rcases List.mem_append.mp hc with hc | hc
      · exact husername c hc
      · exact hsigns c (List.mem_cons_of_mem _ hc)

theorem port_ne_default {scheme t rest : Text} {port : Option Nat}
    (h : readPort scheme t = .ok (port, rest)) :
    ∀ p, port = some p → defaultPort? scheme ≠ some p := by
  unfold readPort at h
  dsimp only at h
  split_ifs at h with hbad hdefault
  · cases h
    exact fun p hp => by cases hp
  · cases h
    rintro p ⟨⟩ heq
    simp [heq] at hdefault

/-- What the parts of an authority are read from. -/
theorem parts_of_readAuthority {scheme t rest : Text} {kind : Kind} {a : Authority}
    (h : readAuthority scheme kind t = .ok (a, rest)) :
    (∃ s, readUserInfo s = (a.username, a.password)) ∧ (∃ s, readHost kind s = .ok a.host) ∧
      (a.port = none ∨ ∃ s r, readPort scheme s = .ok (a.port, r)) := by
  unfold readAuthority at h
  simp only [bind, Except.bind, pure, Except.pure, throw, throwThe, MonadExceptOf.throw] at h
  split at h
  · cases h
  · split at h
    · cases h
    next host hhost =>
      split at h
      · cases h
      · split at h
        · cases h
          exact ⟨⟨_, rfl⟩, ⟨_, hhost⟩, .inl rfl⟩
        · split at h
          · cases h
          next portText port hport =>
            cases h
            exact ⟨⟨_, rfl⟩, ⟨_, hhost⟩, .inr ⟨_, _, hport⟩⟩

theorem exists_of_readHost {t : Text} {host : Option Host} (h : readHost .web t = .ok host) :
    ∃ h, host = some h ∧ Host.readDomain t = .ok h := by
  unfold readHost at h
  rw [if_neg (by decide)] at h
  split at h
  · cases h
  · cases hdomain : Host.readDomain t with
    | error e => rw [hdomain] at h; cases h
    | ok host => rw [hdomain] at h; cases h; exact ⟨host, rfl, rfl⟩

/-- The authority of a URL of the web is sound. -/
theorem Authority.sound_of_readAuthority {scheme t rest : Text} {a : Authority}
    (h : readAuthority scheme .web t = .ok (a, rest)) : a.Sound scheme := by
  obtain ⟨⟨userText, huser⟩, ⟨hostText, hhost⟩, hport⟩ := parts_of_readAuthority h
  obtain ⟨host, hsome, hdomain⟩ := exists_of_readHost hhost
  refine
    { host := by rw [hsome]; rfl
      port := fun p hp => ?_
      written := fun c hc => ?_ }
  · rcases hport with hnone | ⟨s, r, hread⟩
    · rw [hnone] at hp
      cases hp
    · exact port_ne_default hread p hp
  · rw [Authority.toText, hsome] at hc
    rcases List.mem_append.mp hc with hc | hc
    · rcases List.mem_append.mp hc with hc | hc
      · exact endsAuthority_of_readUserInfo huser c hc
      · exact Host.endsAuthority_of_mem_toText hdomain c hc
    · unfold Authority.portText at hc
      split at hc
      · rcases List.mem_cons.mp hc with rfl | hc
        · decide
        · exact endsAuthority_of_mem_ofNat _ c hc
      · cases hc

/-! ### The whole URL -/

theorem scheme_of_parseFile {scheme t : Text} {u : Url} (h : parseFile scheme t = .ok u) :
    u.scheme = scheme := by
  unfold parseFile at h
  simp only [bind, Except.bind, pure, Except.pure] at h
  split at h
  · split at h
    · split at h
      · cases h; rfl
      · split at h
        · cases h
        · cases h; rfl
    · cases h; rfl
  · cases h; rfl

theorem scheme_of_parseOther {scheme t : Text} {u : Url} (h : parseOther scheme t = .ok u) :
    u.scheme = scheme := by
  unfold parseOther at h
  simp only [bind, Except.bind, pure, Except.pure] at h
  split at h
  · split at h
    · cases h
    · cases h; rfl
  · cases h; rfl
  · cases h; rfl

theorem sound_of_parseWeb {scheme t : Text} {u : Url} (hkind : kindOf scheme = .web)
    (h : parseWeb scheme t = .ok u) : Sound u := by
  unfold parseWeb at h
  simp only [bind, Except.bind, pure, Except.pure] at h
  split at h
  · cases h
  next part hauthority =>
    cases h
    exact
      { kind := hkind
        authority := ⟨_, rfl, Authority.sound_of_readAuthority hauthority⟩
        path := exists_settled _ }

/-- A URL of the web that has been read is sound. -/
theorem sound_of_parse {t : Text} {u : Url} (h : parse t = .ok u) (hkind : kindOf u.scheme = .web) :
    Sound u := by
  -- a URL that was read in another way keeps its scheme, and so is not of the web
  unfold parse at h
  split at h
  · cases h
  next scheme rest hscheme =>
    split at h
    next hfile =>
      rw [scheme_of_parseFile h, hfile] at hkind
      cases hkind
    next hweb => exact sound_of_parseWeb hweb h
    next hother =>
      rw [scheme_of_parseOther h, hother] at hkind
      cases hkind

/-! ### Finding the query again -/

theorem endsPath_of_endsAuthority {c : Char} (h : endsAuthority .web c = false) :
    endsPath c = false := by
  simp only [endsAuthority, Bool.or_eq_false_iff] at h
  simp [endsPath, h.1.1.2, h.1.2]

theorem endsPath_of_mem_scheme {scheme : Text} (h : kindOf scheme = .web) :
    ∀ c ∈ scheme, endsPath c = false := by
  have hall : (["http", "https", "ws", "wss", "ftp"].map String.toList).all
      (·.all (!endsPath ·)) = true := by decide
  unfold kindOf at h
  split_ifs at h with hfile hweb
  intro c hc
  have hscheme := List.all_eq_true.mp hall scheme (List.contains_iff_mem.mp hweb)
  simpa using List.all_eq_true.mp hscheme c hc

/-- The text of a sound URL before its query begins neither a query nor a fragment. -/
theorem tailPart_toText {u : Url} (h : Sound u) :
    tailPart u.toText = marked '?' u.query ++ marked '#' u.fragment := by
  obtain ⟨a, ha, hsound⟩ := h.authority
  obtain ⟨segments, hpath, hsettled⟩ := h.path
  have hbefore : ∀ c ∈ u.scheme ++ ':' :: u.beforePath ++ u.path.toText,
      (!endsPath c) = true := by
    intro c hc
    rw [Bool.not_eq_true']
    rw [beforePath, ha, hpath] at hc
    simp only [List.mem_append, List.mem_cons] at hc
    rcases hc with (hc | rfl | rfl | rfl | hc) | hc
    · exact endsPath_of_mem_scheme h.kind c hc
    · decide
    · decide
    · decide
    · exact endsPath_of_endsAuthority (hsound.written c hc)
    · exact endsPath_of_mem_toText hsettled hc
  rw [tailPart, toText, List.append_assoc, List.dropWhile_append_of_pos hbefore]
  cases u.query <;> cases u.fragment <;> simp [marked, endsPath]

theorem readTail_toText {u : Url} {q : Text} (h : Sound u) (hquery : u.query = some q)
    (hfragment : u.fragment = none) (hq : ∀ c ∈ q, c.toNat < 0x80 ∧ inQuery .web c = false) :
    readTail .web (tailPart u.toText) = (some q, none) := by
  have hsign : ∀ c ∈ q, (c != '#') = true := fun c hc => bne_iff_ne.mpr fun heq => by
    have hcoded := (hq c hc).2
    rw [heq] at hcoded
    cases hcoded
  rw [tailPart_toText h, hquery, hfragment]
  simp only [marked, List.append_nil, readTail]
  rw [List.takeWhile_eq_self_iff.mpr hsign, percentEncode_eq_self hq,
    List.dropWhile_eq_nil_iff.mpr hsign]

end TunnelSync.Url
