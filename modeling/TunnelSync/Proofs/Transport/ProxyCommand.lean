import TunnelSync.Proofs.Transport.Quoting
import TunnelSync.Proofs.Transport.Shell
import TunnelSync.Proofs.Url.Endpoint

/-!
# The proxy command as it is run

Three programs read the shell for curl one after the other. rsync splits it into words, ssh takes
one of the words for its proxy command and expands the percent signs in it, and a POSIX shell splits
the command into words again. Only the URL stands in quotes of its own, and nothing is escaped, so a
quote in the URL ends its quotes, and in the path of curl everything counts that a shell does not
take as it is.

* `rsyncQuoting`, `shellQuoting` : how rsync and a shell split
* `RunsProxy` : what the three of them run
* `runsProxy_curlShell_iff` : when that is curl with the URL
* `proxyCommand_read_iff` : when it is so for a worker, whatever its token
-/

namespace TunnelSync.Transport

/-- rsync splits at spaces, and takes a quote in its own quotes if it is doubled. -/
def rsyncQuoting : Quoting :=
  { separates := (· == ' '), quotes := fun c => c == '\'' || c == '"', doubles := true
    acts := fun _ => false }

/-- A shell splits at blanks, and takes everything between single quotes as it is. Outside of them
the characters that always have to be quoted to stand for themselves end a command, expand to
something else or begin another kind of quotes. Those that are special in some places only, such as
`*` and `~`, are taken to stand for themselves. -/
def shellQuoting : Quoting :=
  { separates := fun c => c == ' ' || c == '\t', quotes := (· == '\''), doubles := false
    acts := fun c => "|&;<>()\n$`\\\"".toList.contains c }

example : rsyncQuoting.words? none none "a 'b ''c' \"d\"e" =
    some (["a", "b 'c", "de"].map String.toList) := by decide +kernel

example : shellQuoting.words? none none "a 'b  c'd\te" =
    some (["a", "b  cd", "e"].map String.toList) := by decide +kernel

/-- The words of the shell for curl before its last option. -/
def sshWords : List Text :=
  ["ssh", "-o", "StrictHostKeyChecking=no", "-o", "UserKnownHostsFile=/dev/null", "-o"].map
    String.toList

/-- What stands before the command in an option of ssh. -/
def proxyLabel : Text := "ProxyCommand="

/-- The arguments of curl before the URL. -/
def curlSwitches : List Text :=
  ["--no-progress-meter", "-N", "--http1.1", "-T", "."].map String.toList

/-- The shell is ssh that runs just this argument list as its proxy command. -/
def RunsProxy (shell : Text) (arguments : List Bytes) : Prop :=
  ∃ value command words,
    rsyncQuoting.words? none none shell = some (sshWords ++ [proxyLabel ++ value]) ∧
    expandPercent? value = some command ∧
    shellQuoting.words? none none command = some words ∧ words.map Text.encode = arguments

/-- curl with its switches and the URL. -/
def curlArguments (curl : Bytes) (url : Url) : List Bytes :=
  curl :: (curlSwitches ++ [url.toText]).map Text.encode

/-- A path of curl that a shell takes as it is. -/
structure ClearProgram (curl : Bytes) : Prop where
  encoded : Text.encode (Text.decodeLossy curl) = curl
  isWord : shellQuoting.isWord (Text.decodeLossy curl) = true

/-! ### What is split -/

theorem curlShell_eq (curl : Bytes) (url : Url) :
    curlShell curl url = sshWords.flatMap (· ++ [' ']) ++
      '"' :: ((proxyLabel ++ Rsync.doublePercent (proxyCommand curl url)) ++ ['"']) := by
  have hfront : curlOptions = sshWords.flatMap (· ++ [' ']) ++ '"' :: proxyLabel := by decide
  have hshell : curlShell curl url =
      curlOptions ++ Rsync.doublePercent (proxyCommand curl url) ++ ['"'] := rfl
  rw [hshell, hfront]
  simp

theorem proxyCommand_eq (curl : Bytes) (url : Url) :
    proxyCommand curl url = (Text.decodeLossy curl :: curlSwitches).flatMap (· ++ [' ']) ++
      '\'' :: (url.toText ++ ['\'']) := by
  have hmiddle : " --no-progress-meter -N --http1.1 -T . '".toList =
      ' ' :: (curlSwitches.flatMap (· ++ [' ']) ++ ['\'']) := by decide
  have hcommand : proxyCommand curl url = Text.decodeLossy curl ++
      " --no-progress-meter -N --http1.1 -T . '".toList ++ url.toText ++ ['\''] := rfl
  rw [hcommand, hmiddle]
  simp

theorem count_expandPercent? {c : Char} (hc : c ≠ '%') {t r : Text} (h : expandPercent? t = some r) :
    r.count c = t.count c := by
  fun_induction expandPercent? t generalizing r with
  | case1 => cases h; rfl
  | case2 t ih =>
      obtain ⟨s, hs, rfl⟩ := Option.map_eq_some_iff.mp h
      simp [ih hs, hc.symm]
  | case3 => cases h
  | case4 d t hd hnot ih =>
      obtain ⟨s, hs, rfl⟩ := Option.map_eq_some_iff.mp h
      simp [ih hs, List.count_cons]

theorem count_doublePercent {c : Char} (hc : c ≠ '%') (t : Text) :
    (Rsync.doublePercent t).count c = t.count c :=
  (count_expandPercent? hc (expandPercent?_doublePercent t)).symm

/-! ### What is read back -/

variable {curl : Bytes} {url : Url}

theorem words_of_map_encode {words : List Text}
    (h : words.map Text.encode = curlArguments curl url) :
    Text.encode (Text.decodeLossy curl) = curl ∧
      words = Text.decodeLossy curl :: (curlSwitches ++ [url.toText]) := by
  have hdecode (ws : List Text) : (ws.map Text.encode).map Text.decodeLossy = ws := by
    simp [Function.comp_def, Text.decodeLossy_encode]
  have hwords : words = Text.decodeLossy curl :: (curlSwitches ++ [url.toText]) := by
    rw [← hdecode words, h, curlArguments, List.map_cons, hdecode]
  rw [hwords, curlArguments, List.map_cons] at h
  exact ⟨(List.cons.inj h).1, hwords⟩

theorem not_mem_spaced {c : Char} (hblank : c ≠ ' ') {ws : List Text} (h : c ∉ ws.flatten) :
    c ∉ ws.flatMap (· ++ [' ']) := by
  simp only [List.mem_flatMap, List.mem_append, List.mem_singleton, not_exists, not_and, not_or]
  exact fun w hw => ⟨fun hc => h (List.mem_flatten.mpr ⟨w, hw, hc⟩), hblank⟩

theorem count_flatten {c : Char} (hquote : c ≠ '\'') (hblank : c ≠ ' ')
    (hswitches : c ∉ curlSwitches.flatten) :
    (Text.decodeLossy curl :: (curlSwitches ++ [url.toText])).flatten.count c =
      (proxyCommand curl url).count c := by
  have hspaced := List.count_eq_zero.mpr (not_mem_spaced hblank hswitches)
  rw [proxyCommand_eq, List.flatMap_cons]
  simp [List.count_eq_zero.mpr hswitches, hspaced, hquote.symm, hblank.symm]

theorem words?_curlShell :
    rsyncQuoting.words? none none (curlShell curl url) =
      (rsyncQuoting.words? none none
        ('"' :: ((proxyLabel ++ Rsync.doublePercent (proxyCommand curl url)) ++ ['"']))).map
          (sshWords ++ ·) := by
  rw [curlShell_eq, Quoting.words?_words (by decide) (by decide)]

/-- What rsync reads holds the whole command only if there is no double quote in it. -/
theorem eq_doublePercent_of_words? {value : Text}
    (h : rsyncQuoting.words? none none (curlShell curl url) =
      some (sshWords ++ [proxyLabel ++ value]))
    (hcount : (proxyCommand curl url).count '"' ≤ value.count '"') :
    value = Rsync.doublePercent (proxyCommand curl url) ∧ '"' ∉ proxyCommand curl url := by
  rw [words?_curlShell] at h
  obtain ⟨read, hread, hsplit⟩ := Option.map_eq_some_iff.mp h
  obtain rfl : read = [proxyLabel ++ value] := List.append_cancel_left hsplit
  have hdouble : (Rsync.doublePercent (proxyCommand curl url)).count '"' =
      (proxyCommand curl url).count '"' := count_doublePercent (by decide) _
  have hnone : '"' ∉ proxyLabel ++ Rsync.doublePercent (proxyCommand curl url) := by
    intro hmem
    have hlt := Quoting.count_lt_of_mem (by decide) (by decide) hmem hread
    simp only [List.flatten_cons, List.flatten_nil, List.append_nil, List.count_append] at hlt
    omega
  rw [Quoting.words?_quoted (by decide) (by decide) hnone] at hread
  refine ⟨(List.append_cancel_left (List.cons.inj (Option.some.inj hread)).1).symm, ?_⟩
  rw [List.mem_append, not_or] at hnone
  rw [← List.count_eq_zero, ← hdouble, List.count_eq_zero]
  exact hnone.2

theorem words?_proxyCommand (hcurl : shellQuoting.isWord (Text.decodeLossy curl) = true)
    (hurl : '\'' ∉ url.toText) :
    shellQuoting.words? none none (proxyCommand curl url) =
      some (Text.decodeLossy curl :: (curlSwitches ++ [url.toText])) := by
  have hswitches : ∀ w ∈ curlSwitches, shellQuoting.isWord w = true := by decide
  rw [proxyCommand_eq,
    Quoting.words?_words (by decide) (List.forall_mem_cons.mpr ⟨hcurl, hswitches⟩),
    Quoting.words?_quoted (by decide) (by decide) hurl]
  rfl

/-- A command that a shell reads as curl with its switches and the URL. -/
theorem isWord_of_words? (h : shellQuoting.words? none none (proxyCommand curl url) =
      some (Text.decodeLossy curl :: (curlSwitches ++ [url.toText]))) :
    shellQuoting.isWord (Text.decodeLossy curl) = true ∧ '\'' ∉ url.toText := by
  have hnone := (Quoting.reads_of_words? h).not_mem (d := '\'') rfl (fun _ => rfl) nofun
    List.not_mem_nil
  simp only [List.flatten_cons, List.flatten_append, List.mem_append, not_or] at hnone
  obtain ⟨hcurl, hswitches, hurl, -⟩ := hnone
  refine ⟨Quoting.isWord_iff.mpr ⟨fun hnil => ?_, fun c hc => ?_⟩, hurl⟩
  · -- without a path the first word is a switch
    rw [proxyCommand_eq, hnil, List.flatMap_cons, List.nil_append, List.append_assoc,
      List.singleton_append, Quoting.words?_separates (by decide),
      Quoting.words?_words (by decide) (by decide),
      Quoting.words?_quoted (by decide) (by decide) hurl] at h
    exact absurd (congrArg List.length (Option.some.inj h)) (by simp)
  · have hbefore : '\'' ∉ (Text.decodeLossy curl :: curlSwitches).flatMap (· ++ [' ']) :=
      not_mem_spaced (by decide) (by simp [hcurl, hswitches])
    rw [proxyCommand_eq] at h
    obtain ⟨hread, hcount⟩ := (Quoting.reads_of_words? h).unquoted fun d hd => by
      have hquote : d ≠ '\'' := fun heq => hbefore (heq ▸ hd)
      simpa [shellQuoting] using hquote
    refine (hread c (by simp [hc])).resolve_left fun hseparates => ?_
    -- a separator outside quotes is in no word, but the path is one
    have hle := hcount c hseparates
    have hquote : c ≠ '\'' := fun heq => hcurl (heq ▸ hc)
    have hpos : 0 < (Text.decodeLossy curl).count c := List.count_pos_iff.mpr hc
    simp only [List.flatten_cons, List.flatten_append, List.flatten_nil, List.append_nil,
      List.count_append, List.count_cons_of_ne hquote.symm, List.count_nil, Option.getD_none] at hle
    omega

/-- ssh runs curl with its switches and the URL if, and only if, a shell takes the path of curl as it
is and there is no quote in the URL. -/
theorem runsProxy_curlShell_iff :
    RunsProxy (curlShell curl url) (curlArguments curl url) ↔
      ClearProgram curl ∧ '\'' ∉ url.toText ∧ '"' ∉ url.toText := by
  constructor
  · rintro ⟨value, command, words, hrsync, hexpand, hshell, harguments⟩
    obtain ⟨hencoded, rfl⟩ := words_of_map_encode harguments
    have hcount := (Quoting.reads_of_words? hshell).count_le '"'
    rw [count_flatten (by decide) (by decide) (by decide), count_expandPercent? (by decide) hexpand,
      Option.getD_none, List.count_nil, Nat.zero_add] at hcount
    obtain ⟨rfl, hdouble⟩ := eq_doublePercent_of_words? hrsync hcount
    obtain rfl : proxyCommand curl url = command :=
      Option.some.inj ((expandPercent?_doublePercent _).symm.trans hexpand)
    obtain ⟨hcurl, hsingle⟩ := isWord_of_words? hshell
    refine ⟨⟨hencoded, hcurl⟩, hsingle, fun hmem => hdouble ?_⟩
    rw [proxyCommand_eq]
    simp [hmem]
  · rintro ⟨⟨hencoded, hword⟩, hsingle, hdouble⟩
    have hcurl : '"' ∉ Text.decodeLossy curl := fun hmem =>
      absurd ((Quoting.isWord_iff.mp hword).2 _ hmem) (by decide)
    have hcommand : (proxyCommand curl url).count '"' = 0 := by
      rw [← count_flatten (by decide) (by decide) (by decide), List.count_eq_zero]
      have hswitches : '"' ∉ curlSwitches.flatten := by decide
      simp [hcurl, hswitches, hdouble]
    have hvalue : '"' ∉ proxyLabel ++ Rsync.doublePercent (proxyCommand curl url) := by
      have hlabel : '"' ∉ proxyLabel := by decide
      rw [List.mem_append, not_or, ← List.count_eq_zero (l := Rsync.doublePercent _),
        count_doublePercent (by decide)]
      exact ⟨hlabel, hcommand⟩
    refine ⟨_, _, _, ?_, expandPercent?_doublePercent _, words?_proxyCommand hword hsingle, ?_⟩
    · rw [words?_curlShell, Quoting.words?_quoted (by decide) (by decide) hvalue]
      rfl
    · rw [List.map_cons, hencoded, curlArguments]

/-- With the endpoint of a worker, ssh runs curl with its switches and the URL if, and only if, a
shell takes the path of curl as it is and the worker has no quote in its user, its password, its host
or its path. The token is never the cause, nor are the query and the fragment of the worker. -/
theorem proxyCommand_read_iff (curl : Bytes) {workerUrl token : Text} {u : Url}
    (h : Url.websocket workerUrl token = .ok u) :
    ∃ worker, Url.parse workerUrl = .ok worker ∧
      (RunsProxy (curlShell curl u) (curlArguments curl u) ↔
        ClearProgram curl ∧ '\'' ∉ worker.place ∧ '"' ∉ worker.place) := by
  obtain ⟨worker, hparse, -⟩ := Url.exists_worker_of_websocket h
  refine ⟨worker, hparse, ?_⟩
  rw [runsProxy_curlShell_iff, Url.mem_toText_iff hparse h (by decide) (by decide),
    Url.mem_toText_iff hparse h (by decide) (by decide)]

/-- Quotes in the token, in the query and in the fragment. -/
theorem proxyCommand_read_iff_quotedToken :
    ∃ u, Url.websocket "https://me:pw@[::1]:8443/base//?it's=1#\"top\"" "it's \"so\" %" = .ok u ∧
      RunsProxy (curlShell (Text.encode "/opt/100%/curl") u)
        (curlArguments (Text.encode "/opt/100%/curl") u) := by
  let worker : Url :=
    { scheme := "https"
      authority := some ⟨"me", some "pw".toList, some (.ipv6 [0, 0, 0, 0, 0, 0, 0, 1]), some 8443⟩
      path := .rooted ["base", [], []]
      query := some "it%27s=1".toList
      fragment := some "%22top%22".toList }
  have hparse : Url.parse "https://me:pw@[::1]:8443/base//?it's=1#\"top\"" = .ok worker := by
    decide +kernel
  obtain ⟨u, hu, -⟩ := Url.exists_endpoint "it's \"so\" %" hparse (.inr ⟨.inl rfl, rfl⟩)
  obtain ⟨worker', hparse', hiff⟩ := proxyCommand_read_iff (Text.encode "/opt/100%/curl") hu
  obtain rfl : worker' = worker := Except.ok.inj (hparse'.symm.trans hparse)
  refine ⟨u, hu, hiff.mpr ⟨⟨?_, ?_⟩, ?_, ?_⟩⟩
  · rw [Text.decodeLossy_encode]
  · rw [Text.decodeLossy_encode]
    decide
  · decide +kernel
  · decide +kernel

/-- A quote in the path of a worker breaks the command of every curl, and a space in the path of curl
breaks it for a worker that has none. -/
theorem proxyCommand_broken :
    (∃ u, Url.websocket "https://[::1]/it's" "zq9" = .ok u ∧
      ∀ curl, ¬ RunsProxy (curlShell curl u) (curlArguments curl u)) ∧
    ∃ u, Url.websocket "https://[::1]/" "zq9" = .ok u ∧
      ¬ RunsProxy (curlShell (Text.encode "/opt/my curl/curl") u)
        (curlArguments (Text.encode "/opt/my curl/curl") u) := by
  let worker (path : Text) : Url :=
    { scheme := "https"
      authority := some ⟨[], none, some (.ipv6 [0, 0, 0, 0, 0, 0, 0, 1]), none⟩
      path := .rooted [path]
      query := none
      fragment := none }
  constructor
  · have hparse : Url.parse "https://[::1]/it's" = .ok (worker "it's") := by decide +kernel
    obtain ⟨u, hu, -⟩ := Url.exists_endpoint "zq9" hparse (.inr ⟨.inl rfl, rfl⟩)
    refine ⟨u, hu, fun curl hruns => (runsProxy_curlShell_iff.mp hruns).2.1 ?_⟩
    rw [Url.mem_toText_iff hparse hu (by decide) (by decide)]
    decide +kernel
  · have hparse : Url.parse "https://[::1]/" = .ok (worker []) := by decide +kernel
    obtain ⟨u, hu, -⟩ := Url.exists_endpoint "zq9" hparse (.inr ⟨.inl rfl, rfl⟩)
    refine ⟨u, hu, fun hruns => ?_⟩
    have hword := (runsProxy_curlShell_iff.mp hruns).1.isWord
    rw [Text.decodeLossy_encode] at hword
    exact absurd hword (by decide)

end TunnelSync.Transport
