import TunnelSync.Proofs.Sync.Shape
import TunnelSync.Proofs.Text.Cut

/-!
# The transport of a sequence of syncs

A syncer that has no transport looks for one in the first sync that has something to copy, and keeps
it. What the programs of the host answer later, and what becomes of the syncs, does not matter.

* `Transport.Usable` : the answer of a curl that can be used
* `Transport.Searched` : a search that stops at the first usable curl
* `Transport.Chosen` : the transports that an engine may get on a host, and what is asked for them
* `Syncer.HasWork` : the syncs that have something to copy
* `Syncer.transport_of_syncAll` : one transport for all syncs of a syncer
-/

namespace TunnelSync

namespace Transport

/-! ### The answer of a curl -/

/-- A line that lists a WebSocket protocol: one of the words behind the label is its name. -/
def ListsWebSocket (line : Text) : Prop :=
  ∃ rest, Text.trim line = protocolsLabel ++ rest ∧
    (Text.HasWord "ws" rest ∨ Text.HasWord "wss" rest)

/-- An answer in time, of a program that succeeds and lists a WebSocket protocol. -/
def Usable (p : Probe) : Prop :=
  ∃ x, p = .ok (some x) ∧ x.code = some 0 ∧
    ∃ line ∈ Text.lines (Text.decodeLossy x.stdout), ListsWebSocket line

theorem supportsWebSocket_iff {version : Text} :
    supportsWebSocket version = true ↔ ∃ line ∈ Text.lines version, ListsWebSocket line := by
  simp only [supportsWebSocket, protocols, List.any_eq_true, List.mem_flatMap, List.mem_filterMap,
    Text.after?_eq_some_iff, Bool.or_eq_true, beq_iff_eq, Text.mem_words_iff, ListsWebSocket]
  constructor
  · rintro ⟨w, ⟨rest, ⟨line, hline, hrest⟩, hw⟩, rfl | rfl⟩
    · exact ⟨line, hline, rest, hrest, .inl hw⟩
    · exact ⟨line, hline, rest, hrest, .inr hw⟩
  · rintro ⟨line, hline, rest, hrest, hw | hw⟩
    · exact ⟨_, ⟨rest, ⟨line, hline, hrest⟩, hw⟩, .inl rfl⟩
    · exact ⟨_, ⟨rest, ⟨line, hline, hrest⟩, hw⟩, .inr rfl⟩

theorem isUsable_iff {p : Probe} : isUsable p = true ↔ Usable p := by
  rcases p with cause | - | x
  · simp [isUsable, Usable]
  · simp [isUsable, Usable]
  · simp [isUsable, Usable, supportsWebSocket_iff]

/-! ### The search -/

variable {ask : Bytes → Probe}

/-- The searches that end with a curl or without one, and the candidates that are asked: each up to
the first usable one, and none behind it. -/
inductive Searched (ask : Bytes → Probe) : List Bytes → Option Bytes → List Bytes → Prop
  | found {before after : List Bytes} {c : Bytes} (hbefore : ∀ d ∈ before, ¬ Usable (ask d))
      (hc : Usable (ask c)) : Searched ask (before ++ c :: after) (some c) (before ++ [c])
  | none {candidates : List Bytes} (h : ∀ c ∈ candidates, ¬ Usable (ask c)) :
      Searched ask candidates none candidates

theorem Searched.cons {candidates asked : List Bytes} {found : Option Bytes} {c : Bytes}
    (hc : ¬ Usable (ask c)) (h : Searched ask candidates found asked) :
    Searched ask (c :: candidates) found (c :: asked) := by
  cases h with
  | @found before after d hbefore hd =>
      show Searched ask ((c :: before) ++ d :: after) (some d) ((c :: before) ++ [d])
      exact .found (List.forall_mem_cons.mpr ⟨hc, hbefore⟩) hd
  | none h => exact .none (List.forall_mem_cons.mpr ⟨hc, h⟩)

theorem searched_findCurl? (ask : Bytes → Probe) (candidates : List Bytes) :
    Searched ask candidates (findCurl? ask candidates) (asked ask candidates) := by
  induction candidates with
  | nil => exact .none nofun
  | cons c candidates ih =>
      by_cases hc : Usable (ask c)
      · -- the search ends here, whatever the rest would answer
        have husable := isUsable_iff.mpr hc
        simp only [findCurl?, asked, List.find?_cons, husable, if_true]
        show Searched ask ([] ++ c :: candidates) (some c) ([] ++ [c])
        exact .found nofun hc
      · have hunusable : isUsable (ask c) = false := by
          rw [← Bool.not_eq_true, isUsable_iff]
          exact hc
        simp only [findCurl?, asked, List.find?_cons, hunusable, Bool.false_eq_true, if_false]
        exact ih.cons hc

/-! ### The choice -/

/-- The choices of an engine, with the answers that programs give. A wish is followed without
asking; otherwise the bridge is taken where no curl can be used. -/
inductive Chosen (e : Engine) (ask : Bytes → Probe) : Choice → Prop
  | bridge (he : e.transport = .bridge) : Chosen e ask ⟨.bridge, []⟩
  | curl (he : e.transport = .curl) :
      Chosen e ask ⟨.curl (e.curl.getD (Text.encode "curl")), []⟩
  | found (he : e.transport = .auto) {c : Bytes} {asked : List Bytes}
      (hs : Searched ask (candidates e) (some c) asked) : Chosen e ask ⟨.curl c, asked⟩
  | fallback (he : e.transport = .auto) {asked : List Bytes}
      (hs : Searched ask (candidates e) none asked) : Chosen e ask ⟨.bridge, asked⟩

theorem chosen_choose (e : Engine) (ask : Bytes → Probe) : Chosen e ask (choose e ask) := by
  unfold choose
  cases he : e.transport with
  | bridge => exact .bridge he
  | curl => exact .curl he
  | auto =>
      have hs := searched_findCurl? ask (candidates e)
      cases hfind : findCurl? ask (candidates e) with
      | some c => exact .found he (hfind ▸ hs)
      | none => exact .fallback he (hfind ▸ hs)

end Transport

namespace Syncer

/-! ### One sync -/

/-- A sync that finds rsync, and something to copy. -/
def HasWork (e : Engine) (h : Host) (r : Request) : Prop :=
  Rsync.ensureAvailable e.rsync (h.probe e.rsync) = .ok () ∧
    ∃ entries, listing h r = .ok entries ∧ entries ≠ []

theorem hasWork_iff {e : Engine} {h : Host} {r : Request} :
    HasWork e h r ↔ ∃ j, job? e h r = .ok (some j) := by
  rw [job?_eq, HasWork]
  cases Rsync.ensureAvailable e.rsync (h.probe e.rsync) with
  | error cause => simp [Except.bind]
  | ok =>
      cases hentries : listing h r with
      | error cause => simp [Except.bind, Except.map]
      | ok entries =>
          cases entries with
          | nil => simp [Except.bind, Except.map, Plan.degree?]
          | cons entry entries =>
              obtain ⟨degree, hdegree, -⟩ := Plan.exists_degree? (countedFiles h r)
                r.options.parallelism (Nat.succ_ne_zero entries.length)
              simp [Except.bind, Except.map, hdegree]

/-- A syncer that has not chosen yet. -/
def fresh (e : Engine) : Syncer := ⟨e, none⟩

/-- A syncer that has chosen. -/
def settled (e : Engine) (t : Transport) : Syncer := ⟨e, some t⟩

variable {e : Engine} {h : Host} {r : Request}

theorem sync_of_not_hasWork (s : Syncer) (hw : ¬ HasWork s.engine h r) :
    (s.sync h r).asked = [] ∧ (s.sync h r).calls = [] ∧ (s.sync h r).syncer = s := by
  cases hj : job? s.engine h r with
  | error cause => simp [sync, hj]
  | ok job =>
      cases job with
      | none => simp [sync, hj]
      | some j => exact absurd (hasWork_iff.mpr ⟨j, hj⟩) hw

theorem sync_settled (e : Engine) (t : Transport) (h : Host) (r : Request) :
    ((settled e t).sync h r).asked = [] ∧ ((settled e t).sync h r).syncer = settled e t ∧
      ∀ c ∈ ((settled e t).sync h r).calls, c.1 = t := by
  cases hj : job? e h r with
  | error cause => simp [sync, settled, hj]
  | ok job =>
      cases job with
      | none => simp [sync, settled, hj]
      | some j => simp [sync, settled, hj, carryOut, choose]

theorem sync_fresh (hw : HasWork e h r) :
    (fresh e).sync h r =
      { (settled e (Transport.choose e h.probe).transport).sync h r with
        asked := (Transport.choose e h.probe).asked } := by
  obtain ⟨j, hj⟩ := hasWork_iff.mp hw
  simp [sync, fresh, settled, hj, carryOut, choose]

/-! ### A sequence of syncs -/

theorem syncAll_idle {idle : List (Host × Request)} (s : Syncer)
    (hidle : ∀ x ∈ idle, ¬ HasWork s.engine x.1 x.2) (later : List (Host × Request)) :
    s.syncAll (idle ++ later) = idle.map (fun x => s.sync x.1 x.2) ++ s.syncAll later := by
  induction idle with
  | nil => rfl
  | cons x idle ih =>
      obtain ⟨hx, hrest⟩ := List.forall_mem_cons.mp hidle
      obtain ⟨-, -, hkept⟩ := sync_of_not_hasWork s hx
      rw [List.cons_append, syncAll, hkept, ih hrest, List.map_cons, List.cons_append]

theorem syncAll_settled (e : Engine) (t : Transport) (syncs : List (Host × Request)) :
    (settled e t).syncAll syncs = syncs.map fun x => (settled e t).sync x.1 x.2 := by
  induction syncs with
  | nil => rfl
  | cons x syncs ih =>
      rw [syncAll, (sync_settled e t x.1 x.2).2.1, ih, List.map_cons]

/-- **One transport for all syncs of a syncer.** Without work no curl is asked, no transport is
called and none is chosen. The first sync with work makes the choice, by a search that stops at the
first curl that can be used, or by the wish of the engine. All the others ask nothing, and every
call of that sync and of those behind it goes to the transport that it chose, on whatever hosts they
run. -/
theorem transport_of_syncAll (e : Engine) (syncs : List (Host × Request)) :
    ((∀ x ∈ syncs, ¬ HasWork e x.1 x.2) →
      ∀ run ∈ (fresh e).syncAll syncs, run.asked = [] ∧ run.calls = [] ∧ run.syncer = fresh e) ∧
    (∀ idle h r later, syncs = idle ++ (h, r) :: later → (∀ x ∈ idle, ¬ HasWork e x.1 x.2) →
      HasWork e h r →
      ∃ choice, Transport.Chosen e h.probe choice ∧
        (fresh e).syncAll syncs =
          idle.map (fun x => (fresh e).sync x.1 x.2)
            ++ { (settled e choice.transport).sync h r with asked := choice.asked }
            :: later.map (fun x => (settled e choice.transport).sync x.1 x.2) ∧
        (∀ x ∈ idle, ((fresh e).sync x.1 x.2).asked = [] ∧ ((fresh e).sync x.1 x.2).calls = []) ∧
        ∀ h r, ((settled e choice.transport).sync h r).asked = [] ∧
          ∀ c ∈ ((settled e choice.transport).sync h r).calls, c.1 = choice.transport) ∧
    (∀ c, e.curl = some c → Transport.candidates e = [c]) ∧
    ∀ ask candidates, Transport.Searched ask candidates (Transport.findCurl? ask candidates)
      (Transport.asked ask candidates) := by
  refine ⟨fun hidle => ?_, ?_, fun c hc => ?_, Transport.searched_findCurl?⟩
  · intro run hrun
    have hall := syncAll_idle (fresh e) hidle []
    rw [List.append_nil] at hall
    rw [hall, syncAll, List.append_nil] at hrun
    obtain ⟨x, hx, rfl⟩ := List.mem_map.mp hrun
    exact sync_of_not_hasWork (fresh e) (hidle x hx)
  · rintro idle h r later rfl hidle hw
    refine ⟨_, Transport.chosen_choose e h.probe, ?_, fun x hx => ?_, fun h' r' => ?_⟩
    · obtain ⟨-, hsyncer, -⟩ := sync_settled e (Transport.choose e h.probe).transport h r
      rw [syncAll_idle (fresh e) hidle, syncAll, sync_fresh hw]
      dsimp only
      rw [hsyncer, syncAll_settled]
    · obtain ⟨hasked, hcalls, -⟩ := sync_of_not_hasWork (fresh e) (hidle x hx)
      exact ⟨hasked, hcalls⟩
    · obtain ⟨hasked, -, hcalls⟩ := sync_settled e (Transport.choose e h.probe).transport h' r'
      exact ⟨hasked, hcalls⟩
  · rw [Transport.candidates, hc]

/-- A file of the source, configured as the curl to use. -/
def ownCurl : Bytes := Text.encode "/src/b/c"

def ownEngine : Engine := { pairSyncer.engine with curl := some ownCurl }

/-- A host without programs. -/
def bareHost : Host :=
  { pairHost with programs := { pairHost.programs with program? := fun _ => none } }

/-- A host on which that file is a program that lists a WebSocket protocol. -/
def curlHost : Host :=
  { pairHost with
    programs :=
      { pairHost.programs with
        program? := fun location =>
          if location = [Text.encode "src", Text.encode "b", Text.encode "c"] then
            some ⟨some ⟨some 0, Text.encode " Protocols:  http ws\n", []⟩, fun _ => []⟩
          else pairHost.programs.program? location } }

theorem probe_of_locate {host : Host} {path : Bytes} {location : Location}
    (hpath : host.programs.launch path ["--version".toList] = host.programs.atPath path)
    (hlocate : host.programs.files.locate true host.programs.cwd path = .ok location)
    (hstands : (host.programs.files.at? location).isSome = true) :
    host.probe path =
      match host.programs.program? location with
      | some p => .ok p.version
      | none => .error .permissionDenied := by
  obtain ⟨node, hnode⟩ := Option.isSome_iff_exists.mp hstands
  rw [Host.probe, hpath, Programs.atPath, hlocate]
  dsimp only
  rw [hnode]
  dsimp only
  cases host.programs.program? location <;> rfl

theorem probe_ownCurl :
    curlHost.probe ownCurl =
      .ok (some ⟨some 0, Text.encode " Protocols:  http ws\n", []⟩) := by
  have hnames : FileNode.names ownCurl =
      [Text.encode "src", Text.encode "b", Text.encode "c"] := by decide
  have hlocate : pairFiles.locate true [] ownCurl =
      .ok [Text.encode "src", Text.encode "b", Text.encode "c"] := by
    rw [FileNode.locate, hnames]
    simp only [FileNode.walk]
    rfl
  refine (probe_of_locate ?_ hlocate ?_).trans ?_ <;> rfl

theorem probe_rsync {host : Host} (hfiles : host.programs.files = pairFiles)
    (hcwd : host.programs.cwd = []) :
    host.probe (Text.encode "/rsync") =
      match host.programs.program? [Text.encode "rsync"] with
      | some p => .ok p.version
      | none => .error .permissionDenied := by
  refine probe_of_locate rfl ?_ ?_
  · rw [hfiles, hcwd]
    exact locate_pair (.inl rfl)
  · rw [hfiles]
    rfl

theorem transport_of_syncAll_own :
    ((fresh ownEngine).syncAll [(bareHost, pairRequest 1), (curlHost, pairRequest 12),
      (pairHost, pairRequest 1)]).map (·.asked) = [[], [ownCurl], []] ∧
    ∀ run ∈ (fresh ownEngine).syncAll [(bareHost, pairRequest 1), (curlHost, pairRequest 12),
        (pairHost, pairRequest 1)],
      ∀ c ∈ run.calls, c.1 = .curl ownCurl := by
  have hidle : ∀ x ∈ [(bareHost, pairRequest 1)], ¬ HasWork ownEngine x.1 x.2 := by
    intro x hx hw
    rw [List.mem_singleton.mp hx] at hw
    have hprobe : bareHost.probe ownEngine.rsync = .error .permissionDenied :=
      probe_rsync rfl rfl
    rw [HasWork, hprobe] at hw
    cases hw.1
  have hwork : HasWork ownEngine curlHost (pairRequest 12) := by
    have hprobe : curlHost.probe ownEngine.rsync = .ok none := by
      rw [show ownEngine.rsync = Text.encode "/rsync" from rfl, probe_rsync rfl rfl]
      rfl
    refine ⟨by rw [hprobe]; rfl, _, listing_pair 12, by simp⟩
  have husable : Transport.Usable (curlHost.probe ownCurl) := by
    rw [probe_ownCurl, ← Transport.isUsable_iff]
    decide +kernel
  obtain ⟨-, hseq, hconfigured, -⟩ := transport_of_syncAll ownEngine
    [(bareHost, pairRequest 1), (curlHost, pairRequest 12), (pairHost, pairRequest 1)]
  obtain ⟨choice, hchosen, hruns, hbefore, hkept⟩ := hseq [(bareHost, pairRequest 1)] curlHost
    (pairRequest 12) [(pairHost, pairRequest 1)] rfl hidle hwork
  have hcandidates : Transport.candidates ownEngine = [ownCurl] :=
    hconfigured _ rfl
  obtain rfl : choice = ⟨.curl ownCurl, [ownCurl]⟩ := by
    generalize hcs : Transport.candidates ownEngine = cs at hcandidates
    cases hchosen with
    | bridge he => cases he
    | curl he => cases he
    | @found he c asked hs =>
        rw [hcs] at hs
        cases hs with
        | @found before after _ hbefore' hc =>
            obtain ⟨rfl, rfl, rfl⟩ : before = [] ∧ c = ownCurl ∧ after = [] := by
              simpa [List.append_eq_singleton_iff] using hcandidates
            rfl
    | fallback he hs =>
        rw [hcs] at hs
        cases hs with
        | none h => exact absurd husable (h _ (by simp [hcandidates]))
  rw [hruns]
  constructor
  · simp [(hbefore _ (List.mem_singleton.mpr rfl)).1, (hkept pairHost (pairRequest 1)).1]
  · intro run hrun
    simp only [List.map_cons, List.map_nil, List.cons_append, List.nil_append, List.mem_cons,
      List.not_mem_nil, or_false] at hrun
    rcases hrun with rfl | rfl | rfl
    · rw [(hbefore _ (List.mem_singleton.mpr rfl)).2]
      exact nofun
    · exact (hkept curlHost (pairRequest 12)).2
    · exact (hkept pairHost (pairRequest 1)).2

end Syncer

end TunnelSync
