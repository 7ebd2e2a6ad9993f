import TunnelSync.Proofs.Url.Form
import TunnelSync.Proofs.Url.Parse

/-!
# The endpoint of a worker

Each step from the URL of a worker to that of its tunnel changes one part and keeps the URL sound,
so what a later step reads again is what the steps before it have written.

* `Sound.setScheme?` : the scheme is never refused, and user, host and port stay
* `Sound.setPath` : the path is the text that was asked for
* `exists_endpoint` : every worker of HTTP or of WebSocket has its endpoint
* `websocket_error` : any other worker has none
-/

namespace TunnelSync.Url

/-! ### One step -/

/-- The schemes of a worker that has an endpoint, each with the WebSocket scheme that goes with
it. -/
def IsWebsocketOf (scheme of : Text) : Prop :=
  (of = "http".toList ∨ of = "ws".toList) ∧ scheme = "ws".toList ∨
    (of = "https".toList ∨ of = "wss".toList) ∧ scheme = "wss".toList

theorem websocketScheme?_eq_some_iff {s scheme : Text} :
    websocketScheme? s = some scheme ↔ IsWebsocketOf scheme s := by
  unfold websocketScheme? IsWebsocketOf
  constructor
  · intro h
    split_ifs at h with hplain hsecure
    · exact .inl ⟨hplain, (Option.some.inj h).symm⟩
    · exact .inr ⟨hsecure, (Option.some.inj h).symm⟩
  · rintro (⟨rfl | rfl, rfl⟩ | ⟨rfl | rfl, rfl⟩) <;> decide

theorem IsWebsocketOf.spec {s scheme : Text} (h : IsWebsocketOf scheme s) :
    kindOf s = .web ∧ kindOf scheme = .web ∧ defaultPort? scheme = defaultPort? s ∧
      givenScheme? scheme = some (scheme, []) := by
  rcases h with ⟨rfl | rfl, rfl⟩ | ⟨rfl | rfl, rfl⟩ <;> decide

theorem Authority.Sound.withScheme {a : Authority} {s scheme : Text} (h : a.Sound s)
    (hport : defaultPort? scheme = defaultPort? s) :
    a.withScheme scheme = a ∧ a.Sound scheme := by
  constructor
  · unfold Authority.withScheme
    split
    next heq =>
      cases hp : a.port with
      | none => rw [← hp]
      | some p =>
          rw [hp, hport] at heq
          exact absurd heq.symm (h.port p hp)
    next => rfl
  · exact { h with port := fun p hp => hport ▸ h.port p hp }

/-- A URL of HTTP or of WebSocket takes the WebSocket scheme, and nothing else of it changes. -/
theorem Sound.setScheme? {u : Url} {scheme : Text} (h : Sound u)
    (hscheme : IsWebsocketOf scheme u.scheme) :
    u.setScheme? scheme = some { u with scheme := scheme } ∧
      Sound { u with scheme := scheme } := by
  obtain ⟨hkind, hkind', hport, hread⟩ := hscheme.spec
  obtain ⟨a, ha, hsound⟩ := h.authority
  obtain ⟨hsame, hsound'⟩ := hsound.withScheme hport
  have hhost : u.host?.isNone = false := by
    rw [host?, ha, Option.bind_some]
    simpa using hsound.host
  constructor
  · unfold Url.setScheme?
    rw [hread]
    simp [hkind, hkind', hhost, ha, hsame]
  · exact
      { kind := hkind'
        authority := ⟨a, ha, hsound'⟩
        path := h.path }

/-- The path of the tunnel is the text that was asked for, and nothing else of the URL changes. -/
theorem Sound.setPath {u : Url} (h : Sound u) :
    ∃ path, u.setPath (tunnelPath u.path.toText) = { u with path := path } ∧
      path.toText = tunnelPath u.path.toText ∧ Sound { u with path := path } := by
  obtain ⟨segments, hpath, hsettled⟩ := h.path
  obtain ⟨segments', hset, hsettled', htext⟩ := setPath_tunnelPath h.kind hpath hsettled
  refine ⟨.rooted segments', ?_, htext, ?_⟩
  · rw [← hset]
    unfold Url.setPath
    rw [hpath]
  · exact
      { kind := h.kind
        authority := h.authority
        path := ⟨segments', rfl, hsettled'⟩ }

/-! ### All of them -/

/-- The pairs in the query of a text that holds a URL of the web. -/
def queryPairs (t : Text) : List (Text × Text) :=
  Form.pairs ((readTail .web (tailPart t)).1.getD [])

/-- What the endpoint of a worker for a token is made of: the WebSocket scheme, the user, host and
port of the worker, its path with `ssh` behind it, and the token as the only thing asked for, in the
URL and in its text. -/
structure Endpoint (worker : Url) (token : Text) (u : Url) : Prop where
  scheme : IsWebsocketOf u.scheme worker.scheme
  authority : u.authority = worker.authority
  path : u.path.toText = Text.dropTrailing '/' worker.path.toText ++ "/ssh"
  fragment : u.fragment = none
  query : ∃ q, u.query = some q ∧ Form.pairs q = [(tokenKey, token)]
  text : queryPairs u.toText = [(tokenKey, token)]

theorem written_of_mem_encodePair {pair : Text × Text} {c : Char} (hc : c ∈ Form.encodePair pair) :
    c.toNat < 0x80 ∧ inQuery .web c = false := by
  have hwritten {t : Text} (h : c ∈ Form.encode t) : c.toNat < 0x80 ∧ inQuery .web c = false := by
    have := Form.isWritten_of_mem_encode h
    simp only [Form.isWritten, Bool.and_eq_true, Bool.not_eq_true', decide_eq_true_eq] at this
    exact this.1.1
  rcases List.mem_append.mp hc with hc | hc
  · exact hwritten hc
  · rcases List.mem_cons.mp hc with rfl | hc
    · decide
    · exact hwritten hc

/-- The URL of a worker with another scheme and path, and with nothing but the token behind it. -/
def endpointOf (worker : Url) (scheme : Text) (path : Path) (token : Text) : Url :=
  { worker with scheme := scheme, path := path, fragment := none, query := none }.addPair
    (tokenKey, token)

/-- A worker with a scheme of HTTP or of WebSocket has an endpoint for every token. -/
theorem exists_endpoint {workerUrl scheme : Text} {worker : Url} (token : Text)
    (hparse : parse workerUrl = .ok worker) (hscheme : IsWebsocketOf scheme worker.scheme) :
    ∃ u, websocket workerUrl token = .ok u ∧ Endpoint worker token u := by
  -- each change meets a sound URL, which the change before it has left
  have hworker := sound_of_parse hparse hscheme.spec.1
  obtain ⟨hset, hsound⟩ := hworker.setScheme? hscheme
  obtain ⟨path, hsetPath, htext, hsoundPath⟩ := hsound.setPath
  have hsoundEnd : Sound (endpointOf worker scheme path token) :=
    { kind := hsoundPath.kind
      authority := hsoundPath.authority
      path := hsoundPath.path }
  refine ⟨endpointOf worker scheme path token, ?_, ?_⟩
  · unfold websocket
    rw [hparse]
    dsimp only
    rw [websocketScheme?_eq_some_iff.mpr hscheme]
    dsimp only
    rw [hset]
    dsimp only
    rw [hsetPath]
    rfl
  · exact
      { scheme := hscheme
        authority := rfl
        path := htext
        fragment := rfl
        query := pairs_addPair _ _
        text := by
          have hwritten : ∀ c ∈ Form.encodePair (tokenKey, token),
              c.toNat < 0x80 ∧ inQuery .web c = false := fun c hc => written_of_mem_encodePair hc
          rw [queryPairs, readTail_toText hsoundEnd rfl rfl hwritten]
          exact Form.pairs_encodePair _ }

/-- Any other worker is refused with its URL. -/
theorem websocket_error {workerUrl : Text} (token : Text)
    (h : ¬ ∃ worker scheme, parse workerUrl = .ok worker ∧ IsWebsocketOf scheme worker.scheme) :
    ∃ reason, websocket workerUrl token = .error (.invalidUrl workerUrl reason) := by
  unfold websocket
  cases hparse : parse workerUrl with
  | error e => exact ⟨_, rfl⟩
  | ok worker =>
      have hnone : websocketScheme? worker.scheme = none := by
        cases hscheme : websocketScheme? worker.scheme with
        | none => rfl
        | some scheme =>
            exact absurd ⟨worker, scheme, hparse, websocketScheme?_eq_some_iff.mp hscheme⟩ h
      dsimp only
      rw [hnone]
      exact ⟨_, rfl⟩

end TunnelSync.Url
