import TunnelSync.Error
import TunnelSync.Url.Parse
import TunnelSync.Url.Percent

/-!
# The endpoint of a worker

`Url.websocket` turns the URL of a worker into that of its tunnel: a WebSocket scheme, `ssh` behind
the path, and the token as the only thing asked for. `Url.redact` shows a URL without its token.

A part of a URL that is changed is read as it would be in a whole URL. So a change may be refused,
and what the URL holds then need not be the text that was asked for.

* `Url.setScheme?` : another scheme, of the same kind
* `Url.setPath` : another path
* `Url.addPair` : one more pair in the query
-/

namespace TunnelSync.Url

/-! ### Changing the parts of a URL -/

/-- The host of a URL. -/
def host? (u : Url) : Option Host := u.authority.bind (·.host)

/-- The authority under another scheme, whose own port need not be written. -/
def Authority.withScheme (scheme : Text) (a : Authority) : Authority :=
  { a with port := if a.port = defaultPort? scheme then none else a.port }

/-- A text without tabs and line ends, which are passed over in every part. -/
def unbroken (t : Text) : Text := t.filter fun c => c != '\t' && c != '\n' && c != '\r'

/-- The scheme that a text gives, with or without its colon, and what follows. -/
def givenScheme? (t : Text) : Option (Text × Text) :=
  (scheme? (unbroken t)).or (scheme? (unbroken t ++ [':']))

/-- The URL with another scheme. It is refused if it is not a scheme, or if URLs of the one are not
read as those of the other: special schemes cannot be mixed with others, a file has no authority
here, and a special scheme needs a host. -/
def setScheme? (u : Url) (t : Text) : Option Url :=
  match givenScheme? t with
  | some (scheme, []) =>
      let kind := kindOf scheme
      if (kind != .other) != (kindOf u.scheme != .other) then none
      else if kind == .file && u.authority.isSome then none
      else if kind != .other && u.host?.isNone then none
      else some { u with scheme := scheme, authority := u.authority.map (·.withScheme scheme) }
  | _ => none

/-- The URL with another path. A question mark or a number sign in it does not end it; outside the
special schemes there is no path if it begins with one. -/
def setPath (u : Url) (t : Text) : Url :=
  let kind := kindOf u.scheme
  match u.path with
  | .rooted _ =>
      let isMissing := kind == .other && (unbroken t).head?.any endsPath
      { u with path := readPath kind (if isMissing then [] else unbroken t) }
  | .plain _ =>
      let t := match unbroken t with
        | '/' :: rest => "%2F".toList ++ rest
        | t => t
      { u with path := .plain (percentEncode Host.isControl t) }

/-- The URL with one more pair at the end of its query. -/
def addPair (u : Url) (pair : Text × Text) : Url :=
  let before := match u.query with
    | some (c :: q) => c :: q ++ ['&']
    | _ => []
  { u with query := some (before ++ Form.encodePair pair) }

/-! ### The endpoint -/

/-- The WebSocket scheme that goes with a scheme. -/
def websocketScheme? (scheme : Text) : Option Text :=
  if scheme = "http".toList ∨ scheme = "ws".toList then some "ws"
  else if scheme = "https".toList ∨ scheme = "wss".toList then some "wss"
  else none

/-- A path without slashes at its end, and `ssh` behind it. -/
def tunnelPath (path : Text) : Text := Text.dropTrailing '/' path ++ "/ssh"

/-- The key of the token in a query. -/
def tokenKey : Text := "token"

/-- The endpoint of a worker for a token. -/
def websocket (workerUrl token : Text) : Except SyncError Url :=
  match parse workerUrl with
  | .error e => .error (.invalidUrl workerUrl e.message)
  | .ok u =>
      match websocketScheme? u.scheme with
      | none => .error (.invalidUrl workerUrl ("unsupported scheme '" ++ u.scheme ++ "'"))
      | some scheme =>
          match u.setScheme? scheme with
          | none => .error (.invalidUrl workerUrl ("cannot switch scheme to " ++ scheme))
          | some u =>
              let u := u.setPath (tunnelPath u.path.toText)
              .ok ({ u with fragment := none, query := none }.addPair (tokenKey, token))

/-- A pair of a query as it may be shown. -/
def redactPair (pair : Text × Text) : Text × Text :=
  if pair.1 = tokenKey then (pair.1, "***") else pair

/-- The URL as it may be shown: with the value of every token hidden, and its query in form
coding. -/
def redact (u : Url) : Url :=
  { u with query := u.query.map fun q => Form.encodePairs ((Form.pairs q).map redactPair) }

end TunnelSync.Url
