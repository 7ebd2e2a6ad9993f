import TunnelSync.Config.Settings
import TunnelSync.Os.Program
import TunnelSync.Text.Class
import TunnelSync.Text.Utf8

/-!
# The choice of the transport

`Transport` is the way on which ssh reaches the worker. An engine may be told which one to take;
otherwise `Transport.choose` takes curl if there is one that speaks WebSocket, and the bridge if
not. Such a curl names `ws` or `wss` among the protocols that it lists with its version.
-/

namespace TunnelSync

/-- A way to the worker. -/
inductive Transport
  /-- ssh runs this curl as its proxy command. -/
  | curl (program : Bytes)
  /-- ssh connects to a local port. -/
  | bridge
  /-- A transport of the caller's own. -/
  | custom (name : Text)
  deriving DecidableEq, Repr

namespace Transport

/-- The short name of a transport. -/
def name : Transport → Text
  | .curl _ => "curl"
  | .bridge => "bridge"
  | .custom name => name

/-! ### A curl that speaks WebSocket -/

/-- What stands before the protocols. -/
def protocolsLabel : Text := "Protocols:"

/-- The protocols that a version text lists. -/
def protocols (version : Text) : List Text :=
  ((Text.lines version).filterMap fun line => Text.after? protocolsLabel (Text.trim line)).flatMap
    Text.words

/-- Whether a version text lists a WebSocket protocol. -/
def supportsWebSocket (version : Text) : Bool :=
  (protocols version).any fun p => p == "ws".toList || p == "wss".toList

/-- Whether the answer is that of a curl that speaks WebSocket. -/
def isUsable : Probe → Bool
  | .ok (some x) => x.code == some 0 && supportsWebSocket (Text.decodeLossy x.stdout)
  | _ => false

/-- The first usable curl. -/
def findCurl? (ask : Bytes → Probe) (candidates : List Bytes) : Option Bytes :=
  candidates.find? fun c => isUsable (ask c)

/-- The candidates that are asked: none behind the first usable one. -/
def asked (ask : Bytes → Probe) : List Bytes → List Bytes
  | [] => []
  | c :: rest => if isUsable (ask c) then [c] else c :: asked ask rest

/-- Where curl is looked for. -/
def curlCandidates : List Text := ["curl"]

/-- The curls that an engine may use. -/
def candidates (e : Engine) : List Bytes :=
  match e.curl with
  | some c => [c]
  | none => curlCandidates.map Text.encode

/-! ### The transport of an engine -/

/-- A transport, and the curls that were asked to find it. -/
structure Choice where
  transport : Transport
  asked : List Bytes
  deriving DecidableEq, Repr

/-- The transport of an engine. A wish is followed without asking. -/
def choose (e : Engine) (ask : Bytes → Probe) : Choice :=
  match e.transport with
  | .bridge => ⟨.bridge, []⟩
  | .curl => ⟨.curl (e.curl.getD (Text.encode "curl")), []⟩
  | .auto =>
      match findCurl? ask (candidates e) with
      | some c => ⟨.curl c, asked ask (candidates e)⟩
      | none => ⟨.bridge, asked ask (candidates e)⟩

end Transport

end TunnelSync
