import TunnelSync.Bridge.Step
import TunnelSync.Rsync.Args
import TunnelSync.Rsync.Outcome
import TunnelSync.Sync.Host
import TunnelSync.Text.Utf8
import TunnelSync.Transport.Choice
import TunnelSync.Url.Worker

/-!
# A call of a transport

How a transport carries out one copy: the endpoint of the worker is made first, then the arguments
of rsync, then rsync is started and seen to its end. To reach its destination rsync runs a remote
shell. With curl, ssh reads and writes through a proxy command that speaks to the worker; with the
bridge, ssh connects to a local port.
-/

namespace TunnelSync.Transport

/-! ### Remote shells -/

/-- The user of a destination that only the proxy command reaches. -/
def sandboxUser : Text := "user"

/-- The host of a destination that only the proxy command reaches. -/
def sandboxHost : Text := "e2b-sandbox"

/-- The host of the bridge. -/
def loopback : Text := "127.0.0.1"

/-- The command that connects standard input and output with the worker. -/
def proxyCommand (curl : Bytes) (url : Url) : Text :=
  Text.decodeLossy curl ++ " --no-progress-meter -N --http1.1 -T . '" ++ url.toText ++ "'"

/-- The shell for curl. ssh expands percent signs in a proxy command, so each is doubled. -/
def curlShell (curl : Bytes) (url : Url) : Text :=
  "ssh -o StrictHostKeyChecking=no -o UserKnownHostsFile=/dev/null -o \"ProxyCommand="
    ++ Rsync.doublePercent (proxyCommand curl url) ++ "\""

/-- The shell for the bridge on a local port. -/
def bridgeShell (port : Nat) : Text :=
  "ssh -p " ++ Text.ofNat port ++ " -o PreferredAuthentications=none -o PubkeyAuthentication=no"
    ++ " -o StrictHostKeyChecking=no -o UserKnownHostsFile=/dev/null"

/-! ### Calls -/

/-- The run of rsync for a call, towards a destination that a shell connects to. -/
def commandTo (r : Request) (c : Call) (shell destination : Text) : Rsync.Command :=
  { options := r.options
    filter := Filter.withBuiltin r.options.exclude
    selection := c.selection
    localPath := r.localPath
    remoteShell := shell
    destination := destination }

/-- The run of rsync for curl. -/
def curlCommand (curl : Bytes) (r : Request) (url : Url) (c : Call) : Rsync.Command :=
  commandTo r c (curlShell curl url) (Rsync.remoteDestination sandboxUser sandboxHost r.remotePath)

/-- The run of rsync for the bridge. The worker takes the name of the user for the token. -/
def bridgeCommand (port : Nat) (r : Request) (c : Call) : Rsync.Command :=
  commandTo r c (bridgeShell port) (Rsync.remoteDestination r.token loopback r.remotePath)

/-- The port of the bridge of a worker. -/
def listen (h : Host) (worker : Nat) : Except SyncError Nat :=
  match h.listen worker with
  | .ok port => .ok port
  | .error cause =>
      .error (.connectionWhile "cannot open local bridge listener" (OsError.message cause))

/-- The run of rsync for a call on a transport; a transport of the caller's own needs none. -/
def command? (t : Transport) (h : Host) (r : Request) (c : Call) :
    Except SyncError (Option Rsync.Command) :=
  match t with
  | .curl program => do
      return some (curlCommand program r (← Url.websocket r.workerUrl r.token) c)
  | .bridge => do
      let _ ← Url.websocket r.workerUrl r.token
      return some (bridgeCommand (← listen h c.worker) r c)
  | .custom _ => return none

/-- The runs of rsync that a transport makes for a call. -/
inductive Makes (h : Host) (r : Request) (c : Call) : Transport → Rsync.Command → Prop
  | curl (program : Bytes) {u : Url} (hurl : Url.websocket r.workerUrl r.token = .ok u) :
      Makes h r c (.curl program) (curlCommand program r u c)
  | bridge {u : Url} (hurl : Url.websocket r.workerUrl r.token = .ok u) {port : Nat}
      (hport : listen h c.worker = .ok port) : Makes h r c .bridge (bridgeCommand port r c)

/-- A result that comes from two steps comes from a result of the first. -/
theorem exists_ok_of_bind {α β : Type} {x : Except SyncError α} {f : α → Except SyncError β}
    {b : β} (h : x >>= f = .ok b) : ∃ a, x = .ok a ∧ f a = .ok b := by
  cases x with
  | error e => cases h
  | ok a => exact ⟨a, rfl, h⟩

theorem makes_of_command? {t : Transport} {h : Host} {r : Request} {c : Call}
    {command : Rsync.Command} (hcommand : t.command? h r c = .ok (some command)) :
    Makes h r c t command := by
  cases t with
  | curl program =>
      obtain ⟨u, hurl, hmade⟩ := exists_ok_of_bind hcommand
      cases hmade
      exact .curl program hurl
  | bridge =>
      obtain ⟨u, hurl, hrest⟩ := exists_ok_of_bind hcommand
      obtain ⟨port, hport, hmade⟩ := exists_ok_of_bind hrest
      cases hmade
      exact .bridge hurl hport
  | custom name => cases hcommand

/-- How a transport ends a call. -/
def run (t : Transport) (h : Host) (e : Engine) (r : Request) (c : Call) : Ending Rsync.Output :=
  match t.command? h r c with
  | .error failure => some (.error failure)
  | .ok none => h.custom t.name c
  | .ok (some command) =>
      match h.start e.rsync command.args with
      | .error cause => some (.error (Rsync.startError e.rsync cause))
      | .ok events =>
          match t with
          | .bridge => Bridge.run e.timeouts events
          | _ => Copy.awaitExit events

end TunnelSync.Transport
