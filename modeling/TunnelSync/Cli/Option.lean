import TunnelSync.Config.Settings

/-!
# The options of the program

`Cli.table` lists every option with its spelling and its description. The parser of the command line
and the help text both read it.
-/

namespace TunnelSync.Cli

/-- The name of the program. -/
def programName : Text := "sandsync"

/-- The version of the program. -/
def programVersion : Text := "0.2.0"

/-- What the program is for. -/
def programSummary : Text :=
  "Parallel rsync into network-isolated sandboxes over a WebSocket tunnel"

/-- An option of the program. -/
inductive Key
  | workerUrl
  | token
  | delete
  | dryRun
  | verbose
  | exclude
  | parallel
  | transport
  | config
  | help
  | version
  deriving DecidableEq, Repr

/-- Whether an option is there or not, or has a value. -/
inductive Kind
  /-- A switch, and its one-letter spelling. -/
  | switch (letter : Option Char)
  /-- An option with a value, which the help text calls by this name. -/
  | valued (placeholder : Text)
  deriving DecidableEq, Repr

/-- A variable of the environment that stands in for an option. -/
structure Variable where
  name : Text
  /-- Its value is not to be shown. -/
  secret : Bool
  deriving DecidableEq, Repr

/-- An option as it is spelled and described. -/
structure Spec where
  key : Key
  kind : Kind
  long : Text
  description : Text
  /-- The option may be given more than once. -/
  repeatable : Bool := false
  standIn : Option Variable := none
  /-- The value of an option that is not given, as the help text shows it. -/
  preset : Option Text := none
  /-- The values that are allowed, each with its meaning; none if any value is. -/
  choices : List (Text × Text) := []
  deriving DecidableEq, Repr

/-- The transports and their meanings. -/
def transportChoices : List (Text × Text) :=
  [("auto", "Probe curl for WebSocket support, fall back to the built-in bridge"),
    ("curl", "Always use curl as the SSH ProxyCommand"),
    ("bridge", "Always use the built-in TCP-to-WebSocket bridge")]

/-- The options, in the order of the help text. -/
def table : List Spec :=
  [{ key := .workerUrl, kind := .valued "WORKER_URL", long := "worker-url"
     description := "Base URL of the sandbox worker"
     standIn := some ⟨"SANDSYNC_WORKER_URL", false⟩ },
   { key := .token, kind := .valued "TOKEN", long := "token"
     description := "Access token for the worker"
     standIn := some ⟨"SANDSYNC_TOKEN", true⟩ },
   { key := .delete, kind := .switch none, long := "delete"
     description := "Delete remote files that don't exist locally" },
   { key := .dryRun, kind := .switch (some 'n'), long := "dry-run"
     description := "Show what would be transferred without changing anything" },
   { key := .verbose, kind := .switch (some 'v'), long := "verbose"
     description := "Verbose output (rsync file list, debug logs)" },
   { key := .exclude, kind := .valued "PATTERN", long := "exclude"
     description := "Additional exclude pattern (repeatable)"
     repeatable := true },
   { key := .parallel, kind := .valued "N", long := "parallel"
     description := "Number of parallel rsync invocations (0 = auto)"
     preset := some "0".toList },
   { key := .transport, kind := .valued "TRANSPORT", long := "transport"
     description := "Transport to the worker"
     choices := transportChoices },
   { key := .config, kind := .valued "FILE", long := "config"
     description := "Config file (default: <config dir>/sandsync/config.toml)" },
   { key := .help, kind := .switch (some 'h'), long := "help"
     description := "Print help" },
   { key := .version, kind := .switch (some 'V'), long := "version"
     description := "Print version" }]

/-- The option of a long spelling. -/
def longSpec? (name : Text) : Option Spec := table.find? (·.long = name)

/-- The switch of a letter. -/
def letterSpec? (letter : Char) : Option Spec := table.find? (·.kind = .switch (some letter))

/-- The variable that stands in for an option. -/
def standIn? (key : Key) : Option Variable := (table.find? (·.key = key)).bind (·.standIn)

/-- The two operands, in order, with their descriptions. -/
def operands : List (Text × Text) :=
  [("LOCAL", "Local directory to sync"), ("REMOTE", "Destination path inside the sandbox")]

/-- The help text explains every transport. -/
example : transportChoices.map (·.1) = TransportPreference.all.map (·.name) := by decide

end TunnelSync.Cli
