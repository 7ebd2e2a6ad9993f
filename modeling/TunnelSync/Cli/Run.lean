import TunnelSync.Cli.Args
import TunnelSync.Cli.Help
import TunnelSync.Config.File
import TunnelSync.Sync.Run

/-!
# A run of the program

`Cli.run` reads the command line and the configuration file, puts the first above the second, and
syncs once.
-/

namespace TunnelSync.Cli

/-- How the program ended. -/
structure Outcome where
  exitCode : Nat
  stdout : Text
  /-- What stderr ends in. -/
  stderr : Text
  deriving DecidableEq, Repr

/-! ### The configuration file -/

/-- The directory for configuration files: the one that the environment names by an absolute path,
or else the usual one in the home directory. -/
def configDir? (env : Text → Option Text) : Option Bytes :=
  match (env "XDG_CONFIG_HOME").map Text.encode with
  | some dir => if FileNode.isAbsolute dir then some dir else home?
  | none => home?
where
  home? : Option Bytes :=
    ((env "HOME").filter (!·.isEmpty)).map fun home =>
      FileNode.join (Text.encode home) (Text.encode ".config")

/-- The configuration file of a command line. -/
def configPath? (env : Text → Option Text) (a : Arguments) : Option Bytes :=
  match a.config with
  | some path => some (Text.encode path)
  | none => (configDir? env).map fun dir =>
      FileNode.join (FileNode.join dir (Text.encode programName)) (Text.encode "config.toml")

/-- The configuration of a command line. -/
def loadConfig (env : Text → Option Text) (h : Host) (a : Arguments) :
    Except SyncError FileConfig :=
  match configPath? env a with
  | some path => FileConfig.load h.programs.files h.programs.cwd path
  | none => .ok FileConfig.empty

/-! ### The sync -/

/-- What a command line asks for. -/
structure Job where
  syncer : Syncer
  request : Request
  deriving DecidableEq, Repr

/-- The job of a command line over a configuration. -/
def Job.of (c : FileConfig) (a : Arguments) : Job :=
  { syncer :=
      { engine := { c.engine with transport := a.transport.getD c.engine.transport }
        transport := none }
    request :=
      { workerUrl := a.workerUrl
        token := a.token
        localPath := Text.encode a.localPath
        remotePath := a.remotePath
        options := c.applyTo a.options } }

/-- The wording of an error, and of the system's error behind it. -/
def chain (e : SyncError) : Text :=
  match e.cause? with
  | some cause => e.message ++ ": " ++ OsError.message cause
  | none => e.message

/-- The end of a program that fails. -/
def failure (printed message : Text) : Outcome := ⟨1, printed, "Error: " ++ message ++ ['\n']⟩

/-- The outcome of a sync. The last exit code is that of a program that dies. -/
def Outcome.ofRun (r : Request) (run : SyncRun) : Outcome :=
  match run.result with
  | some (.ok _) => ⟨0, run.printed, []⟩
  | some (.error e) =>
      failure run.printed
        ("sync of " ++ Text.decodeLossy r.localPath ++ " failed: " ++ chain e)
  | none => ⟨101, run.printed, []⟩

/-- The outcome of a command line that asks for no sync. -/
def Outcome.ofStop (env : Text → Option Text) : Stop → Outcome
  | .help long => ⟨0, Help.text env long, []⟩
  | .version => ⟨0, programName ++ ' ' :: programVersion ++ ['\n'], []⟩
  | .usage e => ⟨2, [], "error: " ++ e.message ++ "\n\n" ++ Help.usage ++ ['\n']⟩

/-- The job that the arguments ask for, or the outcome if there is none. -/
def job? (env : Text → Option Text) (h : Host) (args : List Text) : Except Outcome Job :=
  match parse env args with
  | .error stop => .error (.ofStop env stop)
  | .ok a =>
      match loadConfig env h a with
      | .error e => .error (failure [] (chain e))
      | .ok c => .ok (.of c a)

/-- A run of the program. -/
def run (env : Text → Option Text) (h : Host) (args : List Text) : Outcome :=
  match job? env h args with
  | .error outcome => outcome
  | .ok j => .ofRun j.request (j.syncer.sync h j.request)

end TunnelSync.Cli
