import TunnelSync.Text.Class
import TunnelSync.Text.Utf8
import TunnelSync.Os.Error

/-!
# What can go wrong in a sync

`SyncError` has a constructor for each cause, and `SyncError.message` is its wording. A failed
parallel sync carries the error of every chunk that failed.
-/

namespace TunnelSync

/-- Why a sync, or one part of it, failed. -/
inductive SyncError
  /-- A local program could not be started. -/
  | toolMissing (tool : Text) (cause : OsError)
  /-- The source directory could not be listed. -/
  | directoryRead (path : Bytes) (cause : OsError)
  /-- The listener, the accept, the dial or the handshake failed. -/
  | connection (text : Text)
  /-- No endpoint can be made of the worker's URL. -/
  | invalidUrl (url reason : Text)
  /-- The copying program ended with this exit code, or by a signal where there is none. -/
  | process (exitCode : Option Int) (stderr : Text)
  /-- Of `total` chunks these workers failed. -/
  | aggregate (failed : List (Nat × SyncError)) (total : Nat)
  /-- The caller gave the sync up. -/
  | cancelled
  /-- The configuration cannot be used. -/
  | config (text : Text)
  /-- Another call on the operating system failed. -/
  | io (cause : OsError)
  deriving Repr

namespace SyncError

/-- A connection error with what was being done. -/
def connectionWhile (context text : Text) : SyncError := .connection (context ++ ": " ++ text)

/-- Whether the transport, and not the copying program, failed. -/
def isConnection : SyncError → Bool
  | .connection _ => true
  | _ => false

/-- How a process ended. -/
def exitLabel : Option Int → Text
  | some code => "exit code " ++ Text.ofInt code
  | none => "a signal"

/-- What a process said on stderr, without blanks around it. -/
def stderrLabel (stderr : Text) : Text :=
  let trimmed := Text.trim stderr
  if trimmed.isEmpty then "(no stderr output)" else trimmed

mutual

/-- The wording of an error. -/
def message : SyncError → Text
  | .toolMissing tool cause =>
      tool ++ " is not available on this host (install " ++ tool ++ " to sync files): "
        ++ cause.message
  | .directoryRead path cause =>
      "failed to read directory " ++ Text.decodeLossy path ++ ": " ++ cause.message
  | .connection text => "connection error: " ++ text
  | .invalidUrl url reason => "invalid worker URL '" ++ url ++ "': " ++ reason
  | .process exitCode stderr =>
      "rsync exited with " ++ exitLabel exitCode ++ ": " ++ stderrLabel stderr
  | .aggregate failed total =>
      Text.ofNat failed.length ++ " of " ++ Text.ofNat total ++ " chunks failed: "
        ++ List.intercalate "; ".toList (failureMessages failed)
  | .cancelled => "sync cancelled"
  | .config text => "invalid configuration: " ++ text
  | .io cause => "I/O error: " ++ cause.message

/-- The wording of each failed chunk. -/
def failureMessages : List (Nat × SyncError) → List Text
  | [] => []
  | (worker, error) :: rest =>
      ("chunk " ++ Text.ofNat worker ++ ": " ++ message error) :: failureMessages rest

end

/-- The error of the operating system behind an error, if there is one. -/
def cause? : SyncError → Option OsError
  | .toolMissing _ cause => some cause
  | .directoryRead _ cause => some cause
  | .io cause => some cause
  | _ => none

/-- The error that is reported for a chunk of which no result ever came. -/
def noResult : SyncError := .io (.custom "chunk task exited without a result")

end SyncError

end TunnelSync
