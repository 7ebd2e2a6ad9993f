import TunnelSync.Error
import TunnelSync.Os.Program
import TunnelSync.Stats
import TunnelSync.Text.Utf8

/-!
# How a copy ended

`Rsync.classify` decides whether a finished run counts as a success. ssh reports a host key that it
records for the first time on stderr; a run that failed with no other complaint, and moved files,
still counts. A copying program that starts at all is there, whatever it answers; one that cannot be
started is missing.
-/

namespace TunnelSync.Rsync

/-- A finished run. There is no exit code if a signal ended the process. -/
structure Output where
  exitCode : Option Int
  stdout : Text
  stderr : Text
  deriving DecidableEq, Repr

/-- Whether the process exited with code 0. -/
def Output.success (o : Output) : Bool := o.exitCode == some 0

/-- A finished process, its output read as text. -/
def Output.ofExit (x : Exit) : Output :=
  ⟨x.code, Text.decodeLossy x.stdout, Text.decodeLossy x.stderr⟩

/-- How ssh's notice on a new host key begins. -/
def hostKeyNotice : Text := "Warning: Permanently added"

/-- The lines that are not blank, without the blanks around them. -/
def complaints (stderr : Text) : List Text :=
  ((Text.lines stderr).map Text.trim).filter (!·.isEmpty)

/-- Whether there are complaints and all of them are notices on host keys. -/
def isBenign (stderr : Text) : Bool :=
  !(complaints stderr).isEmpty && (complaints stderr).all (Text.startsWith hostKeyNotice)

/-- The statistics of a run that counts as a success, or the error of one that does not. -/
def classify (o : Output) : Except SyncError TransferStats :=
  let stats := TransferStats.parse o.stdout
  if o.success then .ok stats
  else if 0 < stats.files && isBenign o.stderr then .ok stats
  else .error (.process o.exitCode o.stderr)

/-! ### Programs that do not start -/

/-- The check before a sync. -/
def ensureAvailable (program : Bytes) : Probe → Except SyncError Unit
  | .ok _ => .ok ()
  | .error cause => .error (.toolMissing (Text.decodeLossy program) cause)

/-- The error of a copy that did not start. Only a program that does not exist is reported as
missing here. -/
def startError (program : Bytes) (cause : OsError) : SyncError :=
  if cause = .notFound then .toolMissing (Text.decodeLossy program) cause else .io cause

end TunnelSync.Rsync
