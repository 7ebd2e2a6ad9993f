import TunnelSync.Config.Settings
import TunnelSync.Decimal.Digits
import TunnelSync.Error
import TunnelSync.Os.Tree
import TunnelSync.Text.Quoted
import TunnelSync.Text.Utf8
import TunnelSync.Toml.Document

/-!
# The configuration file

A TOML document of up to seven fields, all optional. `FileConfig.parse` reads one: the document has
to be well formed as a whole, and then the first field that is unknown or has a value of the wrong
kind decides. `FileConfig.engine` and `FileConfig.applyTo` put it under what the caller asks for.

`FileConfig.load` : a file that does not exist is the same as an empty one; one that cannot be read,
or is not a configuration file, is an error that names its path.
-/

namespace TunnelSync

/-- What a configuration file sets. -/
structure FileConfig where
  exclude : List Text
  parallel : Option Nat
  transport : Option TransportPreference
  curl : Option Text
  rsync : Option Text
  /-- In seconds. -/
  acceptTimeout : Option Nat
  /-- In seconds. -/
  handshakeTimeout : Option Nat
  deriving DecidableEq, Repr

/-- Why a text is not a configuration file. -/
inductive ConfigError
  /-- It is not a TOML document, or the transport is neither a name nor a table of one name. -/
  | malformed
  | unknownField (name : Text)
  | unknownTransport (name : Text)
  /-- A value of one kind where another is expected. -/
  | invalidType (found expected : Text)
  /-- A number out of range. -/
  | invalidValue (n : Int) (expected : Text)
  deriving DecidableEq, Repr

namespace FileConfig

/-- The configuration of an empty file. -/
def empty : FileConfig := ⟨[], none, none, none, none, none, none⟩

/-- The fields of a configuration file. -/
def fieldNames : List Text :=
  ["exclude", "parallel", "transport", "curl", "rsync", "accept_timeout_secs",
    "handshake_timeout_secs"]

end FileConfig

namespace ConfigError

/-- Names in back quotes with commas between them. -/
def nameList (names : List Text) : Text :=
  List.intercalate ", ".toList (names.map fun n => '\x60' :: n ++ ['\x60'])

/-- The wording of the error. -/
def message : ConfigError → Text
  | .malformed => "TOML parse error"
  | .unknownField name =>
      "unknown field " ++ nameList [name] ++ ", expected one of " ++ nameList FileConfig.fieldNames
  | .unknownTransport name =>
      "unknown variant " ++ nameList [name] ++ ", expected one of "
        ++ nameList (TransportPreference.all.map (·.name))
  | .invalidType found expected => "invalid type: " ++ found ++ ", expected " ++ expected
  | .invalidValue n expected =>
      "invalid value: integer " ++ nameList [Text.ofInt n] ++ ", expected " ++ expected

end ConfigError

namespace FileConfig

/-- A floating-point number as messages show it. -/
def realText : Toml.Real → Text
  | .finite negative magnitude =>
      let (units, exponent) := Decimal.shortest magnitude
      (if negative then ['-'] else []) ++ Decimal.positional units exponent
  | .infinite negative => if negative then "-inf" else "inf"
  | .notANumber => "NaN"

/-- A value as messages show it. -/
def describe : Toml.Value → Text
  | .string t => "string " ++ Text.quoted t
  | .integer n => "integer " ++ ConfigError.nameList [Text.ofInt n]
  | .real r => "floating point " ++ ConfigError.nameList [realText r]
  | .boolean b => "boolean " ++ ConfigError.nameList [if b then "true" else "false"]
  | .moment => "map"
  | .array _ => "sequence"
  | .table _ _ => "map"
  | .tables _ => "sequence"

/-- The error for a value of the wrong kind. -/
def wrongType {α : Type} (v : Toml.Value) (expected : Text) : Except ConfigError α :=
  .error (.invalidType (describe v) expected)

/-- A text. -/
def readText (expected : Text) : Toml.Value → Except ConfigError Text
  | .string t => .ok t
  | v => wrongType v expected

/-- A number that is not negative. -/
def readNat (expected : Text) : Toml.Value → Except ConfigError Nat
  | .integer n => if n < 0 then .error (.invalidValue n expected) else .ok n.toNat
  | v => wrongType v expected

/-- A list of texts. -/
def readTexts : Toml.Value → Except ConfigError (List Text)
  | .array items => items.mapM (readText "a string")
  | .tables elements => elements.mapM fun es => wrongType (.table .header es) "a string"
  | v => wrongType v "a sequence"

/-- A transport by name. -/
def transportOf (name : Text) : Except ConfigError TransportPreference :=
  match TransportPreference.ofName? name with
  | some t => .ok t
  | none => .error (.unknownTransport name)

/-- Whether nothing is in a value that may stand behind the name of a transport. -/
def isVacant : Toml.Value → Bool
  | .array items => items.isEmpty
  | .table _ entries => entries.isEmpty
  | .tables elements => elements.isEmpty
  | _ => false

/-- A transport, by name or as a table with that name and nothing in it. -/
def readTransport : Toml.Value → Except ConfigError TransportPreference
  | .string name => transportOf name
  | .table _ [(name, v)] => do
      let t ← transportOf name
      if isVacant v then return t else throw .malformed
  | _ => .error .malformed

/-- The configuration with one more field. -/
def setField (c : FileConfig) (name : Text) (v : Toml.Value) : Except ConfigError FileConfig :=
  match String.ofList name with
  | "exclude" => return { c with exclude := ← readTexts v }
  | "parallel" => return { c with parallel := some (← readNat "usize" v) }
  | "transport" => return { c with transport := some (← readTransport v) }
  | "curl" => return { c with curl := some (← readText "path string" v) }
  | "rsync" => return { c with rsync := some (← readText "path string" v) }
  | "accept_timeout_secs" => return { c with acceptTimeout := some (← readNat "u64" v) }
  | "handshake_timeout_secs" => return { c with handshakeTimeout := some (← readNat "u64" v) }
  | _ => throw (.unknownField name)

/-- Reads a configuration file. -/
def parse (content : Text) : Except ConfigError FileConfig :=
  match Toml.parse? content with
  | none => .error .malformed
  | some entries => entries.foldlM (fun c (name, v) => c.setField name v) empty

/-- The settings of the engine: those of the file over the standard ones. -/
def engine (c : FileConfig) : Engine :=
  let standard := Engine.standard
  { rsync := (c.rsync.map Text.encode).getD standard.rsync
    transport := c.transport.getD standard.transport
    curl := c.curl.map Text.encode
    timeouts := { standard.timeouts with
      accept := (c.acceptTimeout.map (· * 1000)).getD standard.timeouts.accept
      handshake := (c.handshakeTimeout.map (· * 1000)).getD standard.timeouts.handshake } }

/-- The options of a caller over those of the file: exclusions add up, and the caller's degree
counts unless it is 0. -/
def applyTo (c : FileConfig) (o : Options) : Options :=
  { o with
    exclude := o.exclude ++ c.exclude
    parallelism := if o.parallelism = 0 then c.parallel.getD 0 else o.parallelism }

/-! ### Loading a file -/

/-- The error for contents that are not text. -/
def notText : OsError := .custom "stream did not contain valid UTF-8"

/-- The text of a file. -/
def readText? (root : FileNode) (cwd : Location) (path : Bytes) : Except OsError Text :=
  (root.readFile cwd path).bind fun content =>
    match Text.decode? content with
    | some t => .ok t
    | none => .error notText

/-- The configuration in a file. -/
def load (root : FileNode) (cwd : Location) (path : Bytes) : Except SyncError FileConfig :=
  match readText? root cwd path with
  | .ok content =>
      match parse content with
      | .ok c => .ok c
      | .error e => .error (.config (Text.decodeLossy path ++ ": " ++ e.message))
  | .error cause =>
      if cause = .notFound then .ok empty
      else .error (.config ("cannot read " ++ Text.decodeLossy path ++ ": " ++ cause.message))

end FileConfig

end TunnelSync
