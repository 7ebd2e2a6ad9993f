import TunnelSync.Scan
import TunnelSync.Filter.Basic
import TunnelSync.Config.Settings
import TunnelSync.Text.Utf8
import TunnelSync.Url.Percent

/-!
# Arguments of rsync

The argument vector of one copy. Rules apply in argument order and the first that matches decides,
so the exclusions stand before the inclusions of a chunk and the final `--exclude *` that keeps out
everything else.

* `Rsync.includePattern` : the rule that matches one top-level entry
* `Rsync.sourceArg`, `Rsync.remoteDestination` : the two operands
* `Rsync.Command.args` : the whole vector
* `Rsync.redactArgs` : a vector as it may be shown

A secret may stand in an argument as it is, form-encoded in a URL, or in a URL whose percent signs
are doubled for ssh. Each spelling is replaced by a mask before the arguments are shown.
-/

namespace TunnelSync.Rsync

/-- What one copy transfers. -/
inductive Selection
  /-- The whole tree. -/
  | all
  /-- These top-level entries and what lies below them. -/
  | entries (entries : List Entry)
  deriving DecidableEq, Repr

/-! ### Rules and operands -/

/-- Whether a rule with this character in it is read as a wildcard pattern. -/
def isWildcard (c : Char) : Bool := c == '*' || c == '?' || c == '['

/-- The name with a backslash before each backslash and each wildcard. -/
def escape (name : Text) : Text :=
  name.flatMap fun c => if c == '\\' || isWildcard c then ['\\', c] else [c]

/-- The rule for one top-level entry. A directory is taken with everything in it. Backslashes escape
only in a rule that has a wildcard, so a plain file name is left as it is. -/
def includePattern (entry : Entry) : Text :=
  if entry.isDir then escape entry.name ++ "/***"
  else if entry.name.any isWildcard then escape entry.name
  else entry.name

/-- The source operand: the path with exactly one slash at its end, which stands for the contents of
the directory. -/
def sourceArg (localPath : Bytes) : Text :=
  Text.dropTrailing '/' (Text.decodeLossy localPath) ++ ['/']

/-- The destination operand. -/
def remoteDestination (user host remotePath : Text) : Text :=
  user ++ '@' :: host ++ ':' :: Text.dropTrailing '/' remotePath ++ ['/']

/-! ### The vector -/

/-- One run of rsync. -/
structure Command where
  options : Options
  filter : Filter
  selection : Selection
  localPath : Bytes
  /-- The program that connects to the destination, with its arguments. -/
  remoteShell : Text
  destination : Text
  deriving DecidableEq, Repr

namespace Command

/-- The switches that the options ask for. -/
def switches (o : Options) : List Text :=
  (if o.delete then ["--delete".toList] else []) ++ (if o.dryRun then ["-n".toList] else [])
    ++ (if o.verbose then ["-v".toList] else [])

/-- The exclusion rules of the filter. -/
def excludeRules (f : Filter) : List Text :=
  f.patterns.flatMap fun p => ["--exclude".toList, p]

/-- The rules that narrow a copy to its selection. -/
def selectionRules : Selection → List Text
  | .all => []
  | .entries es => es.flatMap (fun e => ["--include".toList, includePattern e])
      ++ ["--exclude".toList, "*".toList]

/-- The argument vector. -/
def args (c : Command) : List Text :=
  ["-az".toList, "--stats".toList] ++ switches c.options ++ ["-e".toList, c.remoteShell]
    ++ excludeRules c.filter ++ selectionRules c.selection
    ++ [sourceArg c.localPath, c.destination]

end Command

/-! ### Hiding a secret -/

/-- What is shown in place of a secret. -/
def mask : Text := "***"

/-- The text with every `%` doubled. -/
def doublePercent (t : Text) : Text := t.flatMap fun c => if c == '%' then ['%', '%'] else [c]

/-- One argument with the mask in place of each spelling of the secret, the longest first. -/
def redactArg (secret arg : Text) : Text :=
  let encoded := Url.Form.encode secret
  Text.replace secret mask (Text.replace encoded mask (Text.replace (doublePercent encoded) mask arg))

/-- The arguments with the mask in place of the secret; an empty secret is nothing to hide. -/
def redactArgs (secret : Text) (args : List Text) : List Text :=
  if secret.isEmpty then args else args.map (redactArg secret)

end TunnelSync.Rsync
