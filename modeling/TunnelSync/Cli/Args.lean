import TunnelSync.Cli.Option
import TunnelSync.Config.Settings
import TunnelSync.Text.Class

/-!
# The command line

`Cli.parse` reads the arguments from left to right: the first that is wrong, or that asks for help
or the version, decides. A value stands behind its option or, with an equals sign, in the same
argument; only in the second spelling may it look like an option. Two dashes by themselves make
operands of all that follows. What is left open is then taken from the environment.

* `Token.of` : an argument by itself
* `Given` : what was read so far
* `parse` : the whole command line
-/

namespace TunnelSync.Cli

/-- Why a command line cannot be used. -/
inductive UsageError
  | unknown (argument : Text)
  | noValue (long : Text)
  | needlessValue (long : Text)
  | repeated (long : Text)
  | badValue (name value : Text)
  | missing (name : Text)
  deriving DecidableEq, Repr

namespace UsageError

/-- The wording of the error. -/
def message : UsageError → Text
  | .unknown argument => "unexpected argument '" ++ argument ++ "' found"
  | .noValue long => "a value is required for '--" ++ long ++ "' but none was supplied"
  | .needlessValue long => "unexpected value for '--" ++ long ++ "' found"
  | .repeated long => "the argument '--" ++ long ++ "' cannot be used multiple times"
  | .badValue name value => "invalid value '" ++ value ++ "' for '" ++ name ++ "'"
  | .missing name => "the required argument '" ++ name ++ "' was not provided"

end UsageError

/-- What ends the program before it does anything. -/
inductive Stop
  /-- The help text is wanted, in its long or its short form. -/
  | help (long : Bool)
  | version
  | usage (e : UsageError)
  deriving DecidableEq, Repr

/-- An argument by itself. -/
inductive Token
  /-- Two dashes. -/
  | escape
  | long (name : Text) (value : Option Text)
  | letters (letters : Text)
  | operand (t : Text)
  deriving DecidableEq, Repr

/-- What an argument is. A single dash is an operand. -/
def Token.of : Text → Token
  | '-' :: '-' :: [] => .escape
  | '-' :: '-' :: t =>
      .long (t.takeWhile (· != '=')) (Text.after? ['='] (t.dropWhile (· != '=')))
  | '-' :: c :: t => .letters (c :: t)
  | t => .operand t

/-- What has been read. -/
structure Given where
  operands : List Text
  switches : List Key
  values : List (Key × Text)
  deriving DecidableEq, Repr

namespace Given

/-- Nothing read. -/
def empty : Given := ⟨[], [], []⟩

/-- A degree: a number of 64 bits, which may have a plus sign. -/
def readDegree? (t : Text) : Option Nat :=
  (Text.readNat? ((Text.after? ['+'] t).getD t)).filter (· < Nat.pow 2 64)

/-- Whether an option may have the value. A path is not empty. -/
def allows (s : Spec) (value : Text) : Bool :=
  match s.key with
  | .parallel => (readDegree? value).isSome
  | .config => !value.isEmpty
  | _ => s.choices.isEmpty || s.choices.any (·.1 == value)

/-- A switch is on, spelled out or as a letter. -/
def setSwitch (g : Given) (s : Spec) (spelledOut : Bool) : Except Stop Given :=
  match s.key with
  | .help => .error (.help spelledOut)
  | .version => .error .version
  | key =>
      if g.switches.contains key then .error (.usage (.repeated s.long))
      else .ok { g with switches := g.switches ++ [key] }

/-- An option has a value. -/
def setValue (g : Given) (s : Spec) (value : Text) : Except Stop Given :=
  if !allows s value then .error (.usage (.badValue ("--" ++ s.long) value))
  else if !s.repeatable && g.values.any (·.1 == s.key) then .error (.usage (.repeated s.long))
  else .ok { g with values := g.values ++ [(s.key, value)] }

/-- The letters of one argument, all of them switches. -/
def setLetters (g : Given) : Text → Except Stop Given
  | [] => .ok g
  | c :: rest =>
      match letterSpec? c with
      | some s => do (← g.setSwitch s false).setLetters rest
      | none => .error (.usage (.unknown ['-', c]))

/-- One more operand. The first is a path, which is not empty. -/
def addOperand (g : Given) (t : Text) : Except Stop Given :=
  if Cli.operands.length ≤ g.operands.length then .error (.usage (.unknown t))
  else if g.operands.isEmpty && t.isEmpty then .error (.usage (.badValue "<LOCAL>" t))
  else .ok { g with operands := g.operands ++ [t] }

/-- Reads the arguments. -/
def read (g : Given) : List Text → Except Stop Given
  | [] => .ok g
  | arg :: rest =>
      match Token.of arg with
      | .escape => rest.foldlM addOperand g
      | .operand t => do (← g.addOperand t).read rest
      | .letters letters => do (← g.setLetters letters).read rest
      | .long name attached =>
          match longSpec? name with
          | none => .error (.usage (.unknown arg))
          | some s =>
              match s.kind, attached with
              | .switch _, none => do (← g.setSwitch s true).read rest
              | .switch _, some _ => .error (.usage (.needlessValue name))
              | .valued _, some value => do (← g.setValue s value).read rest
              | .valued _, none =>
                  match rest with
                  | [] => .error (.usage (.noValue name))
                  | next :: behind =>
                      match Token.of next with
                      | .operand value => do (← g.setValue s value).read behind
                      | _ => .error (.usage (.noValue name))

/-- The value of an option that is given at most once. -/
def value? (g : Given) (key : Key) : Option Text := g.values.lookup key

/-- The value of an option, or that of the variable that stands in for it. -/
def required (g : Given) (env : Text → Option Text) (key : Key) (name : Text) :
    Except Stop Text :=
  match (g.value? key).or ((standIn? key).bind fun v => env v.name) with
  | some t => .ok t
  | none => .error (.usage (.missing name))

end Given

/-- A command line that asks for a sync. -/
structure Arguments where
  localPath : Text
  remotePath : Text
  workerUrl : Text
  token : Text
  options : Options
  transport : Option TransportPreference
  config : Option Text
  deriving DecidableEq, Repr

/-- Reads a command line. -/
def parse (env : Text → Option Text) (args : List Text) : Except Stop Arguments := do
  let g ← Given.empty.read args
  match g.operands with
  | [localPath, remotePath] =>
      let workerUrl ← g.required env .workerUrl "--worker-url"
      let token ← g.required env .token "--token"
      return {
        localPath, remotePath, workerUrl, token
        options := {
          delete := g.switches.contains .delete
          dryRun := g.switches.contains .dryRun
          verbose := g.switches.contains .verbose
          exclude := g.values.filterMap fun (key, t) => if key = .exclude then some t else none
          parallelism := ((g.value? .parallel).bind Given.readDegree?).getD 0 }
        transport := (g.value? .transport).bind TransportPreference.ofName?
        config := g.value? .config }
  | [] => throw (.usage (.missing "<LOCAL>"))
  | _ => throw (.usage (.missing "<REMOTE>"))

end TunnelSync.Cli
