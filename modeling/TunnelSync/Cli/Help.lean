import TunnelSync.Cli.Option

/-!
# The help text

The short form has a line for each option. The long form sets each description below its option and
explains the values that are allowed.
-/

namespace TunnelSync.Cli.Help

/-- A row of spaces. -/
def spaces (n : Nat) : Text := List.replicate n ' '

/-- A name between angle brackets. -/
def placeholder (name : Text) : Text := '<' :: name ++ ['>']

/-- An option without its letter. -/
def label (s : Spec) : Text :=
  match s.kind with
  | .switch _ => "--" ++ s.long
  | .valued name => "--" ++ s.long ++ ' ' :: placeholder name

/-- The letter of an option, or as much space. -/
def letter (s : Spec) : Text :=
  match s.kind with
  | .switch (some c) => ['-', c, ',', ' ']
  | _ => spaces 4

/-- The description of an option. Each form of the help text names the other one. -/
def description (long : Bool) (s : Spec) : Text :=
  match s.key, long with
  | .help, false => s.description ++ " (see more with '--help')"
  | .help, true => s.description ++ " (see a summary with '-h')"
  | _, _ => s.description

/-- The variable that stands in for an option, with its value unless that is secret. -/
def variableNote (env : Text → Option Text) (v : Variable) : Text :=
  "[env: " ++ v.name ++ (if v.secret then [] else '=' :: (env v.name).getD []) ++ [']']

/-- The value of an option that is not given. -/
def presetNote (value : Text) : Text := "[default: " ++ value ++ [']']

/-- The allowed values. -/
def choiceNote (choices : List (Text × Text)) : Text :=
  "[possible values: " ++ List.intercalate ", ".toList (choices.map (·.1)) ++ [']']

/-- What stands in brackets behind a description. -/
def notes (env : Text → Option Text) (long : Bool) (s : Spec) : List Text :=
  (s.standIn.map (variableNote env)).toList ++ (s.preset.map presetNote).toList
    ++ if s.choices.isEmpty || long then [] else [choiceNote s.choices]

/-- The greatest length. -/
def longest (labels : List Text) : Nat := labels.foldl (fun n l => max n l.length) 0

/-- A label with its description in the column behind the longest label. -/
def beside (width : Nat) (label description : Text) : Text :=
  label ++ spaces (width + 2 - label.length) ++ description

/-- Where descriptions begin that stand below their options. -/
def margin : Text := spaces 10

/-- The allowed values and their meanings, each on a line of its own. -/
def choiceLines (choices : List (Text × Text)) : Text :=
  let width := longest (choices.map (·.1))
  margin ++ "Possible values:".toList ++ choices.flatMap fun (name, meaning) =>
    '\n' :: margin ++ "- ".toList ++ name ++ ": ".toList ++ spaces (width - name.length) ++ meaning

/-- An operand. -/
def operandText (long : Bool) (operand : Text × Text) : Text :=
  let width := longest (operands.map fun (name, _) => placeholder name)
  if long then "  " ++ placeholder operand.1 ++ '\n' :: margin ++ operand.2
  else "  " ++ beside width (placeholder operand.1) operand.2

/-- An option. -/
def optionText (env : Text → Option Text) (long : Bool) (s : Spec) : Text :=
  let begins := "  " ++ letter s
  if long then
    begins ++ label s ++ '\n' :: margin ++ description long s
      ++ (notes env long s).flatMap (fun note => '\n' :: margin ++ '\n' :: margin ++ note)
      ++ if s.choices.isEmpty then [] else '\n' :: '\n' :: choiceLines s.choices
  else
    begins ++ beside (longest (table.map label))
      (label s) (List.intercalate [' '] (description long s :: notes env long s))

/-- The options that have to be given, as the usage shows them. -/
def requiredOptions : List Text :=
  (table.filter fun s => s.standIn.isSome).map label

/-- The usage. -/
def usage : Text :=
  "Usage: " ++ List.intercalate [' ']
    (programName :: "[OPTIONS]".toList :: requiredOptions
      ++ operands.map fun (name, _) => placeholder name)

/-- The help text. -/
def text (env : Text → Option Text) (long : Bool) : Text :=
  let gap : Text := if long then "\n\n" else "\n"
  programSummary ++ "\n\n" ++ usage
    ++ "\n\nArguments:\n" ++ List.intercalate gap (operands.map (operandText long))
    ++ "\n\nOptions:\n" ++ List.intercalate gap (table.map (optionText env long)) ++ ['\n']

end TunnelSync.Cli.Help
