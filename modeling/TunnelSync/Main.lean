import TunnelSync.Cli.Run

/-!
# The program

`main` gives the arguments, the environment and the configuration file to `Cli.run`, and prints what
that says. It starts no programs itself, so rsync is not available on the host that it stands on.
-/

namespace TunnelSync.Cli

/-- The variables of the environment that matter. -/
def variableNames : List Text :=
  table.filterMap (fun s => s.standIn.map (·.name))
    ++ ["XDG_CONFIG_HOME".toList, "HOME".toList]

/-- The variables of the environment that matter and are set. -/
def readVariables : IO (List (Text × Text)) :=
  variableNames.filterMapM fun name => do
    return (← IO.getEnv (String.ofList name)).map fun value => (name, value.toList)

/-- A file system with one file, or with none if there is no such file. -/
def readFile (path : Bytes) : IO FileNode := do
  try
    let content ← IO.FS.readBinFile (String.ofList (Text.decodeLossy path))
    return FileNode.put (.dir []) [] (FileNode.names path) (.file content.toList)
  catch _ => return .dir []

/-- A host with these files that starts no program. -/
def quietHost (files : FileNode) : Host :=
  { programs := { files := files, cwd := [], searchPath := [], program? := fun _ => none }
    listen := fun _ => .error .permissionDenied
    custom := fun _ _ => none
    order := id
    cancelled := false
    elapsed := ⟨0, 0⟩ }

/-- The files that a command line needs. -/
def readFiles (env : Text → Option Text) (args : List Text) : IO FileNode :=
  match parse env args with
  | .ok a =>
      match configPath? env a with
      | some path => readFile path
      | none => return .dir []
  | .error _ => return .dir []

end TunnelSync.Cli

open TunnelSync in
/-- The program. -/
def main (args : List String) : IO UInt32 := do
  let known ← Cli.readVariables
  let env (name : Text) : Option Text := known.lookup name
  let args := args.map String.toList
  let outcome := Cli.run env (Cli.quietHost (← Cli.readFiles env args)) args
  IO.print (String.ofList outcome.stdout)
  IO.eprint (String.ofList outcome.stderr)
  return UInt32.ofNat outcome.exitCode
