import BulkLoad.Cli.Program
import BulkLoad.Logging.Line

/-!
The program at its edges: arguments, variables, files, standard input and output.

There is no network here, so a request is never answered; times are not measured.
-/
namespace BulkLoad.Main

open Cli

/-- The variables of those names that are set. -/
def readVariables (names : List String) : IO Environment := do
  let mut env : Environment := {}
  for name in names do
    if let some value ← IO.getEnv name then env := env.setNew name value
  return env

/-- Adds what a path leads to. -/
def addPath (fs : Files) (path : String) : IO Files := do
  try
    let content ← IO.FS.readBinFile path
    return fs.put path (.bytes content.toList)
  catch
    | .noFileOrDirectory .. => return fs
    | .inappropriateType .. => return fs.put path .directory
    | e => return fs.put path (.unreadable (.system (toString e)))

/-- Adds the files that a run looks at. Those found in one round tell which come in the next. -/
def readFiles (args : List String) : IO (Files × Environment) := do
  let mut fs : Files := {}
  let mut env ← readVariables Program.variableNames
  let mut seen : List String := []
  for _ in [0:3] do
    for path in Program.paths fs env args do
      unless seen.contains path do
        seen := path :: seen
        fs ← addPath fs path
        if path = Program.envFile then
          let mentioned := EnvFile.words ((fs.read path).toOption.getD [])
          env ← readVariables (Program.variableNames ++ mentioned)
  return (fs, env)

partial def readAll (input : IO.FS.Stream) (found : ByteArray) : IO ByteArray := do
  let more ← input.read 65536
  if more.isEmpty then return found else readAll input (found ++ more)

def recordLine (format : LogFormat) (r : Record) : String :=
  match format with
  | .json => r.toJson.toLine
  | _ => r.plainLine

end BulkLoad.Main

open BulkLoad BulkLoad.Cli in
def main (args : List String) : IO UInt32 := do
  let (files, env) ← BulkLoad.Main.readFiles args
  let input ←
    if Program.readsInput files env args then
      BulkLoad.Main.readAll (← IO.getStdin) ByteArray.empty
    else pure ByteArray.empty
  match Program.run ⟨files, input.toList⟩ env args with
  | .error r =>
    if r.exitCode = 0 then IO.println r.message else IO.eprintln r.message
    return r.exitCode.toUInt32
  | .ok e =>
    for r in e.log do
      IO.println (BulkLoad.Main.recordLine e.format r)
    IO.print e.output
    return e.exitCode.toUInt32
