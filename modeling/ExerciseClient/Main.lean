import ExerciseClient.App.Command

/-!
The program. It reads what it is started with and prints how it ends. It opens no connections, so
the back end is one that cannot be reached.
-/

namespace ExerciseClient

/-- Reads a file of the system. -/
def readSystemFile (path : String) : IO (Except ReadError (List UInt8)) := do
  try
    return .ok (← IO.FS.readBinFile path).toList
  catch
    | .permissionDenied .. => return .error .notPermitted
    | .inappropriateType .. => return .error .isDirectory
    | _ => return .error .notFound

/-- The values of variables. -/
def readVariables (names : List String) : IO (List (String × String)) := do
  let values ← names.mapM fun name => do return (← IO.getEnv name).map fun v => (name, v)
  return values.filterMap id

/-- What the program is started with. -/
def readInvocation (arguments : List String) : IO Invocation := do
  let values ← readVariables Invocation.variableNames
  let paths := arguments.drop 1 ++ (values.lookup "CODIM_CONFIG").toList
  let files ← paths.mapM fun path => do return (path, ← readSystemFile path)
  return {
    arguments
    environment := fun name => values.lookup name
    files := fun path => (files.lookup path).getD (.error .notFound)
    backend := .unreachable }

end ExerciseClient

/-- Runs the program. -/
def main (arguments : List String) : IO UInt32 := do
  let exit := (← ExerciseClient.readInvocation arguments).exit
  exit.stdout.forM IO.println
  IO.eprint exit.stderr
  return exit.code.toUInt32
