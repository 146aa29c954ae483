/-
  The program: reads the arguments, the environment and the configuration file,
  and prints what the run of the command says.
-/
import PathRouting.CommandLine.Program

namespace PathRouting

/-- The values of the environment variables that count. -/
def readEnvironment : IO Environment := do
  let values ← programVariables.mapM fun name => return (name.toList, ← IO.getEnv name)
  return Environment.ofList (values.filterMap fun (name, value) =>
    value.map fun v => (name, v.toList))

/-- What stands in a file, if it can be read. -/
def readContent (path : Text) : IO (Option Text) := do
  try
    let content ← IO.FS.readFile ⟨String.ofList path⟩
    return some content.toList
  catch _ => return none

/-- Prints the outcome of a run and returns its code. -/
def finish (o : Outcome) : IO UInt32 := do
  IO.eprint (String.ofList o.errors)
  IO.print (String.ofList o.output)
  return o.exitCode.toUInt32

end PathRouting

open PathRouting

/-- Runs the program. -/
def main (arguments : List String) : IO UInt32 := do
  let env ← readEnvironment
  match Invocation.ofArguments (env "TINYROUTER_CONFIG") (arguments.map (·.toList)) with
  | .error e => finish e.outcome
  | .ok i =>
    let content ← match i.config with
      | some path => readContent path
      | none => pure none
    finish (i.run content env)
