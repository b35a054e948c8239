/-
# The program on a system

Hands the program what it can see of the system, and the system what the program writes.  Nothing
is decided here: which files and which variables are looked at is known from the arguments
(`pathsRead`, `variableNames`), and the rest is `run`, which is a function.

A path that nobody asked for is answered as if there were no such file.
-/
import Teardown.Program

namespace Teardown

/-- Why the system could not read a file. -/
def ReadFault.ofError : IO.Error → ReadFault
  | .noFileOrDirectory .. => .notFound
  | .permissionDenied .. => .forbidden
  | .inappropriateType _ number _ => if number = 21 then .isFolder else .notFolder
  | .invalidArgument _ number _ => if number = 36 ∨ number + 36 = 0 then .nameTooLong else .unknown
  | _ => .unknown

/-- The variables of the system at which a run looks. -/
def systemEnvironment : IO Environment := do
  let found ← variableNames.filterMapM fun name => do
    let value? ← IO.getEnv name
    return value?.map fun value => (name, value)
  return ⟨found⟩

/-- The files of the system at some paths. -/
def systemFiles (paths : List String) : IO Files := do
  let found ← paths.mapM fun (path : String) => do
    let contents ← (IO.FS.readBinFile path).toBaseIO
    return (path, contents.mapError ReadFault.ofError)
  return fun path => (found.lookup path).getD (.error .notFound)

end Teardown

open Teardown in
/-- A run with the arguments of the command line. -/
def main (arguments : List String) : IO UInt32 := do
  let environment ← systemEnvironment
  let files ← systemFiles (pathsRead environment arguments)
  let (outputs, conclusion) := run ⟨files, environment⟩ arguments
  for output in outputs do
    IO.println output.text
  match conclusion with
  | .done => pure ()
  | .unused .version => pure ()
  | .unused .help => IO.println (CommandLine.overview CommandLine.program)
  | .unused usage => IO.eprintln ("error: " ++ usage.message)
  | .failed problem => IO.eprintln ("Error: " ++ problem.inspect)
  return UInt32.ofNat conclusion.exitCode
