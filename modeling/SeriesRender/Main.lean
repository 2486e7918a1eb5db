import SeriesRender.CommandLine

/-!
# The program

Reads the file with the settings and the environment, and writes what a command says. Requests are
not taken from a socket here.
-/

namespace SeriesRender.Main

/-- The text of a file, or none if it cannot be read. -/
def readText? (file : String) : IO (Option String) := do
  try return some (← IO.FS.readFile file)
  catch _ => return none

/-- The name and the value of a variable. -/
def assignment? (entry : String) : Option (String × String) :=
  match entry.toList.dropWhile (· ≠ '=') with
  | [] => none
  | _ :: value => some (String.ofList (entry.toList.takeWhile (· ≠ '=')), String.ofList value)

/-- The variables of this process. -/
def environment : IO (List (String × String)) := do
  let entries := ((← readText? "/proc/self/environ").getD "").splitOn "\x00"
  return entries.filterMap assignment?

/-- Print how a program ends, with the code that it exits with. -/
def finish : Ending → IO UInt32
  | .done output => do
    IO.print output
    return 0
  | .failed message => do
    IO.eprintln ("Error: " ++ message)
    return 1
  | .misused => do
    IO.eprint (usage .querier)
    return 2
  | .serve settings => do
    IO.eprintln ("Settings are valid; ready to serve on " ++ settings.render.bindAddress)
    return 0

/-- Read the arguments and carry them out. -/
def run (args : List String) : IO UInt32 := do
  match Invocation.read .querier args with
  | .error aside => finish (aside.ending .querier)
  | .ok invocation =>
    finish (invocation.run (← readText? invocation.settingsFile) (← environment))

end SeriesRender.Main

/-- The program, with its arguments. -/
def main (args : List String) : IO UInt32 :=
  SeriesRender.Main.run args
