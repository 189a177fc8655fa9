import WeatherStation.Build.Directives

/-!
# `WeatherStation.Main`: the program that configures the build

Reads the environment, the file `.env` if there is one and the arguments, prints the
directives and ends with the code of the report.
-/

set_option autoImplicit false

namespace WeatherStation.Build

/-- The environment, as far as some variables go. -/
def readEnvironment (names : List String) : IO DotEnv.Environment := do
  let mut env := []
  for name in names.eraseDups do
    if let some value ← IO.getEnv name then
      env := env ++ [(name, value)]
  return env

/-- The text of a file, if there is one. -/
def readFile? (path : String) : IO (Option String) := do
  try
    return some (← IO.FS.readFile path)
  catch _ => return none

/-- Print lines to a stream. -/
def printLines (stream : IO.FS.Stream) (lines : List String) : IO Unit :=
  for line in lines do
    stream.putStrLn line

/-- Print the report of the present surroundings, and give its exit code. -/
def printReport (arguments : List String) : IO UInt32 := do
  let file ← readFile? ".env"
  let env ← readEnvironment (relevantVariables file)
  let result := report env file arguments (← IO.appPath).toString
  printLines (← IO.getStdout) result.directives
  match result.ending with
  | .exit code hint =>
    printLines (← IO.getStderr) hint
    return code.toUInt32
  | .missingArgument =>
    (← IO.getStderr).putStrLn "the linker named no symbol"
    return 101

end WeatherStation.Build

/-- The program. -/
def main (arguments : List String) : IO UInt32 := WeatherStation.Build.printReport arguments
