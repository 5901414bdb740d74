import SoftClock.CommandLine.Run

/-!
# The Program

The outer layer of the command line: it looks up the environment, reads the file with settings,
waits out the pauses of a watch, and prints what `CommandLine.run` answers.
-/

namespace SoftClock.CommandLine

/-- The content of a file, if it can be read. -/
def readContent? (path : String) : IO (Option ByteArray) := do
  try
    return some (← IO.FS.readBinFile path)
  catch _ =>
    return none

/-- Run the program with its arguments; the result is the exit code. -/
def runProgram (arguments : List String) : IO UInt32 := do
  let environment? ← IO.getEnv settingsVariable
  let request? := (parse arguments).toOption
  let content? ←
    match request?.bind fun request => request.settingsPath? environment? with
    | some path => readContent? path
    | none => pure none
  let pause := (request?.map Request.pauseNanos).getD 0
  if 0 < pause then
    IO.sleep (.ofNatClamp (pause / 1000000))
  let outcome := run arguments environment? fun _ => content?
  (← IO.getStdout).putStr outcome.stdout
  (← IO.getStderr).putStr outcome.stderr
  return outcome.code

end SoftClock.CommandLine

/-- The entry point of the program. -/
def main (arguments : List String) : IO UInt32 := SoftClock.CommandLine.runProgram arguments
