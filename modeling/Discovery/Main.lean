import Discovery.Client.Run
import Discovery.Service.Config

/-!
# The program

A registry that lives as long as the program. A command of the client stands on the program's own
command line, or one on each line of its input, its words divided by blanks. The clock is the steady
clock of the machine; what has expired on it is swept out before a command is run.
-/

namespace Discovery.Program

/-- The variables that configure the service, as they are set. -/
def readEnvironment : IO (String → Option String) := do
  let address ← IO.getEnv ConfigVariable.listenAddress.name
  let seconds ← IO.getEnv ConfigVariable.slotSeconds.name
  let slots ← IO.getEnv ConfigVariable.defaultSlots.name
  return fun name =>
    if name = ConfigVariable.listenAddress.name then address
    else if name = ConfigVariable.slotSeconds.name then seconds
    else if name = ConfigVariable.defaultSlots.name then slots
    else none

/-- Runs one command: the code with which it ends, and the registry after it. -/
def runCommand (words : List String) (d : Discoverer) : IO (UInt32 × Discoverer) := do
  let nanos ← IO.monoNanosNow
  let swept := (d.setClock ⟨nanos / nanosPerSecond, nanos % nanosPerSecond⟩).sweep.2
  let (outcome, after) := Client.run words 0 false swept
  let report := match outcome with
    | .error refusal => Client.Report.refused refusal
    | .ok report => report
  IO.print report.output
  IO.eprint report.errors
  match report.exit with
  | .code n => return (UInt32.ofNat n, after)
  | .stopped => return (0, after)

/-- Runs the commands of the input until it ends. -/
partial def runSession (input : IO.FS.Stream) (code : UInt32) (d : Discoverer) : IO UInt32 := do
  let line ← input.getLine
  if line.isEmpty then return code
  let (code, after) ← runCommand ((line.trimAscii.toString.splitOn " ").filter (· ≠ "")) d
  runSession input code after

end Discovery.Program

open Discovery Program

/-- Runs the command of the command line, or those of the input if there is none. -/
def main (words : List String) : IO UInt32 := do
  match ServiceConfig.ofLookup (← readEnvironment) with
  | .error error =>
    IO.eprintln error.message
    return 1
  | .ok config =>
    let nanos ← IO.monoNanosNow
    let d := Discoverer.new config.lease ⟨nanos / nanosPerSecond, nanos % nanosPerSecond⟩
    match words with
    | [] => runSession (← IO.getStdin) 0 d
    | words => return (← runCommand words d).1
