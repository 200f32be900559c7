import WirelessMesh.Command.PairRun
import WirelessMesh.Json.Printer

namespace WirelessMesh.Command

/-- The text of a file, if there is one to read. -/
def readText (path : String) : IO (Option String) := do
  try
    return some (← IO.FS.readFile path)
  catch _ => return none

/-- Writes a log of routes; tells whether that was possible. -/
def writeLog (log : LogFile) : IO Bool := do
  try
    IO.FS.writeFile log.path (Json.array (log.records.map RouteLogRecord.toJson)).renderPretty
    return true
  catch _ => return false

/-- The files that a mesh run may ask for, given the text of its scenario file. Whether the log can
be written shows only when it is written. -/
def filesOf (scenario : Option String) : Files where
  read _ := scenario
  writable _ := true

/-- The outcome of a command line. -/
def outcomeOf : List String → IO Outcome
  | "mesh" :: args => do
    let path := (MeshRun.parse? args).bind MeshRun.scenario
    let scenario ← match path with
      | some path => readText path
      | none => pure none
    return MeshRun.ofArgs args (filesOf scenario)
  | "pair" :: args => return PairRun.ofArgs args
  | _ => return .misuse

/-- Prints an outcome and answers its exit code. -/
def report (outcome : Outcome) : IO UInt32 := do
  outcome.output.forM IO.println
  if let some message := outcome.failure? then IO.eprintln ("error: " ++ message)
  match outcome.log? with
  | none => return UInt32.ofNat outcome.code
  | some log =>
    if ← writeLog log then return UInt32.ofNat outcome.code
    else
      IO.eprintln ("error: " ++ ConfigError.unreadable.message)
      return 1

end WirelessMesh.Command

def main (args : List String) : IO UInt32 := do
  WirelessMesh.Command.report (← WirelessMesh.Command.outcomeOf args)
