import WirelessMesh.Config.Error
import WirelessMesh.Network.Basic
import WirelessMesh.Simulation.Simulator

namespace WirelessMesh.Command

/-- The files that a command can reach. -/
structure Files where
  /-- The text of a file, if it can be read. -/
  read : String → Option String
  /-- Whether a file can be written. -/
  writable : String → Bool

/-- Where the log of all routes goes, and what it holds. -/
structure LogFile where
  path : String
  records : List RouteLogRecord

/-- What breaks a command off in the middle. -/
inductive Crash where
  /-- A route table found itself in a state that it rules out. -/
  | routes (cause : RouteViolation)
  | network (cause : NetworkError)
  /-- The run took as many events as any run may. -/
  | endless

def Crash.ofHalt : Halt RouteViolation → Crash
  | .fault cause => routes cause
  | .exhausted => endless

inductive Outcome where
  /-- The command line could not be read. -/
  | misuse
  /-- The command gave up, with lines of output before that. -/
  | failed (code : Nat) (output : List String) (cause : ConfigError)
  | crashed (cause : Crash)
  | done (output : List String) (log : Option LogFile)

namespace Outcome

def code : Outcome → Nat
  | misuse => 2
  | failed code _ _ => code
  | crashed _ => 101
  | done _ _ => 0

def output : Outcome → List String
  | failed _ output _ => output
  | done output _ => output
  | _ => []

/-- The message behind `error: `, if the command gave up. -/
def failure? : Outcome → Option String
  | failed _ _ cause => some cause.message
  | _ => none

def log? : Outcome → Option LogFile
  | done _ log => log
  | _ => none

end Outcome

end WirelessMesh.Command
