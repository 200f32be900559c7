import WirelessMesh.Address.IPv4
import WirelessMesh.Simulation.Timer
import WirelessMesh.Wire.Frame

/-!
The events of a mesh, a timer of a node that fires or a frame that arrives, and what nodes need of the
medium that carries their frames. A medium numbers frames, carries them to one node or to all in range,
and counts frames that a node could not use.
-/
namespace WirelessMesh

/-- The number of a node in its network. -/
abbrev NodeId := Nat

/-- What a timer of a node is for. -/
inductive TimerKind where
  /-- Send a discovery frame. -/
  | discovery
  /-- Start a round of probing. -/
  | probeRound
  /-- Probe the next neighbour of the round. -/
  | probeNext
  /-- Send the periodic advert. -/
  | advert
  /-- Send an advert that a change set off. -/
  | trigger
  /-- Give up the route to a destination. -/
  | expiry (destination : IPv4)
  /-- Write the whole route table to the log. -/
  | routeDump
  deriving DecidableEq

/-- Something that happens in a mesh. -/
inductive MeshEvent where
  | timer (node : NodeId) (kind : TimerKind)
  | arrival (node : NodeId) (frame : Frame)
  deriving DecidableEq

/-- A medium together with the simulator on which it schedules arrivals. -/
structure Air (μ : Type) where
  sim : Simulator MeshEvent
  medium : μ

/-- The services of a medium. -/
class Medium (μ : Type) where
  /-- Gives a draft the next number. -/
  number : μ → Draft → Frame × μ
  /-- Sends a frame of a node to its target. -/
  send : NodeId → Frame → Air μ → Air μ
  /-- Sends a copy of a frame of a node to every node in range. -/
  broadcast : NodeId → Frame → Air μ → Air μ
  /-- Notes that a node dropped a frame that it could not use. -/
  reject : NodeId → Frame → μ → μ

namespace Air

variable {μ : Type} [Medium μ]

/-- The current time. -/
def now (air : Air μ) : Time := air.sim.now

/-- Numbers a draft and sends it to its target. -/
def post (air : Air μ) (node : NodeId) (draft : Draft) : Air μ :=
  let (frame, medium) := Medium.number air.medium draft
  Medium.send node frame { air with medium }

/-- Numbers a draft and sends it to every node in range. -/
def announce (air : Air μ) (node : NodeId) (draft : Draft) : Air μ :=
  let (frame, medium) := Medium.number air.medium draft
  Medium.broadcast node frame { air with medium }

/-- Drops a frame that a node could not use. -/
def reject (air : Air μ) (node : NodeId) (frame : Frame) : Air μ :=
  { air with medium := Medium.reject node frame air.medium }

end Air

end WirelessMesh
