import WirelessMesh.Network.Basic

namespace WirelessMesh

/-- A network and the simulator on which it runs. -/
abbrev Mesh := Air Network

namespace Mesh

/-- An empty network at time zero. -/
def empty : Mesh := ⟨.empty, .empty⟩

/-- Lets a node act on the network. -/
def withNode (mesh : Mesh) (id : NodeId)
    (act : MeshNode → Mesh → Except RouteViolation (MeshNode × Mesh)) :
    Except RouteViolation Mesh :=
  match mesh.medium.node? id with
  | none => .ok mesh
  | some node =>
    (act node mesh).map fun (node, mesh) => { mesh with medium := mesh.medium.setNode id node }

/-- Hands a frame over to a node. -/
def deliver (mesh : Mesh) (id : NodeId) (frame : Frame) : Except RouteViolation Mesh :=
  let net := mesh.medium.count fun s =>
    { s with
      deliveredFrames := s.deliveredFrames + 1
      deliveredBytes := s.deliveredBytes + frame.size }
  withNode { mesh with medium := net } id fun node mesh => node.onFrame frame mesh

/-- Carries out an event. -/
def execute (mesh : Mesh) : MeshEvent → Except RouteViolation Mesh
  | .timer id kind => mesh.withNode id fun node mesh => node.onTimer kind mesh
  | .arrival id frame => mesh.deliver id frame

/-- The world of a network, whose state is the network. -/
def world : World MeshEvent Network RouteViolation where
  execute event sim net := (execute ⟨sim, net⟩ event).map fun mesh => (mesh.sim, mesh.medium)

/-- Runs the network up to a time. -/
def runUntil (mesh : Mesh) (limit : Time) : Except (Halt RouteViolation) Mesh :=
  (world.runUntil limit mesh.sim mesh.medium).map fun (sim, net) => ⟨sim, net⟩

/-- Starts a node; tells whether there is one. -/
def startNode (mesh : Mesh) (id : NodeId) : Bool × Mesh :=
  match mesh.medium.node? id with
  | none => (false, mesh)
  | some node =>
    let (node, sim) := node.start mesh.sim
    (true, { sim, medium := mesh.medium.setNode id node })

/-- Starts all nodes in the order of their numbers. -/
def startAll (mesh : Mesh) : Mesh :=
  mesh.medium.nodeIds.foldl (fun mesh id => (startNode mesh id).2) mesh

/-- Stops a node; tells whether there is one. -/
def shutdownNode (mesh : Mesh) (id : NodeId) : Bool × Mesh :=
  match mesh.medium.node? id with
  | none => (false, mesh)
  | some node =>
    let (node, sim) := node.shutdown mesh.sim
    (true, { sim, medium := mesh.medium.setNode id node })

end Mesh

end WirelessMesh
