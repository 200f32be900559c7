import WirelessMesh.Json.Value
import WirelessMesh.Network.Link
import WirelessMesh.Node

/-!
A network: nodes, the links between them and a count of what became of the frames. A frame for one
node goes over the link to the node that last took the address; a frame for all goes over every
link of its sender, each time as a copy with a number of its own.
-/
namespace WirelessMesh

/-- The number of a link in its network. -/
abbrev LinkId := Nat

/-- What became of the frames of a network, as counts. -/
structure Stats where
  sentFrames : Nat := 0
  deliveredFrames : Nat := 0
  deliveredBytes : Nat := 0
  /-- Lost on a link. -/
  droppedLoss : Nat := 0
  /-- Sent to an address that is no neighbour's. -/
  droppedNoLink : Nat := 0
  /-- Of no use to the node that received them. -/
  droppedInvalid : Nat := 0
  deriving DecidableEq

def Stats.toJson (s : Stats) : Json :=
  .ofFields [
    ("sent_frames", .ofNat s.sentFrames),
    ("delivered_frames", .ofNat s.deliveredFrames),
    ("delivered_bytes", .ofNat s.deliveredBytes),
    ("dropped_loss", .ofNat s.droppedLoss),
    ("dropped_no_link", .ofNat s.droppedNoLink),
    ("dropped_invalid", .ofNat s.droppedInvalid)]

/-- A link as its source knows it. -/
structure Outlet where
  target : NodeId
  link : LinkId
  deriving DecidableEq

structure Network where
  nodes : Array MeshNode := #[]
  links : Array Link := #[]
  /-- The links out of each node, in the order in which they were made. -/
  outlets : Array (List Outlet) := #[]
  nextFrameId : UInt64 := 0
  stats : Stats := {}

/-- The one thing that a network cannot do. -/
inductive NetworkError where
  /-- There is no node of this number. -/
  | unknownNode (node : NodeId)
  deriving DecidableEq

namespace Network

def empty : Network := {}

instance : Inhabited Network := ⟨empty⟩

def nodeCount (net : Network) : Nat := net.nodes.size

def nodeIds (net : Network) : List NodeId := List.range net.nodes.size

def node? (net : Network) (id : NodeId) : Option MeshNode := net.nodes[id]?

def setNode (net : Network) (id : NodeId) (node : MeshNode) : Network :=
  { net with nodes := net.nodes.setIfInBounds id node }

/-- Adds a node that is built for the next number; nothing changes if it cannot be built. -/
def addNode (net : Network) (build : NodeId → Except ConfigError MeshNode) :
    Except ConfigError (NodeId × Network) := do
  let node ← build net.nodes.size
  return (net.nodes.size,
    { net with nodes := net.nodes.push node, outlets := net.outlets.push [] })

/-- The last node below a number that has an address. -/
def nodeBelow? (net : Network) (eth : EtherAddress) : NodeId → Option NodeId
  | 0 => none
  | id + 1 => if (net.node? id).any (·.eth = eth) then some id else net.nodeBelow? eth id

/-- The node that took an address, the last one of several. -/
def nodeByEth? (net : Network) (eth : EtherAddress) : Option NodeId :=
  net.nodeBelow? eth net.nodes.size

def outletsOf (net : Network) (id : NodeId) : List Outlet := (net.outlets[id]?).getD []

/-- The ends of the links out of a node, in the order in which they were made. -/
def neighbors (net : Network) (id : NodeId) : List NodeId := (net.outletsOf id).map (·.target)

/-- The link between two nodes, the last one that was made. -/
def linkId? (net : Network) (source target : NodeId) : Option LinkId :=
  ((net.outletsOf source).reverse.find? (·.target = target)).map (·.link)

def link? (net : Network) (source target : NodeId) : Option Link :=
  (net.linkId? source target).bind fun id => net.links[id]?

/-- Changes the link between two nodes; tells whether there is one. -/
def modifyLink (net : Network) (source target : NodeId) (change : Link → Link) : Bool × Network :=
  match net.linkId? source target with
  | none => (false, net)
  | some id => (true, { net with links := net.links.modify id change })

/-- Makes a link in one direction. More loss than all counts as all. -/
def connect (net : Network) (source target : NodeId) (latency : Time) (bandwidth loss : Nat) :
    Except NetworkError (LinkId × Network) :=
  if source < net.outlets.size then
    let id := net.links.size
    let link := { Link.create source target latency bandwidth with lossPercent := min loss 100 }
    .ok (id,
      { net with
        links := net.links.push link
        outlets := net.outlets.modify source (· ++ [⟨target, id⟩]) })
  else .error (.unknownNode source)

/-- Makes a link in each direction. -/
def connectPair (net : Network) (a b : NodeId) (latency : Time) (bandwidth loss : Nat) :
    Except NetworkError Network := do
  let (_, net) ← net.connect a b latency bandwidth loss
  let (_, net) ← net.connect b a latency bandwidth loss
  return net

def count (net : Network) (change : Stats → Stats) : Network :=
  { net with stats := change net.stats }

/-- The next frame number. -/
def takeFrameId (net : Network) : UInt64 × Network :=
  (net.nextFrameId, { net with nextFrameId := net.nextFrameId + 1 })

def number (net : Network) (draft : Draft) : Frame × Network :=
  let (id, net) := net.takeFrameId
  (.ofDraft id draft, net)

/-- Puts a frame on a link: it leaves after the frames before it and arrives, unless it is lost. A
link tells sizes apart up to the largest word of 32 bits. -/
def transmit (id : LinkId) (frame : Frame) (air : Air Network) : Air Network :=
  match air.medium.links[id]? with
  | none => air
  | some link =>
    let busyUntil := link.departure air.now (UInt32.ofNat frame.size)
    let net := { air.medium with links := air.medium.links.setIfInBounds id { link with busyUntil } }
    if link.drops frame.id then
      { air with medium := net.count fun s => { s with droppedLoss := s.droppedLoss + 1 } }
    else
      let arrival := MeshEvent.arrival link.target frame
      { sim := (air.sim.schedule (busyUntil + link.latency) arrival).2, medium := net }

/-- Puts a numbered copy of a frame on the link to one neighbour. -/
def sendCopy (source target : NodeId) (frame : Frame) (air : Air Network) : Air Network :=
  match air.medium.linkId? source target with
  | none => air
  | some id =>
    let (number, net) := air.medium.takeFrameId
    let net := net.count fun s => { s with sentFrames := s.sentFrames + 1 }
    transmit id { frame with id := number } { air with medium := net }

/-- Sends a copy of a frame over every link of a node. -/
def broadcast (source : NodeId) (frame : Frame) (air : Air Network) : Air Network :=
  (air.medium.neighbors source).foldl (fun air target => sendCopy source target frame air) air

/-- Sends a frame to its target, or to all if it is meant for all. -/
def send (source : NodeId) (frame : Frame) (air : Air Network) : Air Network :=
  if frame.target.isBroadcast then broadcast source frame air
  else
    let net := air.medium.count fun s => { s with sentFrames := s.sentFrames + 1 }
    match (net.nodeByEth? frame.target).bind (net.linkId? source) with
    | some id => transmit id frame { air with medium := net }
    | none =>
      { air with medium := net.count fun s => { s with droppedNoLink := s.droppedNoLink + 1 } }

/-- Counts a frame that a node could not use. -/
def rejectFrame (net : Network) : Network :=
  net.count fun s => { s with droppedInvalid := s.droppedInvalid + 1 }

instance : Medium Network where
  number := number
  send := send
  broadcast := broadcast
  reject _ _ net := net.rejectFrame

end Network

end WirelessMesh
