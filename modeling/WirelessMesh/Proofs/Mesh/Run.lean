import WirelessMesh.Network.World
import WirelessMesh.Proofs.Node.Scripts

namespace WirelessMesh

/-- What becomes of a frame that is put on the network. -/
inductive Passage where
  /-- There is no link to the node that has its address. -/
  | stopped
  /-- It is lost on a link. -/
  | lost (link : LinkId)
  /-- It is to arrive at the far end of a link, as the event of that number. -/
  | carried (link : LinkId) (target : NodeId) (event : EventId)
  deriving DecidableEq

/-- A frame that is put on the network. -/
structure Sending where
  source : NodeId
  frame : Frame
  /-- Whether it is one of the copies of a frame for all neighbours. -/
  isCopy : Bool
  /-- The number of nodes so far. -/
  nodes : Nat
  passage : Passage
  deriving DecidableEq

/-- A frame that an event hands over to a node. -/
structure Handover where
  event : EventId
  node : NodeId
  frame : Frame
  deriving DecidableEq

/-- The handover that an event stands for, if it is an arrival. -/
def Scheduled.handover? (x : Scheduled MeshEvent) : Option Handover :=
  match x.event with
  | .timer _ _ => none
  | .arrival node frame => some ⟨x.id, node, frame⟩

namespace Network

/-- What becomes of a frame on a link. -/
def passage (id : LinkId) (frame : Frame) (air : Air Network) : Passage :=
  match air.medium.links[id]? with
  | none => .stopped
  | some link =>
    if link.drops frame.id then .lost id else .carried id link.target air.sim.nextId

/-- The copy of a frame for one neighbour. -/
def copies (source target : NodeId) (frame : Frame) (air : Air Network) : List Sending :=
  match air.medium.linkId? source target with
  | none => []
  | some id =>
    let copy := { frame with id := air.medium.nextFrameId }
    [⟨source, copy, true, air.medium.nodes.size, passage id copy air⟩]

/-- The copies of a frame for some neighbours, each sent after the ones before it. -/
def allCopies (source : NodeId) (frame : Frame) : List NodeId → Air Network → List Sending
  | [], _ => []
  | target :: rest, air =>
    copies source target frame air ++ allCopies source frame rest (sendCopy source target frame air)

/-- What a broadcast puts on the network. -/
def broadcastings (source : NodeId) (frame : Frame) (air : Air Network) : List Sending :=
  allCopies source frame (air.medium.neighbors source) air

/-- What becomes of a frame for one node. -/
def passageTo (source : NodeId) (frame : Frame) (air : Air Network) : Passage :=
  match (air.medium.nodeByEth? frame.target).bind (air.medium.linkId? source) with
  | none => .stopped
  | some id => passage id frame air

/-- What a frame that is sent puts on the network. -/
def sendings (source : NodeId) (frame : Frame) (air : Air Network) : List Sending :=
  if frame.target.isBroadcast then broadcastings source frame air
  else [⟨source, frame, false, air.medium.nodes.size, passageTo source frame air⟩]

/-- The nodes at the ends of a link. -/
def ends? (net : Network) (id : LinkId) : Option (NodeId × NodeId) :=
  (net.links[id]?).map fun link => (link.source, link.target)

/-- A network with the same nodes and the same links, whose ends are the same too. -/
structure SameWiring (net net' : Network) : Prop where
  nodes : net'.nodes = net.nodes
  outlets : net'.outlets = net.outlets
  ends : ∀ id, net'.ends? id = net.ends? id

namespace SameWiring

variable {net net' net'' : Network}

theorem refl (net : Network) : SameWiring net net := ⟨rfl, rfl, fun _ => rfl⟩

theorem trans (first : SameWiring net net') (second : SameWiring net' net'') :
    SameWiring net net'' where
  nodes := second.nodes.trans first.nodes
  outlets := second.outlets.trans first.outlets
  ends id := (second.ends id).trans (first.ends id)

theorem count (net : Network) (change : Stats → Stats) : SameWiring net (net.count change) :=
  ⟨rfl, rfl, fun _ => rfl⟩

theorem takeFrameId (net : Network) : SameWiring net net.takeFrameId.2 := ⟨rfl, rfl, fun _ => rfl⟩

theorem modify (net : Network) (id : LinkId) {change : Link → Link}
    (ends : ∀ link, (change link).source = link.source ∧ (change link).target = link.target) :
    SameWiring net { net with links := net.links.modify id change } where
  nodes := rfl
  outlets := rfl
  ends other := by
    rw [ends?, ends?, Array.getElem?_modify]
    split
    · rw [Option.map_map]
      refine congrArg (Option.map · _) (funext fun link => ?_)
      exact Prod.ext (ends link).1 (ends link).2
    · rfl

end SameWiring

section Wiring

theorem wiring_transmit (id : LinkId) (frame : Frame) (air : Air Network) :
    SameWiring air.medium (transmit id frame air).medium := by
  unfold transmit
  split
  · exact .refl _
  · next link present =>
    have left : SameWiring air.medium { air.medium with
        links := air.medium.links.setIfInBounds id
          { link with busyUntil := link.departure air.now (UInt32.ofNat frame.size) } } := by
      refine ⟨rfl, rfl, fun other => ?_⟩
      rw [ends?, ends?, Array.getElem?_setIfInBounds]
      split
      · next here =>
        subst here
        split
        · rw [present]
          rfl
        · next outside => simp [outside]
      · rfl
    simp only
    split
    · exact left.trans ⟨rfl, rfl, fun _ => rfl⟩
    · exact left

theorem wiring_sendCopy (source target : NodeId) (frame : Frame) (air : Air Network) :
    SameWiring air.medium (sendCopy source target frame air).medium := by
  unfold sendCopy
  split
  · exact .refl _
  · have counted : SameWiring air.medium (air.medium.takeFrameId.2.count fun s =>
        { s with sentFrames := s.sentFrames + 1 }) := (SameWiring.takeFrameId _).trans (.count _ _)
    exact counted.trans (wiring_transmit _ _ ⟨air.sim, _⟩)

theorem wiring_broadcast (source : NodeId) (frame : Frame) (air : Air Network) :
    SameWiring air.medium (broadcast source frame air).medium := by
  unfold broadcast
  generalize air.medium.neighbors source = targets
  induction targets generalizing air with
  | nil => exact .refl _
  | cons target rest ih => exact (wiring_sendCopy source target frame air).trans (ih _)

theorem wiring_send (source : NodeId) (frame : Frame) (air : Air Network) :
    SameWiring air.medium (send source frame air).medium := by
  have counted : SameWiring air.medium (air.medium.count fun s =>
      { s with sentFrames := s.sentFrames + 1 }) := .count _ _
  unfold send
  split
  · exact wiring_broadcast source frame air
  · simp only
    split
    · exact counted.trans (wiring_transmit _ _ ⟨air.sim, _⟩)
    · exact ⟨rfl, rfl, fun _ => rfl⟩

end Wiring

end Network

namespace Desk

/-- What a deed puts on the network. -/
def deedSendings (node : NodeId) (desk : Desk Network) : Deed → List Sending
  | .post draft =>
    let (frame, medium) := desk.air.medium.number draft
    Network.sendings node frame { desk.air with medium }
  | .announce draft =>
    let (frame, medium) := desk.air.medium.number draft
    Network.broadcastings node frame { desk.air with medium }
  | _ => []

/-- What a script puts on the network. -/
def sendings (node : NodeId) : Desk Network → List Deed → List Sending
  | _, [] => []
  | desk, deed :: rest =>
    desk.deedSendings node deed ++ sendings node (desk.perform node deed) rest

end Desk

/-- The node that an event is for. -/
def MeshEvent.node : MeshEvent → NodeId
  | .timer node _ => node
  | .arrival node _ => node

/-- What has happened on a network so far. -/
structure Past where
  /-- The nodes that have been started and not shut down since. -/
  inUse : List NodeId := []
  sendings : List Sending := []
  handovers : List Handover := []

namespace Past

def send (past : Past) (sendings : List Sending) : Past :=
  { past with sendings := past.sendings ++ sendings }

/-- An event begins, perhaps the arrival of a frame. -/
def begin (past : Past) (item : Scheduled MeshEvent) : Past :=
  { past with handovers := past.handovers ++ item.handover?.toList }

def start (past : Past) (id : NodeId) : Past := { past with inUse := id :: past.inUse }

def shutDown (past : Past) (id : NodeId) : Past :=
  { past with inUse := past.inUse.filter (· ≠ id) }

end Past

namespace Mesh

/-- A network that another node takes the place of one. -/
def put (mesh : Mesh) (id : NodeId) (n : MeshNode) : Mesh :=
  { mesh with medium := mesh.medium.setNode id n }

/-- A network on which an event begins: a frame that arrives is counted, whether or not there is a
node to take it in. -/
def struck (mesh : Mesh) : MeshEvent → Mesh
  | .timer _ _ => mesh
  | .arrival _ frame =>
    { mesh with
      medium := mesh.medium.count fun s =>
        { s with
          deliveredFrames := s.deliveredFrames + 1
          deliveredBytes := s.deliveredBytes + frame.size } }

/-- What the deeds of a node put on the network. -/
def sendings (mesh : Mesh) (id : NodeId) (script : List Deed) : List Sending :=
  match mesh.medium.node? id with
  | none => []
  | some n => Desk.sendings id ⟨n.slots, mesh⟩ script

/-- A network gets to another by the deeds of a node; by none if there is no such node. -/
def Follows (mesh : Mesh) (id : NodeId) (script : List Deed) (mesh' : Mesh) : Prop :=
  match mesh.medium.node? id with
  | none => script = [] ∧ mesh' = mesh
  | some n => ∃ (n' : MeshNode) (mid : Mesh),
    Desk.play id ⟨n.slots, mesh⟩ script = ⟨n'.slots, mid⟩ ∧ mesh' = put mid id n'

/-- The networks that can be reached, each with its past: nodes and links are added, nodes started,
shut down and looked at, frames sent, and events carried out. Frames may be `injected`, which no node
has sent. -/
inductive Reached (injected : Prop) : Mesh → Past → Prop
  | empty : Reached injected .empty {}
  | added {mesh : Mesh} {past : Past} {config : NodeConfig} {id : NodeId} {net : Network}
      (log : Bool) (reached : Reached injected mesh past)
      (done : mesh.medium.addNode (fun id => (MeshNode.create id config).map fun n =>
        if log then n.withRouteLog else n) = .ok (id, net)) :
      Reached injected { mesh with medium := net } past
  | connected {mesh : Mesh} {past : Past} {source target : NodeId} {latency : Time}
      {bandwidth loss : Nat} {id : LinkId} {net : Network} (reached : Reached injected mesh past)
      (done : mesh.medium.connect source target latency bandwidth loss = .ok (id, net)) :
      Reached injected { mesh with medium := net } past
  /-- A link changes, but not the nodes at its ends, by which it is found. -/
  | modified {mesh : Mesh} {past : Past} {source target : NodeId} {change : Link → Link}
      (reached : Reached injected mesh past)
      (ends : ∀ link, (change link).source = link.source ∧ (change link).target = link.target) :
      Reached injected { mesh with medium := (mesh.medium.modifyLink source target change).2 } past
  | started {mesh : Mesh} {past : Past} {id : NodeId} {n : MeshNode}
      (reached : Reached injected mesh past) (present : mesh.medium.node? id = some n) :
      Reached injected (mesh.startNode id).2 (past.start id)
  | shutDown {mesh : Mesh} {past : Past} (id : NodeId) (reached : Reached injected mesh past) :
      Reached injected (mesh.shutdownNode id).2 (past.shutDown id)
  | measured {mesh : Mesh} {past : Past} {id : NodeId} {n : MeshNode} (peer : EtherAddress)
      (now : Time) (reached : Reached injected mesh past)
      (present : mesh.medium.node? id = some n) :
      Reached injected (mesh.put id (n.linkReport peer now).2) past
  | drained {mesh : Mesh} {past : Past} {id : NodeId} {n : MeshNode}
      (reached : Reached injected mesh past) (present : mesh.medium.node? id = some n) :
      Reached injected (mesh.put id { n with routes := n.routes.drainLog.2 }) past
  | numbered {mesh : Mesh} {past : Past} (reached : Reached injected mesh past) :
      Reached injected { mesh with medium := mesh.medium.takeFrameId.2 } past
  | rejected {mesh : Mesh} {past : Past} (reached : Reached injected mesh past) :
      Reached injected { mesh with medium := mesh.medium.rejectFrame } past
  | sent {mesh : Mesh} {past : Past} (source : NodeId) (frame : Frame)
      (reached : Reached injected mesh past) :
      Reached injected (Network.send source frame mesh)
        (past.send (Network.sendings source frame mesh))
  | broadcast {mesh : Mesh} {past : Past} (source : NodeId) (frame : Frame)
      (reached : Reached injected mesh past) :
      Reached injected (Network.broadcast source frame mesh)
        (past.send (Network.broadcastings source frame mesh))
  | waited {mesh : Mesh} {past : Past} {limit : Time} (reached : Reached injected mesh past)
      (idle : mesh.sim.next? (some limit) = none) :
      Reached injected { mesh with sim := { mesh.sim with now := max mesh.sim.now limit } } past
  | fired {mesh mesh' : Mesh} {past : Past} {limit : Option Time} {item : Scheduled MeshEvent}
      {sim : Simulator MeshEvent} {script : List Deed} (reached : Reached injected mesh past)
      (taken : mesh.sim.next? limit = some (item, sim))
      (done : execute { mesh with sim } item.event = .ok mesh')
      (acted : Follows (struck { mesh with sim } item.event) item.event.node script mesh') :
      Reached injected mesh' ((past.begin item).send
        (sendings (struck { mesh with sim } item.event) item.event.node script))
  | scheduled {mesh : Mesh} {past : Past} (injects : injected) (due : Time) (node : NodeId)
      (frame : Frame) (reached : Reached injected mesh past) :
      Reached injected { mesh with sim := (mesh.sim.schedule due (.arrival node frame)).2 } past
  | delivered {mesh mesh' : Mesh} {past : Past} {node : NodeId} {frame : Frame}
      {script : List Deed} (injects : injected) (reached : Reached injected mesh past)
      (done : mesh.deliver node frame = .ok mesh')
      (acted : Follows (struck mesh (.arrival node frame)) node script mesh') :
      Reached injected mesh' (past.send (sendings (struck mesh (.arrival node frame)) node script))

/-- An event is carried out by its node, whatever kind of event it is. -/
theorem execute_eq (mesh : Mesh) (event : MeshEvent) :
    ∃ act, mesh.execute event = (struck mesh event).withNode event.node act ∧
      ∀ (n : MeshNode) (air : Mesh), n.id = event.node → n.onEvent air event = act n air := by
  cases event with
  | timer id kind => exact ⟨_, rfl, fun n air mine => if_pos mine.symm⟩
  | arrival id frame => exact ⟨_, rfl, fun n air mine => if_pos mine.symm⟩

theorem execute_ok {mesh mesh' : Mesh} {event : MeshEvent} (done : mesh.execute event = .ok mesh') :
    (mesh.medium.node? event.node = none ∧ mesh' = struck mesh event) ∨
    ∃ (n : MeshNode) (next : MeshNode × Mesh), mesh.medium.node? event.node = some n ∧
      (n.id = event.node → n.onEvent (struck mesh event) event = .ok next) ∧
      mesh' = put next.2 event.node next.1 := by
  obtain ⟨act, carried, own⟩ := execute_eq mesh event
  have same : (struck mesh event).medium.node? event.node = mesh.medium.node? event.node := by
    cases event <;> rfl
  rw [carried, withNode, same] at done
  split at done
  · next none =>
    cases done
    exact .inl ⟨none, rfl⟩
  · next n present =>
    obtain ⟨next, taken, rfl⟩ := ok_of_map done
    exact .inr ⟨n, next, present, fun mine => (own n _ mine).trans taken, rfl⟩

theorem struck_sim (mesh : Mesh) (event : MeshEvent) : (struck mesh event).sim = mesh.sim := by
  cases event <;> rfl

theorem struck_at (mesh : Mesh) (sim : Simulator MeshEvent) (event : MeshEvent) :
    struck { mesh with sim } event = { struck mesh event with sim } := by
  cases event <;> rfl

theorem struck_wiring (mesh : Mesh) (event : MeshEvent) :
    mesh.medium.SameWiring (struck mesh event).medium := by
  cases event with
  | timer node kind => exact .refl _
  | arrival node frame => exact ⟨rfl, rfl, fun _ => rfl⟩

end Mesh

end WirelessMesh
