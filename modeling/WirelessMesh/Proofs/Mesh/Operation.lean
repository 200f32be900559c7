import WirelessMesh.Proofs.Mesh.Lane
import WirelessMesh.Proofs.Probing.Pairs

namespace WirelessMesh

namespace Network

variable {net : Network}

/-- The addresses of a node, none if there is no such node. -/
def addressesOf (net : Network) (id : NodeId) : List EtherAddress :=
  ((net.node? id).map (·.addresses)).getD []

theorem mem_addressesOf {id : NodeId} {eth : EtherAddress} :
    eth ∈ net.addressesOf id ↔ ∃ n, net.node? id = some n ∧ n.Signs eth := by
  unfold addressesOf
  cases net.node? id with
  | none => simp
  | some n => simp [MeshNode.Signs]

/-- Whether no two nodes share an address. -/
def Distinct (net : Network) : Prop :=
  ∀ i < net.nodes.size, ∀ j < net.nodes.size, ∀ eth ∈ net.addressesOf i,
    eth ∈ net.addressesOf j → i = j

instance : Decidable net.Distinct :=
  inferInstanceAs (Decidable (∀ i < net.nodes.size, ∀ j < net.nodes.size,
    ∀ eth ∈ net.addressesOf i, eth ∈ net.addressesOf j → i = j))

def lane (net : Network) (source target : NodeId) (link : LinkId) : Lane :=
  ⟨source, target, link, net.addressesOf source⟩

theorem Distinct.laid {source target : NodeId} {id : LinkId} (distinct : net.Distinct)
    (wired : net.Wired) (found : net.linkId? source target = some id) :
    (net.lane source target id).Laid net where
  wired := wired
  found := found
  alone j n present eth signs member := by
    obtain ⟨m, there, -⟩ := mem_addressesOf.mp member
    exact distinct j (node?_lt present) source (node?_lt there) eth
      (mem_addressesOf.mpr ⟨n, present, signs⟩) member

end Network

/-- An event that is carried out, and the network when it begins. -/
structure Turn where
  item : Scheduled MeshEvent
  mesh : Mesh

namespace Mesh

/-- What is done to a network from outside that leaves its nodes and links in place. Frames are sent
only under addresses of the node that sends them. -/
inductive Attended (mesh : Mesh) : Mesh → Prop
  | started {id : NodeId} {n : MeshNode} (present : mesh.medium.node? id = some n) :
      Attended mesh (mesh.startNode id).2
  | shutDown (id : NodeId) : Attended mesh (mesh.shutdownNode id).2
  | measured {id : NodeId} {n : MeshNode} (peer : EtherAddress) (now : Time)
      (present : mesh.medium.node? id = some n) :
      Attended mesh (mesh.put id (n.linkReport peer now).2)
  | drained {id : NodeId} {n : MeshNode} (present : mesh.medium.node? id = some n) :
      Attended mesh (mesh.put id { n with routes := n.routes.drainLog.2 })
  | numbered : Attended mesh { mesh with medium := mesh.medium.takeFrameId.2 }
  | rejected : Attended mesh { mesh with medium := mesh.medium.rejectFrame }
  | sent {source : NodeId} {n : MeshNode} {frame : Frame}
      (present : mesh.medium.node? source = some n) (own : n.Signs frame.source) :
      Attended mesh (Network.send source frame mesh)
  | broadcast {source : NodeId} {n : MeshNode} {frame : Frame}
      (present : mesh.medium.node? source = some n) (own : n.Signs frame.source) :
      Attended mesh (Network.broadcast source frame mesh)
  | waited {limit : Time} (idle : mesh.sim.next? (some limit) = none) :
      Attended mesh { mesh with sim := { mesh.sim with now := max mesh.sim.now limit } }

/-- A network that has been in operation for some events. -/
inductive Operated (start : Mesh) : Mesh → List Turn → Prop
  | here : Operated start start []
  | attended {mesh mesh' : Mesh} {turns : List Turn} (operated : Operated start mesh turns)
      (attended : Attended mesh mesh') : Operated start mesh' turns
  | fired {mesh mesh' : Mesh} {turns : List Turn} {limit : Option Time}
      {item : Scheduled MeshEvent} {sim : Simulator MeshEvent} (operated : Operated start mesh turns)
      (taken : mesh.sim.next? limit = some (item, sim))
      (done : execute { mesh with sim } item.event = .ok mesh') :
      Operated start mesh' (turns ++ [⟨item, { mesh with sim }⟩])

variable {injected : Prop} {start mesh mesh' : Mesh} {past : Past} {turns : List Turn} {l : Lane}
  {inUse : List NodeId} {limit : Option Time} {item : Scheduled MeshEvent}
  {sim : Simulator MeshEvent}

theorem Attended.reached (attended : Attended mesh mesh') (reached : Reached injected mesh past) :
    ∃ past', Reached injected mesh' past' := by
  cases attended with
  | started present => exact ⟨_, reached.started present⟩
  | shutDown id => exact ⟨_, reached.shutDown id⟩
  | measured peer now present => exact ⟨_, reached.measured peer now present⟩
  | drained present => exact ⟨_, reached.drained present⟩
  | numbered => exact ⟨_, reached.numbered⟩
  | rejected => exact ⟨_, reached.rejected⟩
  | @sent source _ frame _ _ => exact ⟨_, reached.sent source frame⟩
  | @broadcast source _ frame _ _ => exact ⟨_, reached.broadcast source frame⟩
  | waited idle => exact ⟨_, reached.waited idle⟩

theorem Operated.reached (operated : Operated start mesh turns) (reached : Reached injected start past) :
    ∃ past', Reached injected mesh past' := by
  induction operated with
  | here => exact ⟨past, reached⟩
  | attended _ attended ih =>
    obtain ⟨_, before⟩ := ih
    exact attended.reached before
  | fired _ taken done ih =>
    obtain ⟨_, before⟩ := ih
    obtain ⟨past', after, -⟩ := before.goes_on taken done
    exact ⟨past', after⟩

/-- Whatever a node does, there are as many nodes as before, and the links have their ends. -/
theorem Follows.standing {id : NodeId} {script : List Deed} (acted : Follows mesh id script mesh') :
    mesh'.medium.nodes.size = mesh.medium.nodes.size ∧
      mesh'.medium.outlets = mesh.medium.outlets ∧
      ∀ link, mesh'.medium.ends? link = mesh.medium.ends? link := by
  unfold Follows at acted
  split at acted
  · rw [acted.2]
    exact ⟨rfl, rfl, fun _ => rfl⟩
  · next n present =>
    obtain ⟨n', mid, played, rfl⟩ := acted
    have wiring := wiring_play id script ⟨n.slots, mesh⟩
    rw [played] at wiring
    exact ⟨(Network.size_setNode id n').trans (congrArg Array.size wiring.nodes), wiring.outlets,
      wiring.ends⟩

theorem Follows.wired {id : NodeId} {script : List Deed} (acted : Follows mesh id script mesh')
    (wired : mesh.medium.Wired) : mesh'.medium.Wired := by
  obtain ⟨-, outlets, ends⟩ := acted.standing
  intro source outlet member
  rw [Network.outletsOf, outlets] at member
  rw [ends]
  exact wired source outlet member

/-- In every network that can be reached links are where the nodes have them. -/
theorem Reached.wired (reached : Reached injected mesh past) : mesh.medium.Wired := by
  induction reached with
  | empty => exact fun _ _ member => absurd member List.not_mem_nil
  | added log _ done ih =>
    obtain ⟨n, -, rfl⟩ := Network.addNode_ok done
    exact ih.withNode _
  | connected _ done ih =>
    obtain ⟨link, -, -, -, rfl⟩ := Network.connect_ok done
    exact ih.withLink link
  | modified _ ends ih =>
    unfold Network.modifyLink
    split
    · exact ih
    · exact (Network.SameWiring.modify _ _ ends).wired ih
  | started _ present ih =>
    simp only [startNode, present]
    exact ih
  | @shutDown mesh _ id _ ih =>
    unfold shutdownNode
    split
    · exact ih
    · exact ih
  | measured _ _ _ _ ih => exact ih
  | drained _ _ ih => exact ih
  | numbered _ ih => exact ih
  | rejected _ ih => exact ih
  | @sent mesh _ source frame _ ih => exact (Network.wiring_send source frame mesh).wired ih
  | @broadcast mesh _ source frame _ ih =>
    exact (Network.wiring_broadcast source frame mesh).wired ih
  | waited _ _ ih => exact ih
  | fired _ _ _ acted ih => exact acted.wired ((struck_wiring _ _).wired ih)
  | scheduled _ _ _ _ _ ih => exact ih
  | delivered _ _ _ acted ih => exact acted.wired ((struck_wiring _ _).wired ih)

/-- An event is lost on a node that is not there, or is taken in by one that is tidy. -/
theorem Settled.event_cases (settled : mesh.Settled inUse fun _ => True)
    (taken : mesh.sim.next? limit = some (item, sim))
    (done : execute { mesh with sim } item.event = .ok mesh') :
    (mesh.medium.node? item.event.node = none ∧ mesh' = struck { mesh with sim } item.event) ∨
    ∃ (n : MeshNode) (next : MeshNode × Mesh), mesh.medium.node? item.event.node = some n ∧
      n.id = item.event.node ∧ n.Composed ∧
      Desk.Tidy n.id ⟨n.slots, struck { mesh with sim } item.event⟩ ∧
      n.onEvent (struck { mesh with sim } item.event) item.event = .ok next ∧
      mesh' = put next.2 item.event.node next.1 := by
  rcases execute_ok done with lost | ⟨n, next, present, takes, rfl⟩
  · exact .inl lost
  · have number := settled.numbered _ n present
    have ready := (settled.nodes _ n trivial present).ready.next? taken
    refine .inr ⟨n, next, present, number, ready.composed, ?_, takes number, rfl⟩
    rw [struck_at]
    exact ready.tidy _

private theorem feeds_struck (mesh : Mesh) (event : MeshEvent) : l.Feeds mesh (struck mesh event) := by
  cases event with
  | timer node kind => exact .refl l mesh
  | arrival node frame => exact .rewired ⟨rfl, rfl, fun _ => rfl⟩ rfl

theorem feeds_back {id : NodeId} {n n' : MeshNode} {allowed : Deed → Prop}
    (present : mesh.medium.node? id = some n) (acts : MeshNode.Acts allowed n mesh n' mesh') :
    l.Feeds mesh' (put mesh' id n') := by
  obtain ⟨script, -, played⟩ := acts.plays
  have wiring := wiring_play n.id script ⟨n.slots, mesh⟩
  rw [played] at wiring
  have there := (Network.node?_congr wiring.nodes id).trans present
  exact .node_replaced (Network.map_setNode (·.addresses) there acts.addresses)

theorem Settled.feeds_turn (settled : mesh.Settled inUse fun _ => True)
    (laid : l.Laid mesh.medium) (taken : mesh.sim.next? limit = some (item, sim))
    (done : execute { mesh with sim } item.event = .ok mesh') : l.Feeds { mesh with sim } mesh' := by
  have begins : l.Feeds { mesh with sim } (struck { mesh with sim } item.event) := feeds_struck _ _
  rcases settled.event_cases taken done with ⟨-, rfl⟩ | ⟨n, next, present, number, composed, tidy, takes, rfl⟩
  · exact begins
  · have there := Network.node?_congr (struck_wiring { mesh with sim } item.event).nodes item.event.node
    have acts := composed.acts_onEvent takes
    have trusts := laid.alone _ n present
    rw [← number] at trusts
    have acting : l.Feeds _ next.2 := .plays (begins.laid laid) tidy acts.plays trusts
    exact begins.trans (acting.trans (feeds_back (there.trans present) acts))

theorem Attended.feeds (attended : Attended mesh mesh') (settled : mesh.Settled inUse fun _ => True)
    (laid : l.Laid mesh.medium) : l.Feeds mesh mesh' := by
  have timers (n : MeshNode) (event : MeshEvent) (mine : n.Mine event) : ¬ event.IsArrival := by
    obtain ⟨kind, rfl⟩ := mine
    exact Desk.Tidy.not_arrival
  cases attended with
  | @started id n present =>
    have own := settled.nodes id n trivial present
    have acts : MeshNode.Acts (Deed.Setting n.Dumps) n mesh (n.start mesh.sim).1
      ⟨(n.start mesh.sim).2, mesh.medium⟩ := own.ready.composed.acts_start
    have set : l.Feeds mesh { mesh with sim := (n.start mesh.sim).2 } :=
      .elsewhere own.changes_start (timers n)
    simp only [startNode, present]
    exact set.trans (.node_replaced (Network.map_setNode (·.addresses) present acts.addresses))
  | shutDown id =>
    cases present : mesh.medium.node? id with
    | none =>
      simp only [shutdownNode, present]
      exact .refl l mesh
    | some n =>
      have own := settled.nodes id n trivial present
      have acts : MeshNode.Acts Deed.Timing n mesh (n.shutdown mesh.sim).1
        ⟨(n.shutdown mesh.sim).2, mesh.medium⟩ := own.ready.composed.acts_shutdown
      have set : l.Feeds mesh { mesh with sim := (n.shutdown mesh.sim).2 } :=
        .elsewhere own.changes_shutdown (timers n)
      simp only [shutdownNode, present]
      exact set.trans (.node_replaced (Network.map_setNode (·.addresses) present acts.addresses))
  | measured peer now present => exact .node_replaced (Network.map_setNode (·.addresses) present rfl)
  | @drained id n present =>
    refine .node_replaced (Network.map_setNode (·.addresses) present ?_)
    rw [n.routes.drainLog_eq.choose_spec]
    rfl
  | numbered => exact .rewired (.takeFrameId _) rfl
  | rejected => exact .rewired ⟨rfl, rfl, fun _ => rfl⟩ rfl
  | sent present own => exact .send laid fun mine => laid.alone _ _ present _ own mine
  | broadcast present own => exact .broadcast laid fun mine => laid.alone _ _ present _ own mine
  | waited idle =>
    exact .aside (.refl _) rfl (Simulator.Spares.wait _ _).retains fun _ _ live _ => live

/-- In operation the frames of a lane keep their order, and nodes their addresses. -/
theorem Operated.queued {link : Link} (operated : Operated start mesh turns)
    (reached : Reached injected start past) (queued : l.Queued link start) :
    l.Queued link mesh ∧
      ∀ j, (mesh.medium.node? j).map (·.addresses) = (start.medium.node? j).map (·.addresses) := by
  induction operated with
  | here => exact ⟨queued, fun _ => rfl⟩
  | attended before attended ih =>
    obtain ⟨_, there⟩ := before.reached reached
    obtain ⟨ordered, addresses⟩ := ih
    have feeds : l.Feeds _ _ := attended.feeds there.settled ordered.laid
    exact ⟨ordered.feeds feeds, fun j => (feeds.addresses j).trans (addresses j)⟩
  | fired before taken done ih =>
    obtain ⟨_, there⟩ := before.reached reached
    obtain ⟨ordered, addresses⟩ := ih
    have feeds : l.Feeds _ _ := there.settled.feeds_turn ordered.laid taken done
    exact ⟨(ordered.next? taken).feeds feeds, fun j => (feeds.addresses j).trans (addresses j)⟩

/-- When the first frame of a pair came to a node from a peer that still lacks its second, if there is
such a node. -/
def heard (mesh : Mesh) (id : NodeId) (peer : EtherAddress) : Option (Option Time) :=
  (mesh.medium.node? id).map (·.prober.markOf peer)

theorem heard_setNode {id : NodeId} {n n' : MeshNode} (present : mesh.medium.node? id = some n)
    (sim : Simulator MeshEvent) (j : NodeId) (peer : EtherAddress)
    (same : n'.prober.markOf peer = n.prober.markOf peer) :
    Mesh.heard ⟨sim, mesh.medium.setNode id n'⟩ j peer = mesh.heard j peer :=
  Network.map_setNode (·.prober.markOf peer) present same j

theorem heard_congr (nodes : mesh'.medium.nodes = mesh.medium.nodes) (j : NodeId)
    (peer : EtherAddress) : mesh'.heard j peer = mesh.heard j peer := by
  rw [heard, heard, Network.node?_congr nodes]

theorem Attended.heard (attended : Attended mesh mesh') (j : NodeId) (peer : EtherAddress) :
    mesh'.heard j peer = mesh.heard j peer := by
  cases attended with
  | started present =>
    simp only [startNode, present]
    refine heard_setNode present _ j peer ?_
    rfl
  | shutDown id =>
    unfold shutdownNode
    split
    · rfl
    · next n present =>
      refine heard_setNode present _ j peer ?_
      rfl
  | measured other now present =>
    exact heard_setNode present _ j peer (Prober.markOf_forwardDelay peer _ other now)
  | drained present =>
    refine heard_setNode present _ j peer ?_
    rfl
  | numbered => rfl
  | rejected => rfl
  | sent present own => exact heard_congr (Network.wiring_send _ _ mesh).nodes j peer
  | broadcast present own => exact heard_congr (Network.wiring_broadcast _ _ mesh).nodes j peer
  | waited idle => rfl

/-- What a node remembers of a peer changes by an event only if this hands it a frame of the peer, and a
first frame it remembers then. -/
theorem Settled.heard_turn (settled : mesh.Settled inUse fun _ => True)
    (taken : mesh.sim.next? limit = some (item, sim))
    (done : execute { mesh with sim } item.event = .ok mesh') (j : NodeId) (peer : EtherAddress) :
    ((∀ frame, item.event = .arrival j frame → frame.source ≠ peer) →
      mesh'.heard j peer = mesh.heard j peer) ∧
    ∀ frame n, item.event = .arrival j frame → frame.source = peer → frame.probeSeq? = some 1 →
      mesh.medium.node? j = some n → mesh'.heard j peer = some (some item.due) := by
  have begun := struck_wiring { mesh with sim } item.event
  rcases settled.event_cases taken done with
    ⟨absent, rfl⟩ | ⟨n, next, present, number, composed, tidy, takes, rfl⟩
  · refine ⟨fun _ => heard_congr begun.nodes j peer, fun frame n arrival _ _ there => ?_⟩
    rw [arrival] at absent
    cases absent.symm.trans there
  · obtain ⟨script, -, played⟩ := (composed.acts_onEvent takes).plays
    have wiring := wiring_play n.id script ⟨n.slots, struck { mesh with sim } item.event⟩
    rw [played] at wiring
    have nodes : next.2.medium.nodes = mesh.medium.nodes := wiring.nodes.trans begun.nodes
    have there := (Network.node?_congr nodes item.event.node).trans present
    have mark := MeshNode.markOf_onEvent peer takes
    refine ⟨fun aside => ?_, fun frame m arrival mine first _ => ?_⟩
    · by_cases here : j = item.event.node
      · subst here
        rw [← number] at aside
        exact (heard_setNode there _ _ peer (mark.1 aside)).trans (heard_congr nodes _ peer)
      · rw [heard, put, Network.node?_setNode_of_ne here, Network.node?_congr nodes]
        rfl
    · have here : item.event.node = j := by rw [arrival, MeshEvent.node]
      rw [here] at number there ⊢
      rw [heard, put, Network.node?_setNode_self (Network.node?_lt there), Option.map_some,
        mark.2 frame (number ▸ arrival) mine first]
      refine congrArg (fun time => some (some time)) ?_
      rw [Air.now, struck_sim]
      exact Simulator.next?_now taken

end Mesh

end WirelessMesh
