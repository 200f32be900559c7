import WirelessMesh.Proofs.Mesh.PairGap
import WirelessMesh.Proofs.Node.Dated
import WirelessMesh.Proofs.Simulation.Onward

namespace WirelessMesh

open Relation (ReflTransGen)

namespace Network

/-- A frame on a link arrives after it was sent, or is lost. -/
theorem schedules_transmit (id : LinkId) (frame : Frame) (air : Air Network) :
    ∃ events, air.sim.Schedules events (transmit id frame air).sim := by
  unfold transmit
  split
  · exact ⟨[], .refl _⟩
  · next link _ =>
    simp only
    split
    · exact ⟨[], .refl _⟩
    · have later := link.le_arrival air.now (UInt32.ofNat frame.size)
      exact ⟨_, Simulator.schedules_schedule later _⟩

private theorem schedules_sendCopy (source target : NodeId) (frame : Frame) (air : Air Network) :
    ∃ events, air.sim.Schedules events (sendCopy source target frame air).sim := by
  unfold sendCopy
  split
  · exact ⟨[], .refl _⟩
  · next id _ =>
    exact schedules_transmit id { frame with id := air.medium.takeFrameId.1 }
      { air with medium := air.medium.takeFrameId.2.count fun s =>
          { s with sentFrames := s.sentFrames + 1 } }

theorem schedules_broadcast (source : NodeId) (frame : Frame) (air : Air Network) :
    ∃ events, air.sim.Schedules events (broadcast source frame air).sim := by
  unfold broadcast
  generalize air.medium.neighbors source = targets
  induction targets generalizing air with
  | nil => exact ⟨[], .refl _⟩
  | cons target rest ih =>
    obtain ⟨_, first⟩ := schedules_sendCopy source target frame air
    obtain ⟨_, others⟩ := ih (sendCopy source target frame air)
    exact ⟨_, first.trans others⟩

theorem schedules_send (source : NodeId) (frame : Frame) (air : Air Network) :
    ∃ events, air.sim.Schedules events (send source frame air).sim := by
  unfold send
  split
  · exact schedules_broadcast source frame air
  · simp only
    split
    · next id _ =>
      exact schedules_transmit id frame
        { air with medium := air.medium.count fun s => { s with sentFrames := s.sentFrames + 1 } }
    · exact ⟨[], .refl _⟩

end Network

namespace Desk

private theorem schedules_perform (node : NodeId) (desk : Desk Network) (deed : Deed) :
    ∃ events, desk.air.sim.Schedules events (desk.perform node deed).air.sim := by
  cases deed with
  | post draft =>
    exact Network.schedules_send node (desk.air.medium.number draft).1
      { desk.air with medium := (desk.air.medium.number draft).2 }
  | announce draft =>
    exact Network.schedules_broadcast node (desk.air.medium.number draft).1
      { desk.air with medium := (desk.air.medium.number draft).2 }
  | reject frame => exact ⟨[], .refl _⟩
  | arm kind delay => exact TimerSlot.schedules_rearm _ _ _ _
  | disarm kind => exact ⟨[], TimerSlot.schedules_disarm _ _⟩
  | forget kind =>
    unfold perform
    simp only
    split
    · exact ⟨[], .refl _⟩
    · exact ⟨[], .refl _⟩

theorem schedules_play (node : NodeId) (script : List Deed) : ∀ desk : Desk Network,
    ∃ events, desk.air.sim.Schedules events (desk.play node script).air.sim := by
  induction script with
  | nil => exact fun _ => ⟨[], .refl _⟩
  | cons deed rest ih =>
    intro desk
    obtain ⟨_, first⟩ := desk.schedules_perform node deed
    obtain ⟨_, others⟩ := ih (desk.perform node deed)
    exact ⟨_, first.trans others⟩

end Desk

theorem MeshNode.Acts.schedules {allowed : Deed → Prop} {n n' : MeshNode} {mesh mesh' : Mesh}
    (acts : MeshNode.Acts allowed n mesh n' mesh') :
    ∃ events, mesh.sim.Schedules events mesh'.sim := by
  obtain ⟨script, -, played⟩ := acts.plays
  have scheduled := Desk.schedules_play n.id script ⟨n.slots, mesh⟩
  rw [played] at scheduled
  exact scheduled

namespace Mesh

variable {mesh mesh' : Mesh} {past : Past} {taken : NodeId → List RouteLogRecord} {id : NodeId}
  {n n' : MeshNode} {event : MeshEvent} {inUse : List NodeId} {limit : Option Time}
  {item : Scheduled MeshEvent} {sim : Simulator MeshEvent}

theorem Follows.schedules {script : List Deed} (acted : Follows mesh id script mesh') :
    ∃ events, mesh.sim.Schedules events mesh'.sim := by
  unfold Follows at acted
  split at acted
  · rw [acted.2]
    exact ⟨[], .refl _⟩
  · next n _ =>
    obtain ⟨n', mid, played, rfl⟩ := acted
    have scheduled := Desk.schedules_play id script ⟨n.slots, mesh⟩
    rw [played] at scheduled
    exact scheduled

/-- What can happen to a network at one time or on the way to the next event. Anyone may send any
frame, hand it over, or have it arrive at any time to come. -/
inductive Happens (mesh : Mesh) : Mesh → Prop
  | added {config : NodeConfig} {id : NodeId} {net : Network} (log : Bool)
      (done : mesh.medium.addNode (fun id => (MeshNode.create id config).map fun n =>
        if log then n.withRouteLog else n) = .ok (id, net)) :
      Happens mesh { mesh with medium := net }
  | connected {source target : NodeId} {latency : Time} {bandwidth loss : Nat} {id : LinkId}
      {net : Network} (done : mesh.medium.connect source target latency bandwidth loss = .ok (id, net)) :
      Happens mesh { mesh with medium := net }
  | modified {source target : NodeId} {change : Link → Link}
      (ends : ∀ link, (change link).source = link.source ∧ (change link).target = link.target) :
      Happens mesh { mesh with medium := (mesh.medium.modifyLink source target change).2 }
  | started {id : NodeId} {n : MeshNode} (present : mesh.medium.node? id = some n) :
      Happens mesh (mesh.startNode id).2
  | shutDown (id : NodeId) : Happens mesh (mesh.shutdownNode id).2
  | measured {id : NodeId} {n : MeshNode} (peer : EtherAddress) (moment : Time)
      (present : mesh.medium.node? id = some n) :
      Happens mesh (mesh.put id (n.linkReport peer moment).2)
  | numbered : Happens mesh { mesh with medium := mesh.medium.takeFrameId.2 }
  | rejected : Happens mesh { mesh with medium := mesh.medium.rejectFrame }
  | sent (source : NodeId) (frame : Frame) : Happens mesh (Network.send source frame mesh)
  | broadcast (source : NodeId) (frame : Frame) : Happens mesh (Network.broadcast source frame mesh)
  | scheduled {due : Time} (node : NodeId) (frame : Frame) (later : mesh.sim.now ≤ due) :
      Happens mesh { mesh with sim := (mesh.sim.schedule due (.arrival node frame)).2 }
  | delivered {node : NodeId} {frame : Frame} {mesh' : Mesh}
      (done : mesh.deliver node frame = .ok mesh') : Happens mesh mesh'
  | waited {limit : Time} (idle : mesh.sim.next? (some limit) = none) :
      Happens mesh { mesh with sim := { mesh.sim with now := max mesh.sim.now limit } }
  | fired {mesh' : Mesh} {limit : Option Time} {item : Scheduled MeshEvent}
      {sim : Simulator MeshEvent} (begins : mesh.sim.next? limit = some (item, sim))
      (done : execute { mesh with sim } item.event = .ok mesh') : Happens mesh mesh'

/-- The networks that can come about from nothing, with the lines that were taken from the log of each
node. -/
inductive Lived : Mesh → (NodeId → List RouteLogRecord) → Prop
  | empty : Lived .empty fun _ => []
  | happened {mesh mesh' : Mesh} {taken : NodeId → List RouteLogRecord} (lived : Lived mesh taken)
      (happens : Happens mesh mesh') : Lived mesh' taken
  | drained {mesh : Mesh} {taken : NodeId → List RouteLogRecord} {id : NodeId} {n : MeshNode}
      (lived : Lived mesh taken) (present : mesh.medium.node? id = some n) :
      Lived (mesh.put id { n with routes := n.routes.drainLog.2 })
        (Function.update taken id (taken id ++ n.routes.drainLog.1))

theorem Happens.reached (happens : Happens mesh mesh') (reached : Reached True mesh past) :
    ∃ past', Reached True mesh' past' := by
  cases happens with
  | added log done => exact ⟨_, reached.added log done⟩
  | connected done => exact ⟨_, reached.connected done⟩
  | modified ends => exact ⟨_, reached.modified ends⟩
  | started present => exact ⟨_, reached.started present⟩
  | shutDown id => exact ⟨_, reached.shutDown id⟩
  | measured peer moment present => exact ⟨_, reached.measured peer moment present⟩
  | numbered => exact ⟨_, reached.numbered⟩
  | rejected => exact ⟨_, reached.rejected⟩
  | sent source frame => exact ⟨_, reached.sent source frame⟩
  | broadcast source frame => exact ⟨_, reached.broadcast source frame⟩
  | scheduled node frame later => exact ⟨_, reached.scheduled trivial _ node frame⟩
  | delivered done =>
    obtain ⟨_, acted⟩ := (reached.settled.delivered done).follows
    exact ⟨_, reached.delivered trivial done acted⟩
  | waited idle => exact ⟨_, reached.waited idle⟩
  | fired begins done =>
    obtain ⟨past', after, -⟩ := reached.goes_on begins done
    exact ⟨past', after⟩

theorem Lived.reached (lived : Lived mesh taken) : ∃ past, Reached True mesh past := by
  induction lived with
  | empty => exact ⟨_, .empty⟩
  | happened _ happens ih =>
    obtain ⟨_, before⟩ := ih
    exact happens.reached before
  | drained _ present ih =>
    obtain ⟨_, before⟩ := ih
    exact ⟨_, before.drained present⟩

/-- Nothing is due in the past, and all that nodes have noted with the time is in order. -/
structure Dated (mesh : Mesh) (taken : NodeId → List RouteLogRecord) : Prop where
  timely : mesh.sim.Timely
  nodes : ∀ id n, mesh.medium.node? id = some n → n.Dated (taken id) mesh.sim.now
  untaken : ∀ id, mesh.medium.nodes.size ≤ id → taken id = []

namespace Dated

theorem rewired {net : Network} (dated : mesh.Dated taken) (nodes : net.nodes = mesh.medium.nodes) :
    Dated { mesh with medium := net } taken where
  timely := dated.timely
  nodes id n present := dated.nodes id n (Network.node?_congr nodes id ▸ present)
  untaken id beyond := dated.untaken id (nodes ▸ beyond)

theorem schedules {events : List (Scheduled MeshEvent)} (dated : mesh.Dated taken)
    (valid : mesh.sim.WellFormed) (scheduled : mesh.sim.Schedules events sim) :
    Dated { mesh with sim } taken where
  timely := scheduled.timely valid dated.timely
  nodes id n present := by
    have still : sim.now = mesh.sim.now := scheduled.now
    exact still.symm ▸ dated.nodes id n present
  untaken := dated.untaken

theorem carries {events : List (Scheduled MeshEvent)} (dated : mesh.Dated taken)
    (valid : mesh.sim.WellFormed) (scheduled : mesh.sim.Schedules events mesh'.sim)
    (nodes : mesh'.medium.nodes = mesh.medium.nodes) : mesh'.Dated taken :=
  (dated.schedules valid scheduled).rewired nodes

theorem node_replaced (dated : mesh.Dated taken) (present : mesh.medium.node? id = some n)
    (own : n'.Dated (taken id) mesh.sim.now) : (mesh.put id n').Dated taken where
  timely := dated.timely
  nodes j m found := by
    by_cases here : j = id
    · subst here
      cases (Network.node?_setNode_self (Network.node?_lt present) n').symm.trans found
      exact own
    · rw [Mesh.put, Network.node?_setNode_of_ne here] at found
      exact dated.nodes j m found
  untaken j beyond := dated.untaken j (by rwa [Mesh.put, Network.size_setNode] at beyond)

theorem added {config : NodeConfig} {log : Bool} {net : Network} (dated : mesh.Dated taken)
    (done : mesh.medium.addNode (fun id => (MeshNode.create id config).map fun n =>
      if log then n.withRouteLog else n) = .ok (id, net)) :
    Dated { mesh with medium := net } taken := by
  obtain ⟨n, created, rfl⟩ := Network.addNode_ok done
  refine ⟨dated.timely, fun j m present => ?_, fun j beyond => ?_⟩
  · rw [Network.node?_withNode] at present
    split at present
    · next here =>
      cases present
      rw [here, dated.untaken _ (Nat.le_refl _)]
      exact MeshNode.create_dated created log
    · exact dated.nodes j m present
  · rw [Network.size_withNode] at beyond
    exact dated.untaken j (Nat.le_of_succ_le beyond)

theorem waited {limit : Time} (dated : mesh.Dated taken) (valid : mesh.sim.WellFormed)
    (idle : mesh.sim.next? (some limit) = none) :
    Dated { mesh with sim := { mesh.sim with now := max mesh.sim.now limit } } taken where
  timely := dated.timely.wait valid idle
  nodes id n present := (dated.nodes id n present).later (by
    rw [Time.le_def, Time.ns_max]
    exact Nat.le_max_left _ _)
  untaken := dated.untaken

theorem next? (dated : mesh.Dated taken) (valid : mesh.sim.WellFormed)
    (begins : mesh.sim.next? limit = some (item, sim)) : Dated { mesh with sim } taken := by
  obtain ⟨timely, on⟩ := dated.timely.next? valid begins
  exact ⟨timely, fun id n present => (dated.nodes id n present).later on, dated.untaken⟩

/-- A node takes in an event, and notes what there is to note under the time of it. -/
theorem executed (dated : mesh.Dated taken) (valid : mesh.sim.WellFormed)
    (numbered : ∀ id n, mesh.medium.node? id = some n → n.id = id)
    (composed : ∀ id n, mesh.medium.node? id = some n → n.Composed)
    (done : execute mesh event = .ok mesh')
    (own : ∀ n next, mesh.medium.node? event.node = some n →
      n.onEvent (struck mesh event) event = .ok next →
        next.1.Dated (taken event.node) mesh.sim.now) : mesh'.Dated taken := by
  have wiring := struck_wiring mesh event
  have begun : (struck mesh event).Dated taken := by
    have still : mesh.sim.Schedules [] (struck mesh event).sim := (struck_sim mesh event).symm ▸ .refl _
    exact dated.carries valid still wiring.nodes
  rcases execute_ok done with ⟨-, rfl⟩ | ⟨n, next, present, takes, rfl⟩
  · exact begun
  · have carried := takes (numbered _ n present)
    have acts := (composed _ n present).acts_onEvent carried
    obtain ⟨_, scheduled⟩ := acts.schedules
    obtain ⟨script, -, played⟩ := acts.plays
    have rewired := wiring_play n.id script ⟨n.slots, struck mesh event⟩
    rw [played] at rewired
    have after := begun.carries ((struck_sim mesh event).symm ▸ valid) scheduled rewired.nodes
    have there := (Network.node?_congr rewired.nodes _).trans
      ((Network.node?_congr wiring.nodes _).trans present)
    refine after.node_replaced there ?_
    rw [scheduled.now, struck_sim]
    exact own n next present carried

theorem empty : Mesh.empty.Dated fun _ => [] where
  timely := .empty
  nodes _ _ present := absurd (Network.node?_lt present) (Nat.not_lt_zero _)
  untaken _ _ := rfl

theorem drained (dated : mesh.Dated taken) (present : mesh.medium.node? id = some n) :
    (mesh.put id { n with routes := n.routes.drainLog.2 }).Dated
      (Function.update taken id (taken id ++ n.routes.drainLog.1)) where
  timely := dated.timely
  nodes j m found := by
    by_cases here : j = id
    · subst here
      cases (Network.node?_setNode_self (Network.node?_lt present) _).symm.trans found
      rw [Function.update_self]
      exact (dated.nodes j n present).drained
    · rw [Mesh.put, Network.node?_setNode_of_ne here] at found
      rw [Function.update_of_ne here]
      exact dated.nodes j m found
  untaken j beyond := by
    rw [Mesh.put, Network.size_setNode] at beyond
    have other : j ≠ id := fun here =>
      Nat.lt_irrefl _ (Nat.lt_of_lt_of_le (Network.node?_lt present) (here ▸ beyond))
    rw [Function.update_of_ne other]
    exact dated.untaken j beyond

end Dated

theorem Settled.composed (settled : mesh.Settled inUse fun _ => True) (id : NodeId) (n : MeshNode)
    (present : mesh.medium.node? id = some n) : n.Composed :=
  (settled.nodes id n trivial present).ready.composed

/-- What a node starts with is scheduled from the current time on. -/
theorem Settled.schedules_startNode (settled : mesh.Settled inUse fun _ => True) (id : NodeId) :
    ∃ events, mesh.sim.Schedules events (mesh.startNode id).2.sim := by
  cases present : mesh.medium.node? id with
  | none =>
    simp only [startNode, present]
    exact ⟨[], .refl _⟩
  | some n =>
    have acts : MeshNode.Acts (Deed.Setting n.Dumps) n mesh (n.start mesh.sim).1
      ⟨(n.start mesh.sim).2, mesh.medium⟩ := (settled.composed id n present).acts_start
    simp only [startNode, present]
    exact acts.schedules

theorem Settled.schedules_shutdownNode (settled : mesh.Settled inUse fun _ => True) (id : NodeId) :
    ∃ events, mesh.sim.Schedules events (mesh.shutdownNode id).2.sim := by
  cases present : mesh.medium.node? id with
  | none =>
    simp only [shutdownNode, present]
    exact ⟨[], .refl _⟩
  | some n =>
    have acts : MeshNode.Acts Deed.Timing n mesh (n.shutdown mesh.sim).1
      ⟨(n.shutdown mesh.sim).2, mesh.medium⟩ := (settled.composed id n present).acts_shutdown
    simp only [shutdownNode, present]
    exact acts.schedules

theorem Dated.started (dated : mesh.Dated taken) (settled : mesh.Settled inUse fun _ => True)
    (present : mesh.medium.node? id = some n) : (mesh.startNode id).2.Dated taken := by
  obtain ⟨_, scheduled⟩ := settled.schedules_startNode id
  simp only [startNode, present] at scheduled ⊢
  refine (dated.schedules settled.valid scheduled).node_replaced present ?_
  rw [scheduled.now]
  exact (dated.nodes id n present).start _

theorem Dated.shutDown (dated : mesh.Dated taken) (settled : mesh.Settled inUse fun _ => True)
    (id : NodeId) : (mesh.shutdownNode id).2.Dated taken := by
  obtain ⟨_, scheduled⟩ := settled.schedules_shutdownNode id
  cases present : mesh.medium.node? id with
  | none =>
    simp only [shutdownNode, present]
    exact dated
  | some n =>
    simp only [shutdownNode, present] at scheduled ⊢
    refine (dated.schedules settled.valid scheduled).node_replaced present ?_
    rw [scheduled.now]
    exact (dated.nodes id n present).shutdown _

/-- A frame that is handed to a node is taken in at the current time. -/
theorem Dated.delivered {node : NodeId} {frame : Frame} (dated : mesh.Dated taken)
    (settled : mesh.Settled inUse fun _ => True) (done : mesh.deliver node frame = .ok mesh') :
    mesh'.Dated taken := by
  have executed : execute mesh (.arrival node frame) = .ok mesh' := done
  refine dated.executed settled.valid settled.numbered settled.composed executed
    fun n next present takes => ?_
  have here : node = n.id := (settled.numbered node n present).symm
  have own : n.Sound (struck mesh (.arrival node frame)).sim :=
    (settled.nodes node n trivial present).sound
  have before : n.Dated (taken node) (struck mesh (.arrival node frame)).now :=
    dated.nodes node n present
  rw [MeshNode.onEvent, if_pos here] at takes
  exact before.onFrame own takes

/-- An event that begins is carried out at the time it is due. -/
theorem Dated.fired (dated : mesh.Dated taken) (settled : mesh.Settled inUse fun _ => True)
    (begins : mesh.sim.next? limit = some (item, sim))
    (done : execute { mesh with sim } item.event = .ok mesh') : mesh'.Dated taken := by
  have valid := settled.valid
  refine (dated.next? valid begins).executed (valid.next? begins) settled.numbered settled.composed
    done fun n next present takes => ?_
  have own := settled.nodes _ n trivial present
  obtain ⟨-, on⟩ := dated.timely.next? valid begins
  have begins' : (struck mesh item.event).sim.next? limit = some (item, sim) := by
    rw [struck_sim]
    exact begins
  have before : n.Dated (taken item.event.node) (struck mesh item.event).now := by
    rw [Air.now, struck_sim]
    exact dated.nodes _ n present
  have sound : n.Sound (struck mesh item.event).sim := by
    rw [struck_sim]
    exact own.sound
  have on' : (struck mesh item.event).now ≤ sim.now := by
    rw [Air.now, struck_sim]
    exact on
  rw [struck_at] at takes
  exact before.onEvent sound on' begins' takes

theorem Happens.dated (happens : Happens mesh mesh') (settled : mesh.Settled inUse fun _ => True)
    (dated : mesh.Dated taken) : mesh'.Dated taken := by
  have valid := settled.valid
  cases happens with
  | added log done => exact dated.added done
  | connected done =>
    obtain ⟨link, -, -, -, rfl⟩ := Network.connect_ok done
    exact dated.rewired rfl
  | @modified source target change ends =>
    refine dated.rewired ?_
    unfold Network.modifyLink
    split <;> rfl
  | started present => exact dated.started settled present
  | shutDown id => exact dated.shutDown settled id
  | measured peer moment present =>
    exact dated.node_replaced present ((dated.nodes _ _ present).linkReport peer moment)
  | numbered => exact dated.rewired rfl
  | rejected => exact dated.rewired rfl
  | sent source frame =>
    obtain ⟨_, scheduled⟩ := Network.schedules_send source frame mesh
    exact dated.carries valid scheduled (Network.wiring_send source frame mesh).nodes
  | broadcast source frame =>
    obtain ⟨_, scheduled⟩ := Network.schedules_broadcast source frame mesh
    exact dated.carries valid scheduled (Network.wiring_broadcast source frame mesh).nodes
  | scheduled node frame later =>
    exact dated.schedules valid (Simulator.schedules_schedule later _)
  | delivered done => exact dated.delivered settled done
  | waited idle => exact dated.waited valid idle
  | fired begins done => exact dated.fired settled begins done

/-- Whatever happens, time goes on, and what is scheduled is due then or later. -/
theorem Happens.onward (happens : Happens mesh mesh') (settled : mesh.Settled inUse fun _ => True)
    (timely : mesh.sim.Timely) : ∃ events, mesh.sim.Onward events mesh'.sim := by
  have still : mesh.sim.now ≤ mesh.sim.now := Nat.le_refl _
  have quiet : mesh.sim.Onward [] mesh.sim := .of_now still rfl
  cases happens with
  | added log done => exact ⟨[], quiet⟩
  | connected done => exact ⟨[], quiet⟩
  | modified ends => exact ⟨[], quiet⟩
  | @started id n present =>
    obtain ⟨events, scheduled⟩ := settled.schedules_startNode id
    exact ⟨events, scheduled.onward still rfl⟩
  | shutDown id =>
    obtain ⟨events, scheduled⟩ := settled.schedules_shutdownNode id
    exact ⟨events, scheduled.onward still rfl⟩
  | measured peer moment present => exact ⟨[], quiet⟩
  | numbered => exact ⟨[], quiet⟩
  | rejected => exact ⟨[], quiet⟩
  | sent source frame =>
    obtain ⟨events, scheduled⟩ := Network.schedules_send source frame mesh
    exact ⟨events, scheduled.onward still rfl⟩
  | broadcast source frame =>
    obtain ⟨events, scheduled⟩ := Network.schedules_broadcast source frame mesh
    exact ⟨events, scheduled.onward still rfl⟩
  | scheduled node frame later =>
    exact ⟨_, (Simulator.schedules_schedule later _).onward still rfl⟩
  | delivered done =>
    obtain ⟨_, acted⟩ := (settled.delivered done).follows
    obtain ⟨events, scheduled⟩ := acted.schedules
    rw [struck_sim] at scheduled
    exact ⟨events, scheduled.onward still rfl⟩
  | @waited limit idle =>
    refine ⟨[], .of_now ?_ rfl⟩
    rw [Time.le_def, Time.ns_max]
    exact Nat.le_max_left _ _
  | fired begins done =>
    obtain ⟨-, on⟩ := timely.next? settled.valid begins
    obtain ⟨_, acted⟩ := (settled.fired begins done).follows
    obtain ⟨events, scheduled⟩ := acted.schedules
    rw [struck_sim] at scheduled
    exact ⟨events, scheduled.onward on (Simulator.next?_nextId begins)⟩

theorem Lived.dated (lived : Lived mesh taken) : mesh.Dated taken := by
  induction lived with
  | empty => exact .empty
  | happened before happens ih =>
    obtain ⟨_, reached⟩ := before.reached
    exact happens.dated reached.settled ih
  | drained _ present ih => exact ih.drained present

theorem Lived.onward (lived : Lived mesh taken) (happens : Happens mesh mesh') :
    ∃ events, mesh.sim.Onward events mesh'.sim := by
  obtain ⟨_, reached⟩ := lived.reached
  exact happens.onward reached.settled lived.dated.timely

theorem Lived.runs (lived : Lived mesh taken) (runs : ReflTransGen Happens mesh mesh') :
    Lived mesh' taken ∧ mesh.sim.now ≤ mesh'.sim.now := by
  induction runs with
  | refl => exact ⟨lived, Nat.le_refl _⟩
  | tail _ happens ih =>
    obtain ⟨before, on⟩ := ih
    obtain ⟨_, onward⟩ := before.onward happens
    exact ⟨before.happened happens, Nat.le_trans on onward.clock⟩

private theorem happens_fired : KeptByEvents (ReflTransGen Happens mesh) :=
  fun _ _ _ _ _ events begins carried => events.tail (.fired begins carried)

private theorem happens_runUntil {limit : Time} (done : mesh.runUntil limit = .ok mesh') :
    ReflTransGen Happens mesh mesh' :=
  runUntil_keeps happens_fired (fun events idle => events.tail (.waited idle)) .refl done

theorem happens_startAll (mesh : Mesh) : ReflTransGen Happens mesh mesh.startAll :=
  startAll_keeps (fun events present => events.tail (.started present)) .refl

/-- Time never runs backwards, whatever is done to a network and whatever frames there are. Nothing
that is to come is due in the past. What each node has noted is in order: the lines of its log,
whenever they are taken, the delays that each peer has reported, and the arrivals of discovery frames.
In each step time goes on, and each event that is scheduled in it, whose number is given out then, is
in the queue for that time or later. Starting all nodes and running up to any time are such steps. -/
theorem time_never_runs_backwards (lived : Lived mesh taken) :
    (∀ x ∈ mesh.sim.live, mesh.sim.now ≤ x.due) ∧
    (∀ id n, mesh.medium.node? id = some n →
      InOrder ((taken id ++ n.routes.drainLog.1).map (·.time)) mesh.sim.now ∧
      ∀ peer, InOrder ((n.prober.sampler.reported peer).reverse.map (·.seenAt)) mesh.sim.now ∧
        InOrder (n.rates.arrivalsOf peer) mesh.sim.now) ∧
    (∀ mesh', Happens mesh mesh' → ∃ events, mesh.sim.Onward events mesh'.sim) ∧
    ReflTransGen Happens mesh mesh.startAll ∧
    (∀ limit mesh', mesh.runUntil limit = .ok mesh' → ReflTransGen Happens mesh mesh') ∧
    ∀ mesh', ReflTransGen Happens mesh mesh' → Lived mesh' taken ∧ mesh.sim.now ≤ mesh'.sim.now := by
  have dated := lived.dated
  refine ⟨dated.timely, fun id n present => ?_, fun _ => lived.onward, happens_startAll mesh,
    fun _ _ => happens_runUntil, fun _ => lived.runs⟩
  have own := dated.nodes id n present
  rw [RouteTable.drainLog_fst]
  exact ⟨own.lines, fun peer => ⟨own.reports peer, own.arrivals peer⟩⟩

/-- The settings of a node that writes its routes to its log twice a second. -/
def dumping (i : Nat) : NodeConfig :=
  { NodeConfig.ofIndex i with routing := { logDumpMillis := some 500 } }

def join (i : Nat) (net : Network) : Option Network :=
  (net.addNode fun id => (MeshNode.create id (dumping i)).map fun n =>
    if true then n.withRouteLog else n).toOption.map (·.2)

def loggedPair : Option Mesh := do
  let net ← join 0 .empty
  let net ← join 1 net
  let (_, net) ← (net.connect 0 1 (.ofMillis 5) 1_000_000 0).toOption
  let (_, net) ← (net.connect 1 0 (.ofMillis 5) 1_000_000 0).toOption
  return startAll ⟨.empty, net⟩

/-- A run in the middle of which the lines of the log of the first node are taken. -/
structure LoggedRun where
  start : Mesh
  mid : Mesh
  node : MeshNode
  last : Mesh
  /-- The first node at the end. -/
  after : MeshNode

def loggedRun : Option LoggedRun := do
  let start ← loggedPair
  let (_, mid) ← carryOutMany 12 start
  let node ← mid.medium.node? 0
  let (_, last) ← carryOutMany 12 (mid.put 0 { node with routes := node.routes.drainLog.2 })
  let after ← last.medium.node? 0
  return ⟨start, mid, node, last, after⟩

theorem Lived.join {i : Nat} {net : Network} (lived : Lived mesh taken)
    (done : Mesh.join i mesh.medium = some net) : Lived { mesh with medium := net } taken := by
  obtain ⟨⟨_, _⟩, added, rfl⟩ := Option.map_eq_some_iff.mp done
  exact lived.happened (.added true (ok_of_toOption added))

theorem Lived.carryOutMany (count : Nat) {turns : List Turn} (lived : Lived mesh taken)
    (done : Mesh.carryOutMany count mesh = some (turns, mesh')) : Lived mesh' taken := by
  have fired : KeptByEvents (Lived · taken) := fun _ _ _ _ _ before begins carried =>
    before.happened (.fired begins carried)
  exact carryOutMany_keeps fired count lived done

private theorem loggedPair_lived (made : loggedPair = some mesh) : Lived mesh fun _ => [] := by
  unfold loggedPair at made
  obtain ⟨_, first, made⟩ := Option.bind_eq_some_iff.mp made
  obtain ⟨_, second, made⟩ := Option.bind_eq_some_iff.mp made
  obtain ⟨⟨_, _⟩, forth, made⟩ := Option.bind_eq_some_iff.mp made
  obtain ⟨⟨_, _⟩, back, made⟩ := Option.bind_eq_some_iff.mp made
  cases made
  have nodes := (Lived.empty.join first).join second
  have linked := (nodes.happened (.connected (ok_of_toOption forth))).happened
    (.connected (ok_of_toOption back))
  exact (linked.runs (happens_startAll _)).1

private theorem loggedRun_lived {r : LoggedRun} (ran : loggedRun = some r) :
    r.last.medium.node? 0 = some r.after ∧
      Lived r.last (Function.update (fun _ => []) 0 r.node.routes.drainLog.1) := by
  unfold loggedRun at ran
  obtain ⟨_, paired, ran⟩ := Option.bind_eq_some_iff.mp ran
  obtain ⟨⟨_, _⟩, early, ran⟩ := Option.bind_eq_some_iff.mp ran
  obtain ⟨_, present, ran⟩ := Option.bind_eq_some_iff.mp ran
  obtain ⟨⟨_, _⟩, late, ran⟩ := Option.bind_eq_some_iff.mp ran
  obtain ⟨_, present', ran⟩ := Option.bind_eq_some_iff.mp ran
  cases ran
  have before := (loggedPair_lived paired).carryOutMany 12 early
  exact ⟨present', (before.drained present).carryOutMany 12 late⟩

private theorem loggedRun_seen : loggedRun.map (fun r => (r.node.routes.drainLog.1.length,
    r.after.routes.drainLog.1.length, (r.after.prober.sampler.reported (.ofIndex 1)).length,
    (r.after.rates.arrivalsOf (.ofIndex 1)).length)) = some (2, 1, 1, 1) := by
  decide +kernel

/-- Two lines that were taken from a log and one that was not, a delay that was reported and a discovery
frame: all in order. -/
theorem two_nodes_note_in_order : ∃ (mesh : Mesh) (taken : NodeId → List RouteLogRecord) (n : MeshNode),
    Lived mesh taken ∧ mesh.medium.node? 0 = some n ∧
      ((taken 0).length = 2 ∧ n.routes.drainLog.1.length = 1 ∧
        (n.prober.sampler.reported (.ofIndex 1)).length = 1 ∧
        (n.rates.arrivalsOf (.ofIndex 1)).length = 1) ∧
      InOrder ((taken 0 ++ n.routes.drainLog.1).map (·.time)) mesh.sim.now ∧
      mesh.sim.now ≤ mesh.startAll.sim.now := by
  obtain ⟨r, ran, seen⟩ := Option.map_eq_some_iff.mp loggedRun_seen
  obtain ⟨taken, seen⟩ := Prod.mk.inj seen
  obtain ⟨left, seen⟩ := Prod.mk.inj seen
  obtain ⟨reported, heard⟩ := Prod.mk.inj seen
  obtain ⟨present, lived⟩ := loggedRun_lived ran
  obtain ⟨-, nodes, -, starts, -, on⟩ := time_never_runs_backwards lived
  refine ⟨_, _, _, lived, present, ⟨?_, left, reported, heard⟩, (nodes 0 _ present).1,
    (on _ starts).2⟩
  rw [Function.update_self]
  exact taken

end Mesh

end WirelessMesh
