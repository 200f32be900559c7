import WirelessMesh.Proofs.Mesh.Run
import WirelessMesh.Proofs.Node.Settled
import WirelessMesh.Proofs.Route.Run
import WirelessMesh.Proofs.Simulation.Slices

/-!
The timers of a whole network. Main statement: between events, the live timers of a node are exactly
those that it holds, one for each purpose that recurs and each usable route, and none is left of them
after its shutdown.
-/
namespace WirelessMesh

namespace Network

variable {net net' : Network} {id j : NodeId} {n m : MeshNode}

theorem node?_lt (present : net.node? id = some n) : id < net.nodes.size :=
  (Array.getElem?_eq_some_iff.mp present).1

theorem node?_of_lt (within : id < net.nodes.size) : ∃ n, net.node? id = some n :=
  ⟨_, Array.getElem?_eq_getElem within⟩

theorem node?_setNode_self (within : id < net.nodes.size) (n : MeshNode) :
    (net.setNode id n).node? id = some n := by
  simp [node?, setNode, within]

theorem node?_setNode_of_ne (other : j ≠ id) (n : MeshNode) :
    (net.setNode id n).node? j = net.node? j := by
  simp [node?, setNode, other.symm]

theorem size_setNode (id : NodeId) (n : MeshNode) :
    (net.setNode id n).nodes.size = net.nodes.size := by
  simp [setNode]

/-- What the node in the place of another shares with it, all nodes do as before. -/
theorem map_setNode {α : Type*} (view : MeshNode → α) (present : net.node? id = some n)
    (same : view m = view n) (j : NodeId) :
    ((net.setNode id m).node? j).map view = (net.node? j).map view := by
  by_cases here : j = id
  · subst here
    rw [node?_setNode_self (node?_lt present), present, Option.map_some, Option.map_some, same]
  · rw [node?_setNode_of_ne here]

theorem node?_congr (same : net'.nodes = net.nodes) (id : NodeId) :
    net'.node? id = net.node? id := by
  rw [node?, node?, same]

def withNode (net : Network) (n : MeshNode) : Network :=
  { net with nodes := net.nodes.push n, outlets := net.outlets.push [] }

theorem node?_withNode (net : Network) (n : MeshNode) (id : NodeId) :
    (net.withNode n).node? id = if id = net.nodes.size then some n else net.node? id :=
  Array.getElem?_push

theorem size_withNode (net : Network) (n : MeshNode) :
    (net.withNode n).nodes.size = net.nodes.size + 1 := Array.size_push _

theorem addNode_ok {config : NodeConfig} {log : Bool}
    (done : net.addNode (fun id => (MeshNode.create id config).map fun n =>
      if log then n.withRouteLog else n) = .ok (id, net')) :
    ∃ n, MeshNode.create net.nodes.size config = .ok n ∧
      net' = net.withNode (if log then n.withRouteLog else n) := by
  obtain ⟨built, made, same⟩ := ok_of_bind done
  obtain ⟨n, created, rfl⟩ := ok_of_map made
  exact ⟨n, created, (Prod.mk.inj (Except.ok.inj same)).2.symm⟩

end Network

def MeshEvent.IsTimer (event : MeshEvent) : Prop := ∃ id kind, event = .timer id kind

theorem MeshEvent.IsArrival.not_timer {event : MeshEvent} (arrival : event.IsArrival) :
    ¬ event.IsTimer := by
  rintro ⟨id, kind, rfl⟩
  exact arrival

namespace Mesh

/-- The nodes of a network between events, but for some that are still at work. -/
structure Settled (mesh : Mesh) (inUse : List NodeId) (atRest : NodeId → Prop) : Prop where
  valid : mesh.sim.WellFormed
  numbered : ∀ id n, mesh.medium.node? id = some n → n.id = id
  nodes : ∀ id n, atRest id → mesh.medium.node? id = some n → n.Settled (id ∈ inUse) mesh.sim
  homes : ∀ x ∈ mesh.sim.live, ∀ id kind, x.event = .timer id kind → id < mesh.medium.nodes.size
  present : ∀ id ∈ inUse, id < mesh.medium.nodes.size

variable {mesh mesh' : Mesh} {inUse inUse' : List NodeId} {atRest : NodeId → Prop} {id : NodeId}
  {n n' : MeshNode}

theorem Settled.spares (settled : mesh.Settled inUse atRest)
    (nodes : mesh'.medium.nodes = mesh.medium.nodes)
    (spares : mesh.sim.Spares MeshEvent.IsTimer mesh'.sim) : mesh'.Settled inUse atRest where
  valid := spares.valid settled.valid
  numbered id n present := settled.numbered id n (Network.node?_congr nodes id ▸ present)
  nodes id n rest present := by
    rw [Network.node?_congr nodes] at present
    exact (settled.nodes id n rest present).spares (spares.mono fun _ ⟨kind, mine⟩ => ⟨_, kind, mine⟩)
  homes x live id kind timer := by
    rw [nodes]
    exact settled.homes x ((spares.same settled.valid x ⟨id, kind, timer⟩).mp live) id kind timer
  present id used := nodes ▸ settled.present id used

theorem Settled.next? {limit : Option Time} {item : Scheduled MeshEvent}
    {sim : Simulator MeshEvent} (settled : mesh.Settled inUse fun _ => True)
    (taken : mesh.sim.next? limit = some (item, sim)) :
    Settled { mesh with sim } inUse (· ≠ item.event.node) where
  valid := settled.valid.next? taken
  numbered := settled.numbered
  nodes id n other present := by
    have mine := settled.numbered id n present
    refine (settled.nodes id n trivial present).spares (.next? taken ?_)
    rintro ⟨kind, timer⟩
    exact other (by rw [timer, MeshEvent.node, mine])
  homes x live := settled.homes x ((settled.valid.mem_next? taken).mp live).1
  present := settled.present

/-- A node acts, and takes its place again when it has done so. -/
theorem Settled.act (settled : mesh.Settled inUse (· ≠ id)) (present : mesh.medium.node? id = some n)
    (nodes : mesh'.medium.nodes = mesh.medium.nodes)
    (changes : mesh.sim.Changes (Acting id) mesh'.sim) (number : n'.id = id)
    (own : n'.Settled (id ∈ inUse') mesh'.sim)
    (others : ∀ j, j ≠ id → (j ∈ inUse' ↔ j ∈ inUse)) :
    (put mesh' id n').Settled inUse' fun _ => True := by
  have within : id < mesh'.medium.nodes.size := nodes ▸ Network.node?_lt present
  have same (j : NodeId) := Network.node?_congr nodes j
  have size : (put mesh' id n').medium.nodes.size = mesh.medium.nodes.size := by
    rw [put, Network.size_setNode, nodes]
  refine ⟨changes.valid settled.valid, fun j m found => ?_, fun j m _ found => ?_,
    fun x live j kind timer => ?_, fun j used => ?_⟩
  · by_cases here : j = id
    · subst here
      cases (Network.node?_setNode_self within n').symm.trans found
      exact number
    · rw [put, Network.node?_setNode_of_ne here, same] at found
      exact settled.numbered j m found
  · by_cases here : j = id
    · subst here
      cases (Network.node?_setNode_self within n').symm.trans found
      exact own
    · rw [put, Network.node?_setNode_of_ne here, same] at found
      have mine := settled.numbered j m found
      refine ((settled.nodes j m here found).unused (others j here).mp).spares (changes.spares ?_)
      rintro _ (⟨kind, rfl⟩ | arrival) ⟨kind', timer⟩
      · exact here (mine.symm.trans (MeshEvent.timer.inj timer).1.symm)
      · rw [timer] at arrival
        exact arrival
  · rw [size]
    by_cases here : j = id
    · exact here ▸ Network.node?_lt present
    · refine settled.homes x ((changes.foreign_iff settled.valid ?_).mp live) j kind timer
      rintro (⟨kind', mine⟩ | arrival)
      · exact here (MeshEvent.timer.inj (timer.symm.trans mine)).1
      · exact arrival.not_timer ⟨j, kind, timer⟩
  · rw [size]
    by_cases here : j = id
    · exact here ▸ Network.node?_lt present
    · exact settled.present j ((others j here).mp used)

theorem Settled.others_at_rest (settled : mesh.Settled inUse fun _ => True) (id : NodeId) :
    mesh.Settled inUse (· ≠ id) :=
  ⟨settled.valid, settled.numbered, fun j n _ => settled.nodes j n trivial, settled.homes,
    settled.present⟩

/-- What has nothing to do with nodes and the simulator may change. -/
theorem Settled.rewired {net : Network} (settled : mesh.Settled inUse atRest)
    (nodes : net.nodes = mesh.medium.nodes) : Settled { mesh with medium := net } inUse atRest := by
  have still : mesh.sim.Changes (fun _ => False) mesh.sim := .refl _
  exact settled.spares nodes (still.spares fun _ never => never.elim)

theorem Settled.carries (settled : mesh.Settled inUse atRest)
    (nodes : mesh'.medium.nodes = mesh.medium.nodes)
    (changes : mesh.sim.Changes MeshEvent.IsArrival mesh'.sim) : mesh'.Settled inUse atRest :=
  settled.spares nodes (changes.spares fun _ => MeshEvent.IsArrival.not_timer)

theorem Settled.replaced (settled : mesh.Settled inUse fun _ => True)
    (present : mesh.medium.node? id = some n) (number : n'.id = n.id)
    (config : n'.routes.config = n.routes.config) (slots : n'.slots = n.slots)
    (sound : n.Sound mesh.sim → n'.Sound mesh.sim) :
    (put mesh id n').Settled inUse fun _ => True := by
  have own := settled.nodes id n trivial present
  refine (settled.others_at_rest id).act present rfl (.refl _)
    (number.trans (settled.numbered id n present)) ?_ fun _ _ => Iff.rfl
  exact own.congr (fun used => used) (sound own.sound) number config slots

theorem Settled.added {config : NodeConfig} {log : Bool} {net : Network}
    (settled : mesh.Settled inUse fun _ => True)
    (done : mesh.medium.addNode (fun id => (MeshNode.create id config).map fun n =>
      if log then n.withRouteLog else n) = .ok (id, net)) :
    Settled { mesh with medium := net } inUse fun _ => True := by
  obtain ⟨n, created, rfl⟩ := Network.addNode_ok done
  have free : ∀ x ∈ mesh.sim.live, ∀ kind, x.event ≠ .timer mesh.medium.nodes.size kind :=
    fun x live kind timer => Nat.lt_irrefl _ (settled.homes x live _ kind timer)
  have fresh : mesh.medium.nodes.size ∉ inUse := fun used =>
    Nat.lt_irrefl _ (settled.present _ used)
  have plain := MeshNode.create_settled created settled.valid free fresh
  have number := (MeshNode.made_of_create created).number
  have own : (if log then n.withRouteLog else n).Settled (mesh.medium.nodes.size ∈ inUse)
      mesh.sim := by
    cases log with
    | false => exact plain
    | true => exact plain.withRouteLog
  have number' : (if log then n.withRouteLog else n).id = mesh.medium.nodes.size := by
    cases log with
    | false => exact number
    | true => exact number
  generalize (if log then n.withRouteLog else n) = built at own number' ⊢
  have more : ∀ {j : NodeId}, j < mesh.medium.nodes.size →
      j < (mesh.medium.withNode built).nodes.size := fun within => by
    rw [Network.size_withNode]
    exact Nat.lt_succ_of_lt within
  refine ⟨settled.valid, fun j m present => ?_, fun j m _ present => ?_,
    fun x live j kind timer => more (settled.homes x live j kind timer),
    fun j used => more (settled.present j used)⟩
  · rw [Network.node?_withNode] at present
    split at present
    · next here =>
      cases present
      rw [here, number']
    · exact settled.numbered j m present
  · rw [Network.node?_withNode] at present
    split at present
    · next here =>
      cases present
      rw [here]
      exact own
    · exact settled.nodes j m trivial present

theorem Settled.started (settled : mesh.Settled inUse fun _ => True)
    (present : mesh.medium.node? id = some n) :
    (mesh.startNode id).2.Settled (id :: inUse) fun _ => True := by
  have own := settled.nodes id n trivial present
  have number := settled.numbered id n present
  have begun : (mesh.startNode id).2 =
      put { mesh with sim := (n.start mesh.sim).2 } id (n.start mesh.sim).1 := by
    simp only [startNode, present]
    rfl
  have changes : mesh.sim.Changes (Acting id) (n.start mesh.sim).2 :=
    own.changes_start.mono fun _ mine => .inl (number ▸ mine)
  rw [begun]
  refine (settled.others_at_rest id).act present rfl changes number (own.start _) fun j other => ?_
  rw [List.mem_cons, or_iff_right other]

theorem Settled.shutDown (settled : mesh.Settled inUse fun _ => True) (id : NodeId) :
    (mesh.shutdownNode id).2.Settled (inUse.filter (· ≠ id)) fun _ => True := by
  have fewer (j : NodeId) : j ∈ inUse.filter (· ≠ id) ↔ j ∈ inUse ∧ j ≠ id := by simp
  cases present : mesh.medium.node? id with
  | none =>
    have ended : (mesh.shutdownNode id).2 = mesh := by simp only [shutdownNode, present]
    rw [ended]
    exact ⟨settled.valid, settled.numbered,
      fun j n _ found => (settled.nodes j n trivial found).unused fun used => ((fewer j).mp used).1,
      settled.homes, fun j used => settled.present j ((fewer j).mp used).1⟩
  | some n =>
    have own := settled.nodes id n trivial present
    have number := settled.numbered id n present
    have ended : (mesh.shutdownNode id).2 =
        put { mesh with sim := (n.shutdown mesh.sim).2 } id (n.shutdown mesh.sim).1 := by
      simp only [shutdownNode, present]
      rfl
    have changes : mesh.sim.Changes (Acting id) (n.shutdown mesh.sim).2 :=
      own.changes_shutdown.mono fun _ mine => .inl (number ▸ mine)
    rw [ended]
    refine (settled.others_at_rest id).act present rfl changes number
      (own.shutdown fun used => ((fewer id).mp used).2 rfl) fun j other => ?_
    rw [fewer, and_iff_left other]

/-- Deeds have no say in which nodes and links there are. -/
theorem wiring_perform (id : NodeId) (desk : Desk Network) (deed : Deed) :
    desk.air.medium.SameWiring (desk.perform id deed).air.medium := by
  cases deed with
  | post draft =>
    have numbered : desk.air.medium.SameWiring (desk.air.medium.number draft).2 :=
      .takeFrameId _
    exact numbered.trans (Network.wiring_send _ _ ⟨desk.air.sim, _⟩)
  | announce draft =>
    have numbered : desk.air.medium.SameWiring (desk.air.medium.number draft).2 :=
      .takeFrameId _
    exact numbered.trans (Network.wiring_broadcast _ _ ⟨desk.air.sim, _⟩)
  | reject frame => exact ⟨rfl, rfl, fun _ => rfl⟩
  | arm kind delay => exact .refl _
  | disarm kind => exact .refl _
  | forget kind =>
    unfold Desk.perform
    simp only
    split
    · exact .refl _
    · exact .refl _

theorem wiring_play (id : NodeId) (script : List Deed) : ∀ desk : Desk Network,
    desk.air.medium.SameWiring (desk.play id script).air.medium := by
  induction script with
  | nil => exact fun _ => .refl _
  | cons deed rest ih => exact fun desk => (wiring_perform id desk deed).trans (ih _)

/-- A network after a node has acted by its deeds: the nodes are settled and have their addresses. -/
structure Acted (mesh mesh' : Mesh) (inUse : List NodeId) (id : NodeId) : Prop where
  settled : mesh'.Settled inUse fun _ => True
  addresses : ∀ j, (mesh'.medium.node? j).map (·.addresses) = (mesh.medium.node? j).map (·.addresses)
  follows : ∃ script, Follows mesh id script mesh'

/-- A node takes something in, by deeds, and takes its place again. -/
theorem Settled.takes {next : MeshNode × Mesh} (settled : mesh.Settled inUse (· ≠ id))
    (present : mesh.medium.node? id = some n) (ready : n.Ready mesh.sim)
    (acts : MeshNode.Acts (Deed.Ordinary n.Dumps n.Signs) n mesh next.1 next.2)
    (own : next.1.Settled (id ∈ inUse) next.2.sim) :
    Acted mesh (put next.2 id next.1) inUse id := by
  have number := settled.numbered id n present
  have changes := acts.plays.changes (ready.tidy mesh.medium)
  rw [number] at changes
  obtain ⟨script, -, played⟩ := acts.plays
  have wiring := wiring_play n.id script ⟨n.slots, mesh⟩
  rw [played] at wiring
  refine ⟨settled.act present wiring.nodes changes (acts.id.trans number) own fun _ _ => Iff.rfl,
    fun j => ?_, script, ?_⟩
  · have there := (Network.node?_congr wiring.nodes id).trans present
    rw [put, Network.map_setNode (·.addresses) there acts.addresses, Network.node?_congr wiring.nodes]
  · rw [Follows, present, ← number]
    exact ⟨next.1, next.2, played, rfl⟩

/-- An event is carried out by deeds of its node, which is settled again when it has done so. -/
theorem Settled.executed {event : MeshEvent}
    (begun : (struck mesh event).Settled inUse (· ≠ event.node))
    (done : execute mesh event = .ok mesh')
    (own : ∀ n next, mesh.medium.node? event.node = some n → n.id = event.node →
      n.onEvent (struck mesh event) event = .ok next →
        n.Ready (struck mesh event).sim ∧ next.1.Settled (event.node ∈ inUse) next.2.sim) :
    Acted (struck mesh event) mesh' inUse event.node := by
  have same := Network.node?_congr (struck_wiring mesh event).nodes event.node
  rcases execute_ok done with ⟨none, rfl⟩ | ⟨n, next, present, takes, rfl⟩
  · have nobody := same.trans none
    refine ⟨⟨begun.valid, begun.numbered, fun j m _ found => begun.nodes j m ?_ found,
      begun.homes, begun.present⟩, fun _ => rfl, [], ?_⟩
    · rintro rfl
      cases nobody.symm.trans found
    · rw [Follows, nobody]
      exact ⟨rfl, rfl⟩
  · have number := begun.numbered _ n (same.trans present)
    have carried := takes number
    obtain ⟨ready, settled⟩ := own n next present number carried
    exact begun.takes (same.trans present) ready (ready.composed.acts_onEvent carried) settled

theorem Settled.fired {limit : Option Time} {item : Scheduled MeshEvent}
    {sim : Simulator MeshEvent} (settled : mesh.Settled inUse fun _ => True)
    (taken : mesh.sim.next? limit = some (item, sim))
    (done : execute { mesh with sim } item.event = .ok mesh') :
    Acted (struck { mesh with sim } item.event) mesh' inUse item.event.node := by
  have taken' : (struck mesh item.event).sim.next? limit = some (item, sim) := by
    rw [struck_sim]
    exact taken
  refine Settled.executed ?_ done fun n next present _ carried => ?_
  · rw [struck_at]
    exact (settled.next? taken).rewired (struck_wiring mesh item.event).nodes
  · rw [struck_at] at carried ⊢
    have own : n.Settled (item.event.node ∈ inUse) (struck mesh item.event).sim := by
      rw [struck_sim]
      exact settled.nodes _ n trivial present
    exact ⟨own.ready.next? taken', own.onEvent taken' carried⟩

theorem Settled.delivered {frame : Frame} (settled : mesh.Settled inUse fun _ => True)
    (done : mesh.deliver id frame = .ok mesh') :
    Acted (struck mesh (.arrival id frame)) mesh' inUse id := by
  have executed : execute mesh (.arrival id frame) = .ok mesh' := done
  refine Settled.executed ?_ executed fun n next present number carried => ?_
  · exact (settled.others_at_rest id).rewired (struck_wiring mesh (.arrival id frame)).nodes
  · have own : n.Settled (id ∈ inUse) (struck mesh (.arrival id frame)).sim :=
      settled.nodes id n trivial present
    have here : id = n.id := number.symm
    rw [MeshNode.onEvent, if_pos here] at carried
    exact ⟨own.ready, own.onFrame carried⟩

theorem Settled.empty : Mesh.empty.Settled [] fun _ => True where
  valid := Simulator.empty_wellFormed
  numbered _ _ present := absurd (Network.node?_lt present) (Nat.not_lt_zero _)
  nodes _ _ _ present := absurd (Network.node?_lt present) (Nat.not_lt_zero _)
  homes _ live := absurd live List.not_mem_nil
  present _ used := absurd used List.not_mem_nil

/-- In every network that can be reached all nodes are settled. -/
theorem Reached.settled {injected : Prop} {past : Past} (reached : Reached injected mesh past) :
    mesh.Settled past.inUse fun _ => True := by
  induction reached with
  | empty => exact .empty
  | added log _ done ih => exact ih.added done
  | connected _ done ih =>
    unfold Network.connect at done
    split at done
    · cases done
      exact ih.rewired rfl
    · cases done
  | @modified mesh _ source target change _ ends ih =>
    refine ih.rewired ?_
    unfold Network.modifyLink
    split <;> rfl
  | started _ present ih => exact ih.started present
  | shutDown id _ ih => exact ih.shutDown id
  | measured peer now _ present ih =>
    exact ih.replaced present rfl rfl rfl fun sound => sound.linkReport peer now
  | @drained mesh _ id n _ present ih =>
    obtain ⟨log, same⟩ := n.routes.drainLog_eq
    have sound (whole : n.Sound mesh.sim) := whole.routed (.of_drainLog whole.routes)
    rw [same] at sound ⊢
    exact ih.replaced present rfl rfl rfl sound
  | numbered _ ih => exact ih.rewired rfl
  | rejected _ ih => exact ih.rewired rfl
  | @sent mesh _ source frame _ ih =>
    exact ih.carries (Network.wiring_send source frame mesh).nodes
      (Network.changes_send source frame mesh)
  | @broadcast mesh _ source frame _ ih =>
    exact ih.carries (Network.wiring_broadcast source frame mesh).nodes
      (Network.changes_broadcast source frame mesh)
  | waited _ _ ih => exact ih.spares rfl (.wait _ _)
  | fired _ taken done _ ih =>
    exact (ih.fired taken done).settled
  | scheduled _ due node frame _ ih =>
    exact ih.spares rfl (.schedule _ due (MeshEvent.IsArrival.not_timer trivial))
  | delivered _ _ done _ ih => exact (ih.delivered done).settled

variable {injected : Prop} {past : Past}

theorem Reached.goes_on {limit : Option Time} {item : Scheduled MeshEvent}
    {sim : Simulator MeshEvent} (reached : Reached injected mesh past)
    (taken : mesh.sim.next? limit = some (item, sim))
    (done : execute { mesh with sim } item.event = .ok mesh') :
    ∃ past', Reached injected mesh' past' ∧ past'.inUse = past.inUse := by
  obtain ⟨script, follows⟩ := (reached.settled.fired taken done).follows
  exact ⟨_, reached.fired taken done follows, rfl⟩

theorem world_step_ok {event : MeshEvent} {sim sim' : Simulator MeshEvent} {net net' : Network}
    (done : world.step event sim net = .ok (sim', net')) :
    execute ⟨sim, net⟩ event = .ok ⟨sim', net'⟩ := by
  obtain ⟨⟨midSim, midNet⟩, carried, ticked⟩ := ok_of_map done
  obtain ⟨after, executed, same⟩ := ok_of_map carried
  cases same
  cases ticked
  exact executed

def KeptByEvents (P : Mesh → Prop) : Prop :=
  ∀ ⦃mesh mesh' : Mesh⦄ ⦃limit : Option Time⦄ ⦃item : Scheduled MeshEvent⦄
    ⦃sim : Simulator MeshEvent⦄, P mesh → mesh.sim.next? limit = some (item, sim) →
      execute { mesh with sim } item.event = .ok mesh' → P mesh'

private theorem drain_keeps {P : Mesh → Prop} {limit : Time} {sim : Simulator MeshEvent} {net : Network}
    (fired : KeptByEvents P) (steps : Nat) {mesh : Mesh} (holds : P mesh)
    (done : world.drain (some limit) steps mesh.sim mesh.medium = .ok (sim, net)) :
    P ⟨sim, net⟩ ∧ sim.next? (some limit) = none := by
  obtain ⟨first, start⟩ := mesh
  induction steps, first, start using world.drain_induct (some limit) with
  | stop steps first start stopped =>
    rw [World.drain_of_none stopped] at done
    cases done
    exact ⟨holds, stopped⟩
  | cut first start next taken =>
    rw [World.drain_zero taken] at done
    cases done
  | fault steps first start next cause taken failed =>
    rw [World.drain_fault taken failed] at done
    cases done
  | step steps first start next after taken stepped ih =>
    rw [World.drain_step taken stepped] at done
    exact ih (fired holds taken (world_step_ok stepped)) done

/-- What every event keeps, and the wait at the end, is kept by a run up to some time. -/
theorem runUntil_keeps {P : Mesh → Prop} {limit : Time} (fired : KeptByEvents P)
    (waited : ∀ {mesh : Mesh}, P mesh → mesh.sim.next? (some limit) = none →
      P { mesh with sim := { mesh.sim with now := max mesh.sim.now limit } })
    (holds : P mesh) (done : mesh.runUntil limit = .ok mesh') : P mesh' := by
  obtain ⟨⟨sim, net⟩, ran, rfl⟩ := ok_of_map done
  obtain ⟨⟨sim', net'⟩, drained, same⟩ := ok_of_map ran
  obtain ⟨ended, idle⟩ := drain_keeps fired _ holds drained
  cases same
  exact waited ended idle

theorem startAll_keeps {P : Mesh → Prop}
    (started : ∀ {mesh : Mesh} {id : NodeId} {n : MeshNode}, P mesh →
      mesh.medium.node? id = some n → P (mesh.startNode id).2) (holds : P mesh) : P mesh.startAll := by
  unfold startAll
  generalize mesh.medium.nodeIds = ids
  induction ids generalizing mesh with
  | nil => exact holds
  | cons id rest ih =>
    refine ih ?_
    cases present : mesh.medium.node? id with
    | none =>
      simp only [startNode, present]
      exact holds
    | some n => exact started holds present

theorem size_startNode (mesh : Mesh) (id : NodeId) :
    (mesh.startNode id).2.medium.nodes.size = mesh.medium.nodes.size := by
  unfold startNode
  split
  · rfl
  · exact Network.size_setNode _ _

theorem Reached.startNodes (ids : List NodeId) :
    ∀ {mesh : Mesh} {past : Past}, Reached injected mesh past →
      (∀ id ∈ ids, id < mesh.medium.nodes.size) →
      ∃ past', Reached injected (ids.foldl (fun mesh id => (startNode mesh id).2) mesh) past' ∧
        ∀ id, id ∈ ids ∨ id ∈ past.inUse → id ∈ past'.inUse := by
  induction ids with
  | nil => exact fun reached _ => ⟨_, reached, fun _ used => used.resolve_left List.not_mem_nil⟩
  | cons id rest ih =>
    intro mesh past reached within
    obtain ⟨n, present⟩ := Network.node?_of_lt (within id List.mem_cons_self)
    have later : ∀ j ∈ rest, j < (mesh.startNode id).2.medium.nodes.size := fun j member => by
      rw [size_startNode]
      exact within j (List.mem_cons_of_mem _ member)
    obtain ⟨past', ended, used⟩ := ih (reached.started present) later
    refine ⟨past', ended, fun j mine => used j ?_⟩
    rcases mine with here | before
    · exact (List.mem_cons.mp here).elim (fun same => .inr (same ▸ List.mem_cons_self)) .inl
    · exact .inr (List.mem_cons_of_mem _ before)

theorem Reached.startAll (reached : Reached injected mesh past) :
    ∃ past', Reached injected mesh.startAll past' ∧
      ∀ id, id < mesh.medium.nodes.size → id ∈ past'.inUse := by
  obtain ⟨past', ended, used⟩ := reached.startNodes mesh.medium.nodeIds
    fun id member => List.mem_range.mp member
  exact ⟨past', ended, fun id within => used id (.inl (List.mem_range.mpr within))⟩

/-- The live timers of a node for one purpose. -/
def liveTimers (mesh : Mesh) (id : NodeId) (kind : TimerKind) : Nat :=
  mesh.sim.live.countP fun x => x.event = .timer id kind

theorem liveTimers_eq (own : n.Settled (id ∈ inUse) mesh.sim) (number : n.id = id)
    (kind : TimerKind) :
    liveTimers mesh id kind = if (n.slots kind).isArmed mesh.sim then 1 else 0 := by
  subst number
  exact (own.ready.holds kind).count own.ready.valid

private theorem liveTimers_le (own : n.Settled (id ∈ inUse) mesh.sim) (number : n.id = id)
    (kind : TimerKind) : liveTimers mesh id kind ≤ 1 := by
  rw [liveTimers_eq own number]
  split
  · exact Nat.le_refl 1
  · exact Nat.zero_le 1

theorem liveTimers_recurring (own : n.Settled (id ∈ inUse) mesh.sim) (number : n.id = id)
    (used : id ∈ inUse) {kind : TimerKind} (recurs : n.Recurs kind) :
    liveTimers mesh id kind = 1 := by
  rw [liveTimers_eq own number, if_pos (own.steady used kind recurs)]

private theorem liveTimers_dump (own : n.Settled (id ∈ inUse) mesh.sim) (number : n.id = id)
    (used : id ∈ inUse) :
    liveTimers mesh id .routeDump = if n.routes.config.logDumpMillis.isSome then 1 else 0 := by
  split
  · next dumps => exact liveTimers_recurring own number used dumps
  · next silent => rw [liveTimers_eq own number, if_neg (own.ready.silent silent)]

private theorem liveTimers_expiry (own : n.Settled (id ∈ inUse) mesh.sim) (number : n.id = id) (ip : IPv4) :
    liveTimers mesh id (.expiry ip) = if ip ∈ n.routes.goodDestinations then 1 else 0 := by
  have count := own.sound.routes.count_expiry ip
  rw [own.sound.node, number] at count
  exact count

/-- No timer of a node that has been shut down is left, nor is there any of a node that is not. -/
private theorem Settled.live_shutdownNode (settled : mesh.Settled inUse fun _ => True) (id : NodeId)
    {x : Scheduled MeshEvent} (live : x ∈ (mesh.shutdownNode id).2.sim.live) (kind : TimerKind) :
    x.event ≠ .timer id kind := by
  intro timer
  cases present : mesh.medium.node? id with
  | none =>
    simp only [shutdownNode, present] at live
    obtain ⟨n, found⟩ := Network.node?_of_lt (settled.homes x live id kind timer)
    cases present.symm.trans found
  | some n =>
    simp only [shutdownNode, present] at live
    have mine : n.Mine x.event := ⟨kind, by rw [timer, settled.numbered id n present]⟩
    exact (settled.nodes id n trivial present).live_shutdown live mine

/-- Between events the timers of a node that are to fire are those that its slots hold, one for each
usable route and none for other destinations. In use it has one for each purpose that recurs, that of
the log of whole tables if there is to be one. Once it is shut down none of them is left. -/
theorem timers_exact (reached : Reached injected mesh past) (id : NodeId) :
    (∀ n, mesh.medium.node? id = some n →
      (∀ kind timer, (n.slots kind = some timer ∧ timer.isArmed mesh.sim = true) ↔
        ∃ x ∈ mesh.sim.live, x.event = .timer id kind ∧ timer = ⟨x.id, x.due⟩) ∧
      (∀ kind, liveTimers mesh id kind ≤ 1) ∧
      (∀ ip, liveTimers mesh id (.expiry ip) = if ip ∈ n.routes.goodDestinations then 1 else 0) ∧
      (id ∈ past.inUse →
        liveTimers mesh id .discovery = 1 ∧ liveTimers mesh id .probeRound = 1 ∧
        liveTimers mesh id .advert = 1 ∧
        liveTimers mesh id .routeDump =
          if n.routes.config.logDumpMillis.isSome then 1 else 0)) ∧
    ∀ x ∈ (mesh.shutdownNode id).2.sim.live, ∀ kind, x.event ≠ .timer id kind := by
  have settled := reached.settled
  refine ⟨fun n present => ?_, fun x live kind => settled.live_shutdownNode id live kind⟩
  have own := settled.nodes id n trivial present
  have number := settled.numbered id n present
  refine ⟨fun kind timer => ?_, liveTimers_le own number, liveTimers_expiry own number,
    fun used => ⟨liveTimers_recurring own number used trivial,
      liveTimers_recurring own number used trivial, liveTimers_recurring own number used trivial,
      liveTimers_dump own number used⟩⟩
  rw [← number]
  exact (own.ready.holds kind).armed_iff own.ready.valid

/-- The node of a number joins a network as the last one, if that is its number. -/
theorem Reached.joined (reached : Reached injected mesh past)
    (valid : (MeshNode.create mesh.medium.nodes.size (.ofIndex mesh.medium.nodes.size)).isOk = true) :
    ∃ n : MeshNode, n.eth = .ofIndex mesh.medium.nodes.size ∧
      Reached injected { mesh with medium := mesh.medium.withNode n } past := by
  obtain ⟨n, done⟩ := ok_of_isOk valid
  have added : mesh.medium.addNode (fun id => (MeshNode.create id
      (.ofIndex mesh.medium.nodes.size)).map fun n => if false then n.withRouteLog else n) =
      .ok (mesh.medium.nodes.size, mesh.medium.withNode n) := by
    simp only [Network.addNode, done]
    rfl
  exact ⟨n, (MeshNode.made_of_create done).eth, reached.added false added⟩

theorem reached_pair : ∃ n m : MeshNode, m.eth = .ofIndex 1 ∧
    Reached injected ⟨.empty, { Network.empty with nodes := #[n, m], outlets := #[[], []] }⟩ {} := by
  have nobody : Reached injected Mesh.empty {} := .empty
  have first : (MeshNode.create 0 (.ofIndex 0)).isOk = true := by rfl
  have second : (MeshNode.create 1 (.ofIndex 1)).isOk = true := by rfl
  obtain ⟨n, -, single⟩ := nobody.joined first
  obtain ⟨m, eth, pair⟩ := single.joined second
  exact ⟨n, m, eth, pair⟩

/-- Two nodes that have been started: both have their timers, until one is shut down. -/
theorem started_pair_timers :
    ∃ (mesh : Mesh) (past : Past), Reached False mesh past ∧
      (∀ id, id < 2 → id ∈ past.inUse ∧ liveTimers mesh id .discovery = 1 ∧
        liveTimers mesh id .probeRound = 1 ∧ liveTimers mesh id .advert = 1) ∧
      ∀ x ∈ (mesh.shutdownNode 0).2.sim.live, ∀ kind, x.event ≠ .timer 0 kind := by
  obtain ⟨n, m, -, pair⟩ := reached_pair
  obtain ⟨past, started, used⟩ := pair.startAll
  refine ⟨_, past, started, fun id within => ?_, (timers_exact started 0).2⟩
  have inUse := used id within
  obtain ⟨n, present⟩ := Network.node?_of_lt (started.settled.present id inUse)
  obtain ⟨discovery, probeRound, advert, -⟩ := ((timers_exact started id).1 n present).2.2.2 inUse
  exact ⟨inUse, discovery, probeRound, advert⟩

end Mesh

end WirelessMesh
