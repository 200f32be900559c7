import WirelessMesh.Proofs.Mesh.Abreast

namespace WirelessMesh

/-- Nodes that differ in the numbers of their timers do the same when events begin that differ in the
number of a frame. -/
theorem MeshNode.Paired.onEvent {alike : Desk Network → Desk Network → Prop} {n m : MeshNode}
    {mesh mesh' : Mesh} {event event' : MeshEvent} (paired : Paired alike n mesh m mesh')
    (composed : n.Composed) (same : event'.plain = event.plain) :
    Agree (PairedAgain alike) (n.onEvent mesh event) (m.onEvent mesh' event') := by
  have number := paired.twins.id
  cases event with
  | timer node kind =>
    cases event' with
    | arrival _ _ => cases same
    | timer node' kind' =>
      cases same
      simp only [MeshNode.onEvent, number]
      split
      · exact paired.onTimer composed
      · exact .ok paired
  | arrival node frame =>
    cases event' with
    | timer _ _ => cases same
    | arrival node' frame' =>
      obtain ⟨rfl, plain⟩ := MeshEvent.arrival.inj same
      -- No part of a node looks at the number of a frame.
      have numberless : m.onFrame frame' mesh' = m.onFrame frame mesh' :=
        show m.onFrame frame'.plain mesh' = m.onFrame frame.plain mesh' by rw [plain]
      simp only [MeshNode.onEvent, number, numberless]
      split
      · exact paired.onFrame composed
      · exact .ok paired

namespace Mesh

variable {home : NodeId → Prop} {mesh mesh' mid after' : Mesh} {id : NodeId} {n n' m : MeshNode}
  {allowed allowed' : Deed → Prop} {next next' : MeshNode × Mesh} {event : MeshEvent}
  {limit : Option Time} {item : Scheduled MeshEvent} {sim : Simulator MeshEvent}
  {inUse inUse' : List NodeId} {injected : Prop}

theorem struck_medium (mesh : Mesh) (event : MeshEvent) :
    struck mesh event = { mesh with medium := (struck mesh event).medium } := by
  cases event <;> rfl

theorem struck_links (mesh : Mesh) (event : MeshEvent) :
    (struck mesh event).medium.links = mesh.medium.links := by
  cases event <;> rfl

private theorem execute_absent (absent : (struck mesh event).medium.node? event.node = none) :
    mesh.execute event = .ok (struck mesh event) := by
  obtain ⟨act, carried, -⟩ := execute_eq mesh event
  rw [carried, withNode, absent]

private theorem execute_present (present : (struck mesh event).medium.node? event.node = some n)
    (number : n.id = event.node) :
    mesh.execute event = (n.onEvent (struck mesh event) event).map fun next =>
      put next.2 event.node next.1 := by
  obtain ⟨act, carried, own⟩ := execute_eq mesh event
  rw [carried, withNode, present, own n _ number]
  rfl

theorem wiring_plays {desk desk' : Desk Network} (plays : Plays id allowed desk desk') :
    desk.air.medium.SameWiring desk'.air.medium := by
  obtain ⟨script, -, rfl⟩ := plays
  exact wiring_play id script desk

theorem node?_back (present : mesh.medium.node? id = some n)
    (acts : MeshNode.Acts allowed n mesh n' mid) (j : NodeId) :
    (put mid id n').medium.node? j = if j = id then some n' else mesh.medium.node? j := by
  have nodes := (wiring_plays acts.plays).nodes
  have within : id < mid.medium.nodes.size :=
    Network.node?_lt ((Network.node?_congr nodes id).trans present)
  by_cases here : j = id
  · rw [if_pos here, here]
    exact Network.node?_setNode_self within n'
  · rw [if_neg here, put, Network.node?_setNode_of_ne here]
    exact Network.node?_congr nodes j

theorem layout_back (present : mesh.medium.node? id = some n)
    (acts : MeshNode.Acts allowed n mesh n' mid) :
    mid.medium.SameLayout (put mid id n').medium :=
  .node_replaced ((Network.node?_congr (wiring_plays acts.plays).nodes id).trans present) acts.addresses

/-- The nodes of a network are the same on an island, but for the numbers of their timers. -/
def SameNodes (home : NodeId → Prop) (mesh mesh' : Mesh) : Prop :=
  ∀ id, home id → Option.Rel MeshNode.Twins (mesh.medium.node? id) (mesh'.medium.node? id)

namespace SameNodes

theorem congr {start start' : Mesh} (same : SameNodes home mesh mesh')
    (nodes : start.medium.nodes = mesh.medium.nodes)
    (nodes' : start'.medium.nodes = mesh'.medium.nodes) : SameNodes home start start' := by
  intro id mine
  rw [Network.node?_congr nodes, Network.node?_congr nodes']
  exact same id mine

theorem absent (same : SameNodes home mesh mesh') (mine : home id)
    (absent : mesh'.medium.node? id = none) : mesh.medium.node? id = none := by
  have twins := same id mine
  rw [absent] at twins
  generalize mesh.medium.node? id = found at twins
  cases twins
  rfl

theorem present (same : SameNodes home mesh mesh') (mine : home id)
    (present : mesh'.medium.node? id = some m) :
    ∃ n, mesh.medium.node? id = some n ∧ n.Twins m := by
  have twins := same id mine
  rw [present] at twins
  generalize mesh.medium.node? id = found at twins
  cases twins with
  | some twins => exact ⟨_, rfl, twins⟩

theorem twin (same : SameNodes home mesh mesh') (mine : home id)
    (present : mesh.medium.node? id = some n) :
    ∃ m, mesh'.medium.node? id = some m ∧ n.Twins m := by
  have twins := same id mine
  rw [present] at twins
  generalize mesh'.medium.node? id = found at twins
  cases twins with
  | some twins => exact ⟨_, rfl, twins⟩

end SameNodes

/-- The nodes of a network, what is to come for them and their links are the same on an island. -/
structure Alike (home : NodeId → Prop) [DecidablePred home] (mesh mesh' : Mesh) : Prop where
  island : Island home mesh mesh'
  nodes : SameNodes home mesh mesh'

variable [DecidablePred home]

theorem paired (abreast : Abreast home mesh mesh') (twins : n.Twins m)
    (within : n.id < mesh.medium.nodes.size) (tidy : Desk.Tidy n.id ⟨n.slots, mesh⟩)
    (tidy' : Desk.Tidy m.id ⟨m.slots, mesh'⟩) :
    MeshNode.Paired (AbreastDesks home n.id) n mesh m mesh' :=
  ⟨AbreastDesks.tandem home n.id, twins, abreast, within, tidy, twins.id ▸ tidy'⟩

namespace Alike

theorem acted (nodes : SameNodes home mesh mesh')
    (present : mesh.medium.node? id = some n) (present' : mesh'.medium.node? id = some m)
    (acts : MeshNode.Acts allowed n mesh next.1 next.2)
    (acts' : MeshNode.Acts allowed' m mesh' next'.1 next'.2)
    {node : NodeId} (paired : MeshNode.PairedAgain (AbreastDesks home node) next next') :
    Alike home (put next.2 id next.1) (put next'.2 id next'.1) where
  island := paired.desks.airs.toIsland.relaid (layout_back present acts) (layout_back present' acts')
    rfl rfl
  nodes j mine := by
    rw [node?_back present acts, node?_back present' acts']
    split
    · exact .some paired.twins
    · exact nodes j mine

theorem beside (alike : Alike home mesh mesh') (foreign : ¬ home id)
    (present : mesh'.medium.node? id = some m) (number : m.id = id)
    (tidy : Desk.Tidy m.id ⟨m.slots, mesh'⟩) (acts : MeshNode.Acts allowed m mesh' n' mid) :
    Alike home mesh (put mid id n') where
  island := by
    have leads : mesh'.medium.LeadsTo m.id fun id => ¬ home id := fun link target ends =>
      mt (alike.island.parted.apart link m.id target ends).mpr (number ▸ foreign)
    have away : ¬ home m.id := number ▸ foreign
    have confined := Confined.plays acts.plays tidy away alike.island.parted.wired' leads
    exact (alike.island.beside away confined).relaid (.of_wiring (.refl _)) (layout_back present acts)
      rfl rfl
  nodes j mine := by
    have other : j ≠ id := fun same => foreign (same ▸ mine)
    rw [node?_back present acts, if_neg other]
    exact alike.nodes j mine

theorem begins (alike : Alike home mesh mesh') (taken : mesh'.sim.next? limit = some (item, sim))
    (mine : home item.event.node) : ∃ first start, mesh.sim.next? limit = some (first, start) ∧
      first.event.node = item.event.node ∧ item.event.plain = first.event.plain ∧
      Abreast home (struck { mesh with sim := start } first.event)
        (struck { mesh' with sim } item.event) := by
  obtain ⟨valid, valid', parted, links, certain, visible, seen⟩ := alike.island
  have shows : item.event.view home = some item.event.plain :=
    MeshEvent.view_eq_some_iff.mpr ⟨mine, rfl⟩
  obtain ⟨first, start, began, due, looks, later⟩ := Simulator.next?_some_of_seen valid valid' seen
    (fun x live => MeshEvent.isSome_view.mpr (visible x live)) taken shows
  obtain ⟨-, same⟩ := MeshEvent.view_eq_some_iff.mp looks
  have node : first.event.node = item.event.node := by
    have plain (event : MeshEvent) : event.plain.node = event.node := by cases event <;> rfl
    rw [← plain, same, plain]
  refine ⟨first, start, began, node, same.symm, ?_⟩
  have now : sim.now = start.now := by
    rw [Simulator.next?_now taken, Simulator.next?_now began, due]
  have poised : Abreast home { mesh with sim := start } { mesh' with sim } :=
    { valid := valid.next? began
      valid' := valid'.next? taken
      parted := parted
      links := links
      certain := certain
      visible := fun x live => visible x ((valid.mem_next? began).mp live).1
      seen := later
      now := now }
  rw [struck_medium, struck_medium { mesh' with sim }]
  exact poised.rewired (struck_wiring _ _) (struck_wiring _ _) (struck_links _ _) (struck_links _ _)

/-- An event of the island is carried out in both networks. -/
theorem fired (alike : Alike home mesh mesh') (settled : mesh.Settled inUse fun _ => True)
    (settled' : mesh'.Settled inUse' fun _ => True)
    (taken : mesh'.sim.next? limit = some (item, sim)) (mine : home item.event.node)
    (done : execute { mesh' with sim } item.event = .ok after') :
    ∃ first start after, mesh.sim.next? limit = some (first, start) ∧
      execute { mesh with sim := start } first.event = .ok after ∧ Alike home after after' := by
  obtain ⟨first, start, began, node, same, abreast⟩ := alike.begins taken mine
  have nodes : SameNodes home (struck { mesh with sim := start } first.event)
      (struck { mesh' with sim } item.event) :=
    alike.nodes.congr (struck_wiring _ _).nodes (struck_wiring _ _).nodes
  have there := Network.node?_congr (struck_wiring { mesh with sim := start } first.event).nodes
  have there' := Network.node?_congr (struck_wiring { mesh' with sim } item.event).nodes
  rcases settled'.event_cases taken done with
    ⟨absent', rfl⟩ | ⟨m, next', present', -, composed', tidy', takes', rfl⟩
  · have absent := nodes.absent mine ((there' _).trans absent')
    exact ⟨first, start, _, began, execute_absent (node ▸ absent), abreast.toIsland, nodes⟩
  · have present' := (there' _).trans present'
    obtain ⟨n, present, twins⟩ := nodes.present mine present'
    rw [← node] at present present' ⊢
    have here : mesh.medium.node? first.event.node = some n := (there _).symm.trans present
    have ready := (settled.nodes _ n trivial here).ready.next? began
    have number : n.id = first.event.node := settled.numbered _ n here
    have tidy : Desk.Tidy n.id ⟨n.slots, struck { mesh with sim := start } first.event⟩ := by
      rw [struck_at]
      exact ready.tidy _
    have paired := Mesh.paired abreast twins (number ▸ Network.node?_lt present) tidy tidy'
    obtain ⟨next, takes, paired⟩ := (paired.onEvent ready.composed same).answered takes'
    refine ⟨first, start, put next.2 first.event.node next.1, began, ?_, ?_⟩
    · rw [execute_present present number, takes]
      rfl
    · exact .acted nodes present present' (ready.composed.acts_onEvent takes)
        (composed'.acts_onEvent takes') paired

/-- An event of another node is carried out in the larger network. -/
theorem passed (alike : Alike home mesh mesh') (settled' : mesh'.Settled inUse' fun _ => True)
    (taken : mesh'.sim.next? limit = some (item, sim)) (foreign : ¬ home item.event.node)
    (done : execute { mesh' with sim } item.event = .ok after') : Alike home mesh after' := by
  obtain ⟨valid, valid', parted, links, certain, visible, seen⟩ := alike.island
  have later : sim.seen (MeshEvent.view home) = mesh.sim.seen (MeshEvent.view home) :=
    (Simulator.seen_next?_none valid' taken (MeshEvent.view_foreign foreign)).trans seen
  have begun : Island home mesh { mesh' with sim } :=
    ⟨valid, valid'.next? taken, parted, links, certain, visible, later⟩
  have same : mesh'.medium.SameWiring (struck { mesh' with sim } item.event).medium :=
    struck_wiring { mesh' with sim } item.event
  have hit : Alike home mesh (struck { mesh' with sim } item.event) := by
    refine ⟨?_, alike.nodes.congr rfl same.nodes⟩
    have island := begun.relaid (.of_wiring (.refl _)) (.of_wiring same) rfl
      (struck_links { mesh' with sim } item.event)
    rwa [← struck_medium] at island
  rcases settled'.event_cases taken done with
    ⟨-, rfl⟩ | ⟨m, next, present, number, composed, tidy, takes, rfl⟩
  · exact hit
  · have present := (Network.node?_congr same.nodes _).trans present
    exact hit.beside foreign present number tidy (composed.acts_onEvent takes)

theorem startNode_eq (present : mesh.medium.node? id = some n) :
    (mesh.startNode id).2 = put ⟨(n.start mesh.sim).2, mesh.medium⟩ id (n.start mesh.sim).1 := by
  simp only [startNode, present]
  rfl

theorem started (alike : Alike home mesh mesh') (settled : mesh.Settled inUse fun _ => True)
    (settled' : mesh'.Settled inUse' fun _ => True) (now : mesh'.sim.now = mesh.sim.now)
    (present : mesh.medium.node? id = some n) (present' : mesh'.medium.node? id = some m) :
    Alike home (mesh.startNode id).2 (mesh'.startNode id).2 ∧
      (mesh'.startNode id).2.sim.now = (mesh.startNode id).2.sim.now := by
  have own := settled.nodes id n trivial present
  have own' := settled'.nodes id m trivial present'
  have within := Network.node?_lt present
  have number := settled.numbered id n present
  obtain ⟨n', there, twins⟩ := alike.nodes.present (alike.island.parted.homes id within) present'
  cases present.symm.trans there
  have abreast : Abreast home mesh mesh' := { alike.island with now := now }
  have paired := Mesh.paired abreast twins (number ▸ within) (own.ready.tidy mesh.medium)
    (own'.ready.tidy mesh'.medium)
  have both := paired.start own.ready.composed
  rw [startNode_eq present, startNode_eq present']
  exact ⟨.acted alike.nodes present present' own.ready.composed.acts_start
    own'.ready.composed.acts_start both, both.desks.airs.now⟩

theorem startedBeside (alike : Alike home mesh mesh') (settled' : mesh'.Settled inUse' fun _ => True)
    (foreign : ¬ home id) (present' : mesh'.medium.node? id = some m) :
    Alike home mesh (mesh'.startNode id).2 := by
  have ready := (settled'.nodes id m trivial present').ready
  have acts : MeshNode.Acts (Deed.Setting m.Dumps) m mesh' (m.start mesh'.sim).1
    ⟨(m.start mesh'.sim).2, mesh'.medium⟩ := ready.composed.acts_start
  rw [startNode_eq present']
  exact alike.beside foreign present' (settled'.numbered id m present') (ready.tidy mesh'.medium) acts

end Alike

end Mesh

end WirelessMesh
