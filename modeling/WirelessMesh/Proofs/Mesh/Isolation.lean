import WirelessMesh.Proofs.Mesh.Islands

/-!
Islands in a run. Further nodes are added to a network, with links among themselves but none to the nodes
that were there. Main statement: from the start of all nodes on, whatever the further ones do, the nodes of
the first network come to the same state as in a run without them.
-/
namespace WirelessMesh

namespace Network

/-- A network to which nodes are added, and links that come out of these. -/
inductive Annexed (net : Network) : Network → Prop
  | alone : Annexed net net
  | joined {mid last : Network} {config : NodeConfig} {id : NodeId} (log : Bool)
      (annexed : Annexed net mid)
      (done : mid.addNode (fun id => (MeshNode.create id config).map fun n =>
        if log then n.withRouteLog else n) = .ok (id, last)) : Annexed net last
  | linked {mid last : Network} {source target : NodeId} {latency : Time} {bandwidth loss : Nat}
      {id : LinkId} (annexed : Annexed net mid) (further : net.nodes.size ≤ source)
      (done : mid.connect source target latency bandwidth loss = .ok (id, last)) : Annexed net last

/-- Whether a number is that of a node that was added. -/
def Added (net net' : Network) (id : NodeId) : Prop := net.nodes.size ≤ id ∧ id < net'.nodes.size

instance (net net' : Network) : DecidablePred (Added net net') := fun _ =>
  inferInstanceAs (Decidable (_ ∧ _))

/-- A network that has nodes and links more, the links out of the new nodes. -/
structure Extends (net net' : Network) : Prop where
  size : net.nodes.size ≤ net'.nodes.size
  outletsSize : net'.outlets.size = net'.nodes.size
  nodes : ∀ id, id < net.nodes.size → net'.node? id = net.node? id
  outlets : ∀ id, id < net.nodes.size → net'.outletsOf id = net.outletsOf id
  kept : ∀ (id : LinkId) (link : Link), net.links[id]? = some link → net'.links[id]? = some link
  fresh : ∀ (id : LinkId) (link : Link), net'.links[id]? = some link →
    net.links[id]? = some link ∨ Added net net' link.source

variable {net net' mid last : Network} {id : NodeId}

theorem Extends.joined (more : net.Extends mid) (n : MeshNode) : net.Extends (mid.withNode n) where
  size := by
    rw [size_withNode]
    exact Nat.le_succ_of_le more.size
  outletsSize := by
    rw [size_withNode, ← more.outletsSize]
    exact Array.size_push _
  nodes id within := by
    rw [node?_withNode, if_neg (Nat.ne_of_lt (Nat.lt_of_lt_of_le within more.size))]
    exact more.nodes id within
  outlets id within := by
    have old : id ≠ mid.outlets.size :=
      more.outletsSize ▸ Nat.ne_of_lt (Nat.lt_of_lt_of_le within more.size)
    rw [← more.outlets id within, outletsOf, outletsOf, withNode, Array.getElem?_push, if_neg old]
  kept := more.kept
  fresh id link present := (more.fresh id link present).imp_right fun added => by
    rw [Added, size_withNode]
    exact ⟨added.1, Nat.lt_succ_of_lt added.2⟩

theorem Extends.linked (more : net.Extends mid) (link : Link) (further : net.nodes.size ≤ link.source)
    (present : link.source < mid.outlets.size) : net.Extends (mid.withLink link) where
  size := more.size
  outletsSize := (Array.size_modify ..).trans more.outletsSize
  nodes := more.nodes
  outlets id within := by
    have other : link.source ≠ id := (Nat.ne_of_lt (Nat.lt_of_lt_of_le within further)).symm
    rw [← more.outlets id within, outletsOf, outletsOf, withLink, Array.getElem?_modify, if_neg other]
  kept id known there := by
    have before := more.kept id known there
    have within := (Array.getElem?_eq_some_iff.mp before).1
    rw [withLink, Array.getElem?_push, if_neg (Nat.ne_of_lt within)]
    exact before
  fresh id known there := by
    rw [withLink, Array.getElem?_push] at there
    split at there
    · cases there
      exact .inr ⟨further, more.outletsSize ▸ present⟩
    · exact more.fresh id known there

theorem Annexed.extends (annexed : net.Annexed net') (sized : net.outlets.size = net.nodes.size) :
    net.Extends net' := by
  induction annexed with
  | alone =>
    exact ⟨Nat.le_refl _, sized, fun _ _ => rfl, fun _ _ => rfl, fun _ _ there => there,
      fun _ _ there => .inl there⟩
  | joined log _ done ih =>
    obtain ⟨n, -, rfl⟩ := addNode_ok done
    exact ih.joined _
  | linked _ further done ih =>
    obtain ⟨link, present, rfl, -, rfl⟩ := connect_ok done
    exact ih.linked link further present

/-- Below the last number of a network with more nodes, an address is found where it was, or at a new
node. -/
theorem Extends.nodeBelow? (more : net.Extends net') (eth : EtherAddress) (extra : Nat) :
    net'.nodeBelow? eth (net.nodes.size + extra) = net.nodeByEth? eth ∨
      ∃ id n, net.nodes.size ≤ id ∧ net'.nodeBelow? eth (net.nodes.size + extra) = some id ∧
        net'.node? id = some n ∧ n.eth = eth := by
  induction extra with
  | zero =>
    refine .inl (nodeBelow?_congr fun id within => ?_)
    rw [more.nodes id within]
  | succ extra ih =>
    rw [← Nat.add_assoc, Network.nodeBelow?]
    split
    · next hit =>
      obtain ⟨n, present, mine⟩ := (Option.any_eq_true _ _).mp hit
      exact .inr ⟨_, n, Nat.le_add_right _ _, rfl, present, of_decide_eq_true mine⟩
    · exact ih

/-- New nodes with other addresses and no links to the old ones leave these their ways. -/
theorem Extends.parted (more : net.Extends net') (wired : net.Wired) (wired' : net'.Wired)
    (apart : ∀ link ∈ net'.links, Added net net' link.source ↔ Added net net' link.target)
    (distinct : ∀ id id' n n', net.node? id = some n → Added net net' id' → net'.node? id' = some n' →
      n'.eth ≠ n.eth) : net.Parted (fun id => ¬ Added net net' id) net' := by
  have homes : ∀ id, id < net.nodes.size → ¬ Added net net' id := fun id within added =>
    Nat.not_le.mpr within added.1
  have ends : ∀ link source target, net'.ends? link = some (source, target) →
      (Added net net' source ↔ Added net net' target) := by
    intro link source target ends
    obtain ⟨known, present, same⟩ := Option.map_eq_some_iff.mp ends
    obtain ⟨rfl, rfl⟩ := Prod.mk.inj same
    exact apart known (Array.mem_of_getElem? present)
  refine ⟨wired, wired', homes, more.outlets, fun id within eth => ?_,
    fun link source target there => not_congr (ends link source target there)⟩
  have link : net'.linkId? id = net.linkId? id := funext fun target => by
    rw [linkId?, linkId?, more.outlets id within]
  obtain ⟨extra, size⟩ := Nat.exists_eq_add_of_le more.size
  have sought := more.nodeBelow? eth extra
  rw [← size] at sought
  rcases sought with same | ⟨new, n', further, found, present', mine'⟩
  · exact congrArg₂ Option.bind same link
  · -- The address is that of a new node, which no old one has, nor a link to it.
    have added : Added net net' new := ⟨further, node?_lt present'⟩
    have found : net'.nodeByEth? eth = some new := found
    have unknown : net.nodeByEth? eth = none := by
      refine Option.eq_none_iff_forall_ne_some.mpr fun old known => ?_
      obtain ⟨⟨n, present, mine⟩, -⟩ := nodeBelow?_some known
      exact distinct old new n n' present added present' (mine'.trans mine.symm)
    have unlinked : net'.linkId? id new = none := by
      refine Option.eq_none_iff_forall_ne_some.mpr fun there known => ?_
      exact homes id within ((ends there id new (wired'.linkId? known)).mpr added)
    rw [unknown, found, Option.bind_some, unlinked]
    rfl

end Network

/-- What a node knows, and what it has noted, is the same in two networks. -/
structure MeshNode.Matches (n : MeshNode) (sim : Simulator MeshEvent) (n' : MeshNode)
    (sim' : Simulator MeshEvent) : Prop where
  rows : n'.routes.rows = n.routes.rows
  row? : ∀ ip, n'.routes.row? ip = n.routes.row? ip
  old? : ∀ ip, n'.routes.old? ip = n.routes.old? ip
  /-- The routes run out at the same times. -/
  deadlines : ∀ ip, (n'.routes.expiryOf ip).due? sim' = (n.routes.expiryOf ip).due? sim
  seq : n'.routes.seq = n.routes.seq
  log : n'.routes.log = n.routes.log
  neighbors : n'.prober.neighbors = n.prober.neighbors
  samples : n'.prober.sampler = n.prober.sampler
  peers : n'.rates.peers = n.rates.peers
  heard : ∀ now, n'.rates.neighbors now = n.rates.neighbors now
  forwardRate : ∀ peer now, n'.rates.forwardRate peer now = n.rates.forwardRate peer now
  reverseRate : ∀ peer now, n'.rates.reverseRate peer now = n.rates.reverseRate peer now

theorem MeshNode.Twins.matches {n n' : MeshNode} {sim sim' : Simulator MeshEvent} (twins : n.Twins n')
    (deadlines : ∀ ip, (n'.routes.expiryOf ip).due? sim' = (n.routes.expiryOf ip).due? sim) :
    n.Matches sim n' sim' := by
  obtain ⟨_, rates⟩ := twins.rates
  obtain ⟨_, _, prober⟩ := twins.prober
  refine ⟨twins.routes.rows, twins.routes.row?, twins.routes.old?, deadlines, twins.routes.seq,
    twins.routes.log, ?_, ?_, ?_, fun now => ?_, fun peer now => ?_, fun peer now => ?_⟩
  · rw [prober]
    rfl
  · rw [prober]
    rfl
  · rw [rates]
  · rw [rates]
    rfl
  · rw [rates]
    rfl
  · rw [rates]
    rfl

namespace Mesh

variable {injected : Prop} {mesh mesh' after' : Mesh} {past : Past} {net' : Network} {id : NodeId}

/-- In every network that can be reached there are as many lists of links as nodes. -/
theorem Reached.outletsSize (reached : Reached injected mesh past) :
    mesh.medium.outlets.size = mesh.medium.nodes.size := by
  have put (mesh : Mesh) (id : NodeId) (n : MeshNode)
      (sized : mesh.medium.outlets.size = mesh.medium.nodes.size) :
      (put mesh id n).medium.outlets.size = (Mesh.put mesh id n).medium.nodes.size :=
    sized.trans (Network.size_setNode id n).symm
  have rewired {net net' : Network} (wiring : net.SameWiring net')
      (sized : net.outlets.size = net.nodes.size) : net'.outlets.size = net'.nodes.size := by
    rw [wiring.outlets, wiring.nodes, sized]
  have acted {mesh mesh' : Mesh} {id : NodeId} {script : List Deed}
      (acted : Follows mesh id script mesh')
      (sized : mesh.medium.outlets.size = mesh.medium.nodes.size) :
      mesh'.medium.outlets.size = mesh'.medium.nodes.size := by
    obtain ⟨nodes, outlets, -⟩ := acted.standing
    rw [nodes, outlets, sized]
  induction reached with
  | empty => rfl
  | added log _ done ih =>
    obtain ⟨n, -, rfl⟩ := Network.addNode_ok done
    rw [Network.size_withNode, ← ih]
    exact Array.size_push _
  | connected _ done ih =>
    obtain ⟨link, -, -, -, rfl⟩ := Network.connect_ok done
    exact (Array.size_modify ..).trans ih
  | modified _ ends ih =>
    unfold Network.modifyLink
    split
    · exact ih
    · exact ih
  | started _ present ih =>
    simp only [startNode, present]
    exact put ⟨_, _⟩ _ _ ih
  | shutDown id _ ih =>
    unfold shutdownNode
    split
    · exact ih
    · exact put ⟨_, _⟩ _ _ ih
  | measured _ _ _ _ ih => exact put _ _ _ ih
  | drained _ _ ih => exact put _ _ _ ih
  | numbered _ ih => exact ih
  | rejected _ ih => exact ih
  | sent source frame _ ih => exact rewired (Network.wiring_send source frame _) ih
  | broadcast source frame _ ih => exact rewired (Network.wiring_broadcast source frame _) ih
  | waited _ _ ih => exact ih
  | fired _ _ _ follows ih => exact acted follows (rewired (struck_wiring _ _) ih)
  | scheduled _ _ _ _ _ ih => exact ih
  | delivered _ _ _ follows ih => exact acted follows (rewired (struck_wiring _ _) ih)

theorem Reached.annexed (reached : Reached injected mesh past)
    (annexed : mesh.medium.Annexed net') : Reached injected { mesh with medium := net' } past := by
  induction annexed with
  | alone => exact reached
  | joined log _ done ih =>
    have reached := ih.added log done
    exact reached
  | linked _ _ done ih =>
    have reached := ih.connected done
    exact reached

section Drain

variable {limit : Option Time} {steps : Nat} {item : Scheduled MeshEvent} {sim : Simulator MeshEvent}

private theorem drain_next (taken : mesh.sim.next? limit = some (item, sim))
    (done : execute { mesh with sim } item.event = .ok mesh') :
    world.drain limit (steps + 1) mesh.sim mesh.medium =
      world.drain limit steps mesh'.sim mesh'.medium := by
  have stepped : world.step item.event sim mesh.medium = .ok (mesh'.sim, mesh'.medium) := by
    simp only [World.step, world, done]
    rfl
  exact World.drain_step taken stepped steps

end Drain

/-- A network and the same one as an island of a larger one, both reached. -/
structure Together (injected : Prop) (home : NodeId → Prop) [DecidablePred home] (mesh mesh' : Mesh) :
    Prop where
  alike : Alike home mesh mesh'
  reached : ∃ past, Reached injected mesh past
  reached' : ∃ past, Reached injected mesh' past

namespace Together

variable {home : NodeId → Prop} [DecidablePred home] {limit : Time} {net : Network}
  {sim : Simulator MeshEvent}

private theorem of_annexed (reached : Reached injected mesh past) (annexed : mesh.medium.Annexed net')
    (certain : ∀ link ∈ mesh.medium.links, link.lossPercent = 0 ∨ 100 ≤ link.lossPercent)
    (apart : ∀ link ∈ net'.links,
      mesh.medium.Added net' link.source ↔ mesh.medium.Added net' link.target)
    (distinct : ∀ id id' n n', mesh.medium.node? id = some n → mesh.medium.Added net' id' →
      net'.node? id' = some n' → n'.eth ≠ n.eth)
    (awaited : ∀ x ∈ mesh.sim.live, ¬ mesh.medium.Added net' x.event.node) :
    Together injected (fun id => ¬ mesh.medium.Added net' id) mesh { mesh with medium := net' } := by
  have reached' := reached.annexed annexed
  have more := annexed.extends reached.outletsSize
  refine ⟨⟨⟨reached.settled.valid, reached.settled.valid,
    more.parted reached.wired reached'.wired apart distinct, fun id link mine => ?_,
    fun id link present => certain link (Array.mem_of_getElem? present), awaited, rfl⟩, ?_⟩,
    ⟨past, reached⟩, past, reached'⟩
  · exact ⟨fun present => (more.fresh id link present).resolve_right mine, more.kept id link⟩
  · intro id mine
    by_cases within : id < mesh.medium.nodes.size
    · obtain ⟨n, present⟩ := Network.node?_of_lt within
      have present' : net'.node? id = some n := (more.nodes id within).trans present
      rw [present, present']
      exact .some (.refl n)
    · have beyond : ¬ id < net'.nodes.size := fun there => mine ⟨Nat.not_lt.mp within, there⟩
      have none (net : Network) (beyond : ¬ id < net.nodes.size) : net.node? id = none :=
        Array.getElem?_eq_none (Nat.not_lt.mp beyond)
      rw [none _ within, none net' beyond]
      exact .none

/-- Nodes of the island are started in both networks, all at one time. -/
theorem startNodes (ids : List NodeId) : ∀ {mesh mesh' : Mesh}, Together injected home mesh mesh' →
    mesh'.sim.now = mesh.sim.now → (∀ id ∈ ids, id < mesh.medium.nodes.size) →
    Together injected home (ids.foldl (fun mesh id => (startNode mesh id).2) mesh)
      (ids.foldl (fun mesh id => (startNode mesh id).2) mesh') := by
  induction ids with
  | nil => exact fun together _ _ => together
  | cons id rest ih =>
    intro mesh mesh' together now within
    obtain ⟨alike, ⟨past, reached⟩, past', reached'⟩ := together
    have here := within id List.mem_cons_self
    obtain ⟨n, present⟩ := Network.node?_of_lt here
    obtain ⟨m, present', -⟩ := alike.nodes.twin (alike.island.parted.homes id here) present
    obtain ⟨alike, now⟩ := alike.started reached.settled reached'.settled now present present'
    refine ih ⟨alike, ⟨_, reached.started present⟩, _, reached'.started present'⟩ now ?_
    rw [size_startNode]
    exact fun j member => within j (List.mem_cons_of_mem _ member)

theorem startBeside (ids : List NodeId) : ∀ {mesh' : Mesh}, Together injected home mesh mesh' →
    (∀ id ∈ ids, ¬ home id) →
    Together injected home mesh (ids.foldl (fun mesh id => (startNode mesh id).2) mesh') := by
  induction ids with
  | nil => exact fun together _ => together
  | cons id rest ih =>
    intro mesh' together foreign
    refine ih ?_ fun j member => foreign j (List.mem_cons_of_mem _ member)
    cases present' : mesh'.medium.node? id with
    | none =>
      simp only [startNode, present']
      exact together
    | some m =>
      obtain ⟨alike, reached, past', reached'⟩ := together
      exact ⟨alike.startedBeside reached'.settled (foreign id List.mem_cons_self) present', reached,
        _, reached'.started present'⟩

/-- An event begins in the larger network: it is one of the island too, or does not concern it. -/
theorem step {limit : Option Time} {item : Scheduled MeshEvent}
    (together : Together injected home mesh mesh')
    (taken : mesh'.sim.next? limit = some (item, sim))
    (done : execute { mesh' with sim } item.event = .ok after') :
    Together injected home mesh after' ∨
    ∃ first start after, mesh.sim.next? limit = some (first, start) ∧
      execute { mesh with sim := start } first.event = .ok after ∧
      Together injected home after after' := by
  obtain ⟨alike, ⟨past, reached⟩, past', reached'⟩ := together
  obtain ⟨next', later', -⟩ := reached'.goes_on taken done
  by_cases mine : home item.event.node
  · obtain ⟨first, start, after, began, carried, alike⟩ :=
      alike.fired reached.settled reached'.settled taken mine done
    obtain ⟨next, later, -⟩ := reached.goes_on began carried
    exact .inr ⟨first, start, after, began, carried, alike, ⟨next, later⟩, next', later'⟩
  · exact .inl ⟨alike.passed reached'.settled taken mine done, ⟨past, reached⟩, next', later'⟩

/-- Whatever events the larger network carries out, the island carries out its share of them. -/
theorem drain (steps : Nat) {mesh mesh' : Mesh} {enough : Nat} (together : Together injected home mesh mesh')
    (more : steps ≤ enough)
    (done : world.drain (some limit) steps mesh'.sim mesh'.medium = .ok (sim, net)) :
    ∃ after, world.drain (some limit) enough mesh.sim mesh.medium = .ok (after.sim, after.medium) ∧
      after.sim.next? (some limit) = none ∧ sim.next? (some limit) = none ∧
      Together injected home after ⟨sim, net⟩ := by
  obtain ⟨first, start⟩ := mesh'
  induction steps, first, start using world.drain_induct (some limit) generalizing mesh enough with
  | stop steps first start idle =>
    rw [World.drain_of_none idle] at done
    cases done
    have rests := together.alike.island.idle idle
    exact ⟨mesh, World.drain_of_none rests enough, rests, idle, together⟩
  | cut first start next taken =>
    rw [World.drain_zero taken] at done
    cases done
  | fault steps first start next cause taken failed =>
    rw [World.drain_fault taken failed] at done
    cases done
  | step steps first start next beyond taken stepped ih =>
    rw [World.drain_step taken stepped] at done
    rcases together.step taken (world_step_ok stepped) with
      waits | ⟨item, sim', after, began, carried, together⟩
    · exact ih (Nat.le_of_succ_le more) waits done
    · obtain ⟨enough, rfl⟩ := Nat.exists_eq_add_of_le' (Nat.lt_of_lt_of_le steps.succ_pos more)
      rw [drain_next began carried]
      exact ih (Nat.le_of_succ_le_succ more) together done

theorem startAll (together : Together injected home mesh mesh')
    (now : mesh'.sim.now = mesh.sim.now) (size : mesh.medium.nodes.size ≤ mesh'.medium.nodes.size)
    (foreign : ∀ id, mesh.medium.nodes.size ≤ id → id < mesh'.medium.nodes.size → ¬ home id) :
    Together injected home mesh.startAll mesh'.startAll := by
  obtain ⟨extra, more⟩ := Nat.exists_eq_add_of_le size
  unfold Mesh.startAll Network.nodeIds
  rw [more, List.range_add, List.foldl_append]
  refine (together.startNodes _ now fun _ => List.mem_range.mp).startBeside _ fun id member => ?_
  obtain ⟨i, within, rfl⟩ := List.mem_map.mp member
  refine foreign _ (Nat.le_add_right _ _) ?_
  rw [more]
  exact Nat.add_lt_add_left (List.mem_range.mp within) _

/-- If the larger network can be run up to a time, so can the island. -/
theorem runUntil (together : Together injected home mesh mesh')
    (done : mesh'.runUntil limit = .ok after') :
    ∃ after, mesh.runUntil limit = .ok after ∧ Together injected home after after' := by
  obtain ⟨⟨sim', net'⟩, ran', rfl⟩ := ok_of_map done
  obtain ⟨⟨sim, net⟩, drained', same⟩ := ok_of_map ran'
  cases same
  obtain ⟨mid, drained, idle, idle', ⟨island, nodes⟩, ⟨past, reached⟩, past', reached'⟩ :=
    together.drain _ (Nat.le_refl _) drained'
  refine ⟨{ mid with sim := { mid.sim with now := max mid.sim.now limit } }, ?_,
    ⟨island.waited _ _, nodes⟩, ⟨past, reached.waited idle⟩, past', reached'.waited idle'⟩
  simp only [Mesh.runUntil, World.runUntil, drained]
  rfl

private theorem matches_twin {n : MeshNode} (together : Together injected home mesh mesh')
    (present : mesh.medium.node? id = some n) :
    ∃ n', mesh'.medium.node? id = some n' ∧ n.Matches mesh.sim n' mesh'.sim := by
  obtain ⟨⟨island, nodes⟩, ⟨past, reached⟩, past', reached'⟩ := together
  have mine := island.parted.homes id (Network.node?_lt present)
  obtain ⟨n', present', twins⟩ := nodes.twin mine present
  have number := reached.settled.numbered id n present
  have number' := reached'.settled.numbered id n' present'
  have holds := (reached.settled.nodes id n trivial present).ready.holds
  have holds' := (reached'.settled.nodes id n' trivial present').ready.holds
  rw [number] at holds
  rw [number'] at holds'
  exact ⟨n', present', twins.matches fun ip =>
    island.due?_eq mine (holds (.expiry ip)) (holds' (.expiry ip))⟩

end Together

private theorem Reached.size_fired {limit : Option Time} {item : Scheduled MeshEvent}
    {sim : Simulator MeshEvent} (reached : Reached injected mesh past)
    (taken : mesh.sim.next? limit = some (item, sim))
    (done : execute { mesh with sim } item.event = .ok mesh') :
    mesh'.medium.nodes.size = mesh.medium.nodes.size := by
  obtain ⟨script, follows⟩ := (reached.settled.fired taken done).follows
  exact follows.standing.1.trans (congrArg Array.size (struck_wiring _ _).nodes)

private theorem Reached.size_runUntil {limit : Time} (reached : Reached injected mesh past)
    (done : mesh.runUntil limit = .ok mesh') :
    mesh'.medium.nodes.size = mesh.medium.nodes.size := by
  let Sized (mid : Mesh) : Prop :=
    (∃ past, Reached injected mid past) ∧ mid.medium.nodes.size = mesh.medium.nodes.size
  have fired : KeptByEvents Sized := by
    rintro mid next _ item sim ⟨⟨past, before⟩, size⟩ taken carried
    obtain ⟨past', after, -⟩ := before.goes_on taken carried
    exact ⟨⟨past', after⟩, (before.size_fired taken carried).trans size⟩
  refine (runUntil_keeps fired ?_ (⟨⟨past, reached⟩, rfl⟩ : Sized mesh) done).2
  rintro mid ⟨⟨past, before⟩, size⟩ idle
  exact ⟨⟨past, before.waited idle⟩, size⟩

private theorem size_startAll (mesh : Mesh) : mesh.startAll.medium.nodes.size = mesh.medium.nodes.size :=
  startAll_keeps (P := fun mid => mid.medium.nodes.size = mesh.medium.nodes.size)
    (fun before _ => (size_startNode _ _).trans before) rfl

/-- Further nodes are added to a network whose links lose nothing or all. They have other addresses, and
none of them has a link to a node that was there, nor was anything to come for them. From the start of all
nodes up to any time the larger network can only be run if the first one can, and then every node of the
first one ends with the same routes, deadlines, number, log, neighbours, samples and rates. -/
theorem islands_apart {limit : Time} (reached : Reached injected mesh past)
    (annexed : mesh.medium.Annexed net')
    (certain : ∀ link ∈ mesh.medium.links, link.lossPercent = 0 ∨ 100 ≤ link.lossPercent)
    (apart : ∀ link ∈ net'.links,
      mesh.medium.Added net' link.source ↔ mesh.medium.Added net' link.target)
    (distinct : ∀ id id' n n', mesh.medium.node? id = some n → mesh.medium.Added net' id' →
      net'.node? id' = some n' → n'.eth ≠ n.eth)
    (awaited : ∀ x ∈ mesh.sim.live, ¬ mesh.medium.Added net' x.event.node)
    (done : (startAll { mesh with medium := net' }).runUntil limit = .ok after') :
    ∃ after, mesh.startAll.runUntil limit = .ok after ∧
      ∀ id, id < mesh.medium.nodes.size → ∃ n n', after.medium.node? id = some n ∧
        after'.medium.node? id = some n' ∧ n.Matches after.sim n' after'.sim := by
  have more := annexed.extends reached.outletsSize
  have together := Together.of_annexed reached annexed certain apart distinct awaited
  have started := together.startAll rfl more.size fun id further within mine => mine ⟨further, within⟩
  obtain ⟨after, ran, together⟩ := started.runUntil done
  refine ⟨after, ran, fun id within => ?_⟩
  obtain ⟨past, begun⟩ := started.reached
  rw [← size_startAll, ← begun.size_runUntil ran] at within
  obtain ⟨n, present⟩ := Network.node?_of_lt within
  obtain ⟨n', present', same⟩ := together.matches_twin present
  exact ⟨n, n', present, present', same⟩

/-- A node with a log that sends adverts about every second joins a network. -/
def joinTalker (i : Nat) (net : Network) : Option Network :=
  (net.addNode fun id => (MeshNode.create id
    { NodeConfig.ofIndex i with routing := { periodMillis := 900 } }).map fun n =>
      if true then n.withRouteLog else n).toOption.map (·.2)

/-- Two such nodes join a network, with a link each way between them. -/
def joinPair (i loss : Nat) (net : Network) : Option Network := do
  let net ← joinTalker i net
  let net ← joinTalker (i + 1) net
  let (_, net) ← (net.connect i (i + 1) (.ofMillis 5) 1_000_000 loss).toOption
  let (_, net) ← (net.connect (i + 1) i (.ofMillis 5) 1_000_000 loss).toOption
  return net

/-- A network of two nodes, one of four, and what has become of that after a second. -/
structure Archipelago where
  first : Network
  whole : Network
  after : Mesh

def archipelago : Option Archipelago := do
  let first ← joinPair 0 0 .empty
  let whole ← joinPair 2 50 first
  let after ← ((startAll ⟨.empty, whole⟩).runUntil (.ofSeconds 1)).toOption
  return ⟨first, whole, after⟩

private theorem joinTalker_annexed {net mid last : Network} {i : Nat} (annexed : net.Annexed mid)
    (done : joinTalker i mid = some last) : net.Annexed last := by
  obtain ⟨⟨_, _⟩, added, rfl⟩ := Option.map_eq_some_iff.mp done
  exact annexed.joined true (ok_of_toOption added)

private theorem joinPair_annexed {net mid last : Network} {i loss : Nat} (annexed : net.Annexed mid)
    (further : net.nodes.size ≤ i) (done : joinPair i loss mid = some last) : net.Annexed last := by
  unfold joinPair at done
  obtain ⟨_, first, done⟩ := Option.bind_eq_some_iff.mp done
  obtain ⟨_, second, done⟩ := Option.bind_eq_some_iff.mp done
  obtain ⟨⟨_, _⟩, forth, done⟩ := Option.bind_eq_some_iff.mp done
  obtain ⟨⟨_, _⟩, back, done⟩ := Option.bind_eq_some_iff.mp done
  cases done
  have nodes := joinTalker_annexed (joinTalker_annexed annexed first) second
  have linked := nodes.linked further (ok_of_toOption forth)
  exact linked.linked (Nat.le_succ_of_le further) (ok_of_toOption back)

/-- Whether two networks have the sizes of one pair and of two, each with links of its own and addresses
of its own. -/
def Archipelago.Split (a : Archipelago) : Prop :=
  a.first.nodes.size = 2 ∧ a.whole.nodes.size = 4 ∧
    (∀ link ∈ a.first.links, link.lossPercent = 0) ∧
    (∀ link ∈ a.whole.links, a.first.Added a.whole link.source ↔ a.first.Added a.whole link.target) ∧
    (∀ id < 2, ∀ id' < 4, 2 ≤ id' →
      (a.whole.node? id').map (·.eth) ≠ (a.first.node? id).map (·.eth)) ∧
    (a.after.medium.node? 0).map (fun n => (n.routes.rows.length, n.routes.seq)) = some (1, 2)

instance (a : Archipelago) : Decidable a.Split := inferInstanceAs (Decidable (_ ∧ _))

private theorem archipelago_split : archipelago.map (fun a => decide a.Split) = some true := by
  decide +kernel

/-- Two nodes have found each other after a second, and know the same beside two others as alone. -/
theorem pairs_apart : ∃ (net net' : Network) (after after' : Mesh),
    net.nodes.size = 2 ∧ net'.nodes.size = 4 ∧
      (startAll ⟨.empty, net⟩).runUntil (.ofSeconds 1) = .ok after ∧
      (startAll ⟨.empty, net'⟩).runUntil (.ofSeconds 1) = .ok after' ∧
      (after'.medium.node? 0).map (fun n => (n.routes.rows.length, n.routes.seq)) = some (1, 2) ∧
      ∀ id, id < 2 → ∃ n n', after.medium.node? id = some n ∧ after'.medium.node? id = some n' ∧
        n.Matches after.sim n' after'.sim := by
  obtain ⟨a, made, split⟩ := Option.map_eq_some_iff.mp archipelago_split
  obtain ⟨two, four, certain, apart, distinct, learned⟩ := of_decide_eq_true split
  unfold archipelago at made
  obtain ⟨first, paired, made⟩ := Option.bind_eq_some_iff.mp made
  obtain ⟨whole, joined, made⟩ := Option.bind_eq_some_iff.mp made
  obtain ⟨after', ran, made⟩ := Option.bind_eq_some_iff.mp made
  cases made
  have built : Network.empty.Annexed first := joinPair_annexed .alone (Nat.le_refl 0) paired
  have nobody : Reached False Mesh.empty {} := .empty
  have reached : Reached False ⟨.empty, first⟩ {} := nobody.annexed built
  have annexed : first.Annexed whole := joinPair_annexed .alone (Nat.le_of_eq two) joined
  have apartFrom : ∀ id id' n n', first.node? id = some n → first.Added whole id' →
      whole.node? id' = some n' → n'.eth ≠ n.eth := by
    intro id id' n n' present added present' eth
    refine distinct id (two ▸ Network.node?_lt present) id' (four ▸ added.2) (two ▸ added.1) ?_
    rw [present, present', Option.map_some, Option.map_some, eth]
  obtain ⟨after, alone, same⟩ := islands_apart reached annexed
    (fun link there => .inl (certain link there)) apart apartFrom nofun (ok_of_toOption ran)
  exact ⟨first, whole, after, after', two, four, alone, ok_of_toOption ran, learned,
    fun id within => same id (two ▸ within)⟩

end Mesh

end WirelessMesh
