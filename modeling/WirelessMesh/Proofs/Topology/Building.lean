import WirelessMesh.Proofs.Mesh.Honest
import WirelessMesh.Proofs.Mesh.PairGap
import WirelessMesh.Topology

namespace WirelessMesh

namespace MeshNode

variable {n : MeshNode} {id : NodeId} {config : NodeConfig}

private theorem create_named (done : create id config = .ok n)
    (single : config.probing.eth = some config.eth) : ∀ eth ∈ n.addresses, eth = config.eth := by
  have made := made_of_create done
  have rates : n.rates.eth = config.eth := by rw [DeliveryRates.create_eq made.rates]
  have prober : n.prober.eth = config.eth := by
    obtain ⟨eth, named, prober⟩ := Prober.create_eq made.prober
    rw [prober]
    exact Option.some.inj (named.symm.trans single)
  have routes : n.routes.eth = config.eth := by rw [RouteTable.create_eq made.routes]
  simp [addresses, made.eth, rates, prober, routes]

end MeshNode

namespace Network

variable {net : Network} {source target : NodeId}

theorem outletsOf_withNode (net : Network) (n : MeshNode) (source : NodeId) :
    (net.withNode n).outletsOf source = net.outletsOf source := by
  rw [outletsOf, withNode, Array.getElem?_push, outletsOf]
  split
  · next new => simp [new]
  · rfl

theorem outletsOf_withLink (net : Network) (link : Link) (source : NodeId) :
    (net.withLink link).outletsOf source =
      if source = link.source ∧ source < net.outlets.size then
        net.outletsOf source ++ [⟨link.target, net.links.size⟩]
      else net.outletsOf source := by
  rw [outletsOf, withLink, Array.getElem?_modify, outletsOf]
  by_cases here : link.source = source
  · subst here
    by_cases within : link.source < net.outlets.size
    · simp [within]
    · simp [within]
  · simp [here, Ne.symm here]

theorem isSome_linkId?_iff : (net.linkId? source target).isSome = true ↔
    ∃ outlet ∈ net.outletsOf source, outlet.target = target := by
  simp [linkId?]

private theorem isSome_linkId?_withLink (link : Link) :
    ((net.withLink link).linkId? source target).isSome = true ↔
    (net.linkId? source target).isSome = true ∨
      (source = link.source ∧ source < net.outlets.size ∧ target = link.target) := by
  rw [isSome_linkId?_iff, isSome_linkId?_iff, outletsOf_withLink]
  split
  · next here =>
    obtain ⟨rfl, within⟩ := here
    simp [within, or_and_right, exists_or, eq_comm]
  · next other =>
    refine ⟨.inl, ?_⟩
    rintro (known | ⟨here, within, -⟩)
    · exact known
    · exact absurd ⟨here, within⟩ other

private theorem ends?_withLink (net : Network) (link : Link) (id : LinkId) :
    (net.withLink link).ends? id =
      if id = net.links.size then some (link.source, link.target) else net.ends? id := by
  rw [ends?, withLink, Array.getElem?_push]
  split
  · rfl
  · rfl

end Network

/-- A network that is being built: its nodes have the addresses of their numbers and know nobody yet, and
its links go both ways. -/
structure Network.Assembled (net : Network) : Prop where
  reached : Mesh.Reached False ⟨.empty, net⟩ {}
  named : ∀ id n, net.node? id = some n → ∀ eth ∈ n.addresses, eth = .ofIndex id
  strangers : ∀ id n, net.node? id = some n → n.prober.Discreet fun _ => False
  outlets : net.outlets.size = net.nodes.size
  bothWays : ∀ link a b, net.ends? link = some (a, b) →
    a < net.nodes.size ∧ (net.linkId? b a).isSome = true
  accepted : net.stats.droppedInvalid = 0

namespace Network.Assembled

variable {net net' : Network}

theorem empty : Network.empty.Assembled where
  reached := .empty
  named _ _ present := absurd (node?_lt present) (Nat.not_lt_zero _)
  strangers _ _ present := absurd (node?_lt present) (Nat.not_lt_zero _)
  outlets := rfl
  bothWays _ _ _ ends := by cases ends
  accepted := rfl

/-- A network with no more nodes than have addresses of their own can be left to itself. -/
theorem clean (assembled : net.Assembled) (few : net.nodes.size ≤ Scenario.maxNodes) :
    Mesh.Clean ⟨.empty, net⟩ {} where
  reached := assembled.reached
  honest := {
    regular := ⟨few, assembled.named, assembled.reached.wired, assembled.bothWays⟩
    nodes := fun id n present => (assembled.strangers id n present).mono fun _ => False.elim
    accepted := assembled.accepted }
  sendings _ member := absurd member List.not_mem_nil

theorem added {config : NodeConfig} {log : Bool} {id : NodeId} (assembled : net.Assembled)
    (named : config.eth = .ofIndex net.nodes.size) (single : config.probing.eth = some config.eth)
    (done : net.addNode (fun id => (MeshNode.create id config).map fun n =>
      if log then n.withRouteLog else n) = .ok (id, net')) :
    net'.Assembled ∧ net'.nodes.size = net.nodes.size + 1 := by
  have reached : Mesh.Reached False ⟨.empty, net'⟩ {} := assembled.reached.added log done
  obtain ⟨n, created, rfl⟩ := addNode_ok done
  have addresses : (if log then n.withRouteLog else n).addresses = n.addresses := by
    cases log <;> rfl
  have prober : (if log then n.withRouteLog else n).prober = n.prober := by
    cases log <;> rfl
  generalize (if log then n.withRouteLog else n) = newcomer at *
  refine ⟨⟨reached, fun j m present eth member => ?_, fun j m present => ?_, ?_,
    fun link a b ends => ?_, assembled.accepted⟩, size_withNode _ _⟩
  · rw [node?_withNode] at present
    split at present
    · next here =>
      cases present
      rw [here, ← named]
      exact MeshNode.create_named created single eth (addresses ▸ member)
    · exact assembled.named j m present eth member
  · rw [node?_withNode] at present
    split at present
    · cases present
      rw [prober]
      exact Prober.create_discreet (MeshNode.made_of_create created).prober
    · exact assembled.strangers j m present
  · rw [size_withNode, withNode, Array.size_push, assembled.outlets]
  · obtain ⟨within, back⟩ := assembled.bothWays link a b ends
    obtain ⟨outlet, member, same⟩ := isSome_linkId?_iff.mp back
    refine ⟨(Nat.lt_succ_of_lt within).trans_eq (size_withNode _ _).symm,
      isSome_linkId?_iff.mpr ⟨outlet, ?_, same⟩⟩
    have there : b < net.outlets.size := by
      by_contra outside
      rw [outletsOf, Array.getElem?_eq_none (Nat.not_lt.mp outside)] at member
      cases member
    rw [outletsOf, withNode, Array.getElem?_push_lt there, ← Array.getElem?_eq_getElem there]
    exact member

theorem paired {a b : NodeId} {latency : Time} {bandwidth loss : Nat} (assembled : net.Assembled)
    (done : net.connectPair a b latency bandwidth loss = .ok net') :
    net'.Assembled ∧ net'.nodes.size = net.nodes.size := by
  obtain ⟨⟨id, mid⟩, forth, rest⟩ := ok_of_bind done
  obtain ⟨⟨id', last⟩, back, same⟩ := ok_of_bind rest
  cases same
  have reached : Mesh.Reached False ⟨.empty, net'⟩ {} :=
    (assembled.reached.connected forth).connected back
  obtain ⟨link, within, rfl, rfl, rfl⟩ := connect_ok forth
  obtain ⟨link', within', far, near, rfl⟩ := connect_ok back
  have size : (net.withLink link).outlets.size = net.outlets.size := Array.size_modify ..
  rw [size, assembled.outlets] at within'
  rw [assembled.outlets] at within
  refine ⟨⟨reached, assembled.named, assembled.strangers, ?_, fun id a b ends => ?_,
    assembled.accepted⟩, rfl⟩
  · exact (Array.size_modify ..).trans (size.trans assembled.outlets)
  · rw [ends?_withLink, ends?_withLink] at ends
    rw [isSome_linkId?_withLink, isSome_linkId?_withLink, size, far, near]
    split at ends
    · obtain ⟨rfl, rfl⟩ := Prod.mk.inj (Option.some.inj ends)
      refine ⟨far ▸ within', .inl (.inr ⟨near, ?_, far⟩)⟩
      rw [near, assembled.outlets]
      exact within
    · split at ends
      · obtain ⟨rfl, rfl⟩ := Prod.mk.inj (Option.some.inj ends)
        refine ⟨within, .inr ⟨rfl, ?_, rfl⟩⟩
        rw [assembled.outlets]
        exact within'
      · obtain ⟨inside, known⟩ := assembled.bothWays id a b ends
        exact ⟨inside, .inl (.inl known)⟩

end Network.Assembled

namespace Topology

variable {α β : Type} {net net' : Network}

/-- What is built in two steps: the second one starts from what the first one left, unless that failed. -/
theorem build_bind_eq (x : Builder α) (f : α → Builder β) (net : Network) :
    (x >>= f) net = match x net with
      | (.ok first, mid) => f first mid
      | (.error cause, mid) => (.error cause, mid) := by
  simp only [bind, ExceptT.bind, ExceptT.mk, StateT.bind]
  rcases x net with ⟨first | cause, mid⟩ <;> rfl

theorem ok_of_build_bind {x : Builder α} {f : α → Builder β} {built : β}
    (done : (x >>= f) net = (.ok built, net')) :
    ∃ first mid, x net = (.ok first, mid) ∧ f first mid = (.ok built, net') := by
  rw [build_bind_eq] at done
  split at done
  · next first mid made => exact ⟨first, mid, made, done⟩
  · cases done

private theorem ok_of_addNode {config : NodeConfig} {log : Bool} {id : NodeId}
    (done : addNode config log net = (.ok id, net')) :
    net.addNode (fun id => (MeshNode.create id config).map fun n =>
      if log then n.withRouteLog else n) = .ok (id, net') := by
  obtain ⟨_, _, got, rest⟩ := ok_of_build_bind done
  cases got
  generalize net.addNode _ = outcome at rest ⊢
  rcases outcome with cause | ⟨id, last⟩
  · cases rest
  · cases rest
    rfl

private theorem ok_of_connect {a b : NodeId} {link : LinkOptions} {u : Unit}
    (done : connect a b link net = (.ok u, net')) :
    net.connectPair a b link.latency link.bandwidth link.lossPercent = .ok net' := by
  obtain ⟨_, _, got, rest⟩ := ok_of_build_bind done
  cases got
  generalize net.connectPair _ _ _ _ _ = outcome at rest ⊢
  rcases outcome with cause | last
  · cases rest
  · cases rest
    rfl

private theorem assembled_nodes {config : Nat → NodeConfig} {log : Bool}
    (named : ∀ i, (config i).eth = .ofIndex i)
    (single : ∀ i, (config i).probing.eth = some (config i).eth) (count : Nat) :
    ∀ {net net' : Network} {ids : List NodeId}, net.Assembled →
      ((List.range' net.nodes.size count).mapM fun i => addNode (config i) log) net =
        (.ok ids, net') → net'.Assembled ∧ net'.nodes.size = net.nodes.size + count := by
  induction count with
  | zero =>
    intro net net' ids assembled done
    cases done
    exact ⟨assembled, rfl⟩
  | succ count ih =>
    intro net net' ids assembled done
    rw [List.range'_succ, List.mapM_cons] at done
    obtain ⟨id, mid, first, rest⟩ := ok_of_build_bind done
    obtain ⟨others, last, later, same⟩ := ok_of_build_bind rest
    cases same
    obtain ⟨more, size⟩ := assembled.added (named _) (single _) (ok_of_addNode first)
    rw [← size] at later
    obtain ⟨whole, total⟩ := ih more later
    exact ⟨whole, by omega⟩

private theorem assembled_links (links : List (Nat × Nat × LinkOptions)) (first : Nat) :
    ∀ {net net' : Network}, net.Assembled →
      (links.forM fun (a, b, link) => connect (first + a) (first + b) link) net = (.ok (), net') →
      net'.Assembled ∧ net'.nodes.size = net.nodes.size := by
  induction links with
  | nil =>
    intro net net' assembled done
    cases done
    exact ⟨assembled, rfl⟩
  | cons link rest ih =>
    intro net net' assembled done
    have steps : (connect (first + link.1) (first + link.2.1) link.2.2 >>= fun _ =>
        rest.forM fun (a, b, link) => connect (first + a) (first + b) link) net = (.ok (), net') := done
    obtain ⟨_, mid, made, later⟩ := ok_of_build_bind steps
    obtain ⟨paired, size⟩ := assembled.paired (ok_of_connect made)
    obtain ⟨whole, total⟩ := ih paired later
    exact ⟨whole, total.trans size⟩

private theorem assembled_build {config : Nat → NodeConfig} {log : Bool} {count : Nat}
    {links : List (Nat × Nat × LinkOptions)} {ids : List NodeId}
    (named : ∀ i, (config i).eth = .ofIndex i)
    (single : ∀ i, (config i).probing.eth = some (config i).eth)
    (done : build count config log links .empty = (.ok ids, net)) :
    net.Assembled ∧ net.nodes.size = count := by
  obtain ⟨_, _, got, done⟩ := ok_of_build_bind done
  cases got
  obtain ⟨_, mid, added, done⟩ := ok_of_build_bind done
  obtain ⟨_, _, linked, same⟩ := ok_of_build_bind done
  cases same
  rw [List.range_eq_range'] at added
  obtain ⟨nodes, count⟩ := assembled_nodes named single _ .empty added
  obtain ⟨whole, size⟩ := assembled_links links _ nodes linked
  exact ⟨whole, size.trans (count.trans (Nat.zero_add _))⟩

/-- A valid scenario has no more nodes than have addresses of their own. -/
theorem few_of_validate {s : Scenario} (valid : s.validate = .ok ()) :
    s.topology.nodeCount ≤ Scenario.maxNodes := by
  simp only [Scenario.validate] at valid
  split at valid
  · cases valid
  · split at valid
    · cases valid
    · next fits => exact Nat.not_lt.mp fits

/-- Whatever scenario a mesh is built from, its nodes can be left to themselves. -/
theorem clean_of_buildScenario {s : Scenario} {log : Bool} {ids : List NodeId}
    (done : buildScenario s log .empty = (.ok ids, net)) : Mesh.Clean ⟨.empty, net⟩ {} := by
  have settings (i : Nat) : (s.nodeConfig i).eth = .ofIndex i := rfl
  have single (i : Nat) : (s.nodeConfig i).probing.eth = some (s.nodeConfig i).eth := rfl
  unfold buildScenario at done
  cases valid : s.validate with
  | error cause =>
    rw [valid] at done
    cases done
  | ok _ =>
    rw [valid] at done
    have few := few_of_validate valid
    cases topology : s.topology with
    | line nodes =>
      rw [topology] at few
      simp only [topology, buildLine] at done
      split at done
      · cases done
      · obtain ⟨assembled, size⟩ := assembled_build settings single done
        exact assembled.clean (size.trans_le few)
    | grid rows cols =>
      rw [topology] at few
      simp only [topology, buildGrid] at done
      split at done
      · cases done
      · obtain ⟨assembled, size⟩ := assembled_build settings single done
        refine assembled.clean (size.trans_le ?_)
        simp only [TopologySpec.nodeCount, Scenario.maxNodes] at few ⊢
        omega
    | explicit nodes links =>
      rw [topology] at few
      simp only [topology] at done
      obtain ⟨assembled, size⟩ := assembled_build settings single done
      exact assembled.clean (size.trans_le few)

end Topology

namespace Mesh

variable {s : Scenario} {log : Bool} {ids : List NodeId} {net : Network} {mesh : Mesh}
  {sendings : List Sending} {handovers : List Handover}

/-- A mesh in which only the nodes send frames never sends into the void, whatever scenario it is built
from. No frame is dropped for want of a link, and none is refused. A frame for one node is for the owner
of an address to which its sender has a link. Each frame that a node receives is of a known type, is long
enough and can be read. Starting all nodes and running up to any time leaves it such a mesh. -/
theorem built_mesh_never_sends_into_the_void
    (built : Topology.buildScenario s log .empty = (.ok ids, net))
    (run : Undisturbed ⟨.empty, net⟩ mesh sendings handovers) :
    (mesh.medium.stats.droppedNoLink = 0 ∧ mesh.medium.stats.droppedInvalid = 0) ∧
    (∀ s ∈ sendings, s.isCopy = false → ∃ target,
      mesh.medium.nodeByEth? s.frame.target = some target ∧
        (mesh.medium.linkId? s.source target).isSome = true) ∧
    (∀ h ∈ handovers, h.frame.Usable) ∧
    Undisturbed ⟨.empty, net⟩ mesh.startAll sendings handovers ∧
    (∀ limit mesh', mesh.runUntil limit = .ok mesh' →
      ∃ sendings' handovers', Undisturbed ⟨.empty, net⟩ mesh' sendings' handovers') := by
  have clean := Topology.clean_of_buildScenario built
  exact ⟨run.drops_nothing clean, run.reaches clean, run.usable clean, run.startAll,
    fun _ _ => run.runUntil clean.reached⟩

/-- Two nodes with a link each way, and settings that are as usual. -/
def twoInLine : Scenario := { schemaVersion := 1, topology := .line 2 }

/-- A mesh as it was built, and after all nodes were started and some events have been carried out. -/
structure LineRun where
  ids : List NodeId
  net : Network
  last : Mesh
  /-- The first node at the end. -/
  first : MeshNode

def lineRun : Option LineRun :=
  match Topology.buildScenario twoInLine false .empty with
  | (.error _, _) => none
  | (.ok ids, net) => do
    let (_, last) ← carryOutMany 12 (startAll ⟨.empty, net⟩)
    let first ← last.medium.node? 0
    return ⟨ids, net, last, first⟩

private theorem lineRun_undisturbed {r : LineRun} (ran : lineRun = some r) :
    Topology.buildScenario twoInLine false .empty = (.ok r.ids, r.net) ∧
      r.last.medium.node? 0 = some r.first ∧
      ∃ sendings handovers, Undisturbed ⟨.empty, r.net⟩ r.last sendings handovers := by
  unfold lineRun at ran
  split at ran
  · cases ran
  · next built =>
    obtain ⟨⟨_, _⟩, events, ran⟩ := Option.bind_eq_some_iff.mp ran
    obtain ⟨_, present, ran⟩ := Option.bind_eq_some_iff.mp ran
    cases ran
    have reached := (Topology.clean_of_buildScenario built).reached
    exact ⟨built, present, carryOutMany_keeps (Undisturbed.goes_on reached) 12
      ⟨_, _, Undisturbed.here.startAll⟩ events⟩

private theorem lineRun_seen : lineRun.map (fun r => (r.last.medium.stats.sentFrames,
    r.last.medium.stats.deliveredFrames,
    (r.first.prober.sampler.reported (.ofIndex 1)).length)) = some (7, 5, 1) := by
  decide +kernel

/-- Seven frames are sent and five received, a reply among them; two are on their way, and none is
dropped. -/
theorem two_in_line_drop_nothing : ∃ (r : LineRun) (sendings : List Sending) (handovers : List Handover),
    Topology.buildScenario twoInLine false .empty = (.ok r.ids, r.net) ∧
      Undisturbed ⟨.empty, r.net⟩ r.last sendings handovers ∧
      r.last.medium.node? 0 = some r.first ∧
      (r.last.medium.stats.sentFrames = 7 ∧ handovers.length = 5 ∧
        (r.first.prober.sampler.reported (.ofIndex 1)).length = 1) ∧
      r.last.medium.stats.droppedNoLink = 0 ∧ r.last.medium.stats.droppedInvalid = 0 ∧
      ∀ h ∈ handovers, h.frame.Usable := by
  obtain ⟨r, ran, seen⟩ := Option.map_eq_some_iff.mp lineRun_seen
  obtain ⟨sent, seen⟩ := Prod.mk.inj seen
  obtain ⟨received, reported⟩ := Prod.mk.inj seen
  obtain ⟨built, present, sendings, handovers, run⟩ := lineRun_undisturbed ran
  obtain ⟨⟨linked, valid⟩, -, usable, -⟩ := built_mesh_never_sends_into_the_void built run
  obtain ⟨_, reached⟩ := run.reached (Topology.clean_of_buildScenario built).reached
  have count : handovers.length = 5 := reached.accounts.delivered.symm.trans received
  exact ⟨r, sendings, handovers, built, run, present, ⟨sent, count, reported⟩, linked, valid, usable⟩

end Mesh

end WirelessMesh
