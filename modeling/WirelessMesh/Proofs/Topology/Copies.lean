import WirelessMesh.Proofs.Topology.Building

/-!
The copies of a broadcast, in networks whose nodes and links were added in whatever order. Main statement:
the latest link to each neighbour carries a copy for each link that leads there, and the earlier ones carry
none, so that every link out of a node carries one copy exactly if no two of them lead to the same node.
-/
namespace WirelessMesh

namespace Network

variable {net net' : Network} {source target : NodeId} {id : LinkId}

/-- A network that was made from nothing by adding nodes and links, in whatever order. -/
inductive Built : Network → Prop where
  | empty : Built .empty
  | joined {net net' : Network} {build : NodeId → Except ConfigError MeshNode} {id : NodeId}
      (built : Built net) (done : net.addNode build = .ok (id, net')) : Built net'
  | connected {net net' : Network} {source target : NodeId} {latency : Time} {bandwidth loss : Nat}
      {id : LinkId} (built : Built net)
      (done : net.connect source target latency bandwidth loss = .ok (id, net')) : Built net'
  | paired {net net' : Network} {a b : NodeId} {latency : Time} {bandwidth loss : Nat}
      (built : Built net) (done : net.connectPair a b latency bandwidth loss = .ok net') : Built net'

/-- The number of links from one node to another. -/
def linksBetween (net : Network) (source target : NodeId) : Nat :=
  net.links.countP fun link => link.source = source ∧ link.target = target

/-- Links and the lists of them that the nodes have agree: each node lists all links out of it in the order
in which they were made, and an end as often as there are links that lead there. -/
structure InStep (net : Network) : Prop where
  wired : net.Wired
  listed : ∀ id link, net.links[id]? = some link → ⟨link.target, id⟩ ∈ net.outletsOf link.source
  ascending : ∀ source, (net.outletsOf source).Pairwise (·.link < ·.link)
  tallied : ∀ source target, (net.neighbors source).count target = net.linksBetween source target

private theorem addNode_withNode {build : NodeId → Except ConfigError MeshNode} {node : NodeId}
    (done : net.addNode build = .ok (node, net')) : ∃ n, net' = net.withNode n := by
  obtain ⟨n, -, same⟩ := ok_of_bind done
  exact ⟨n, (Prod.mk.inj (Except.ok.inj same)).2.symm⟩

namespace InStep

theorem empty : Network.empty.InStep where
  wired _ _ member := absurd member List.not_mem_nil
  listed _ _ present := by cases present
  ascending _ := .nil
  tallied _ _ := rfl

theorem withNode (inStep : net.InStep) (n : MeshNode) : (net.withNode n).InStep where
  wired := inStep.wired.withNode n
  listed id link present := by
    rw [outletsOf_withNode]
    exact inStep.listed id link present
  ascending source := by
    rw [outletsOf_withNode]
    exact inStep.ascending source
  tallied source target := by
    rw [neighbors, outletsOf_withNode]
    exact inStep.tallied source target

theorem withLink (inStep : net.InStep) {link : Link} (within : link.source < net.outlets.size) :
    (net.withLink link).InStep where
  wired := inStep.wired.withLink link
  listed id other present := by
    rw [outletsOf_withLink]
    rw [Network.withLink, Array.getElem?_push] at present
    split at present
    · next new =>
      cases present
      simp [within, new]
    · have known := inStep.listed id other present
      split
      · exact List.mem_append_left _ known
      · exact known
  ascending source := by
    have before := inStep.ascending source
    rw [outletsOf_withLink]
    split
    · refine List.pairwise_append.mpr
        ⟨before, List.pairwise_singleton _ _, fun outlet listed new last => ?_⟩
      cases List.mem_singleton.mp last
      obtain ⟨_, present, -⟩ := Option.map_eq_some_iff.mp (inStep.wired source outlet listed)
      exact (Array.getElem?_eq_some_iff.mp present).1
    · exact before
  tallied source target := by
    have before := inStep.tallied source target
    have links : (net.withLink link).linksBetween source target = net.linksBetween source target +
        if link.source = source ∧ link.target = target then 1 else 0 := by
      simp [linksBetween, Network.withLink, Array.countP_push]
    rw [links, ← before, neighbors, neighbors, outletsOf_withLink]
    by_cases mine : link.source = source
    · subst mine
      by_cases there : link.target = target
      · simp [within, there]
      · simp [within, there]
    · simp [mine, Ne.symm mine]

theorem connected {latency : Time} {bandwidth loss : Nat} (inStep : net.InStep)
    (done : net.connect source target latency bandwidth loss = .ok (id, net')) : net'.InStep := by
  obtain ⟨link, within, mine, -, rfl⟩ := connect_ok done
  exact inStep.withLink (mine ▸ within)

theorem linkId? (inStep : net.InStep) (found : net.linkId? source target = some id) :
    ∃ link, net.links[id]? = some link ∧ link.source = source ∧ link.target = target := by
  obtain ⟨link, present, same⟩ := Option.map_eq_some_iff.mp (inStep.wired.linkId? found)
  exact ⟨link, present, (Prod.mk.inj same).1, (Prod.mk.inj same).2⟩

/-- The link that is used between two nodes is the last one that was made. -/
private theorem le_of_linkId? (inStep : net.InStep) (found : net.linkId? source target = some id)
    {other : LinkId} {link : Link} (present : net.links[other]? = some link) (mine : link.source = source)
    (there : link.target = target) : other ≤ id := by
  subst mine there
  obtain ⟨latest, hit, rfl⟩ := Option.map_eq_some_iff.mp found
  obtain ⟨-, after, before, split, missed⟩ := List.find?_eq_some_iff_append.mp hit
  have listed := inStep.listed other link present
  have ascending := inStep.ascending link.source
  rw [← List.reverse_reverse (net.outletsOf link.source), split, List.reverse_append, List.reverse_cons,
    List.append_assoc] at listed ascending
  rcases List.mem_append.mp listed with earlier | later
  · exact Nat.le_of_lt ((List.pairwise_append.mp ascending).2.2 _ earlier latest List.mem_cons_self)
  · rcases List.mem_cons.mp later with same | passed
    · exact Nat.le_of_eq (congrArg (·.link) same)
    · have skipped := missed _ (List.mem_reverse.mp passed)
      simp at skipped

theorem exists_linkId? (listed : target ∈ net.neighbors source) :
    ∃ id, net.linkId? source target = some id := by
  obtain ⟨outlet, member, same⟩ := List.mem_map.mp listed
  exact Option.isSome_iff_exists.mp (isSome_linkId?_iff.mpr ⟨outlet, member, same⟩)

theorem mem_neighbors (inStep : net.InStep) {link : Link} (present : net.links[id]? = some link) :
    link.target ∈ net.neighbors link.source :=
  List.mem_map.mpr ⟨_, inStep.listed id link present, rfl⟩

private theorem linkId?_of_single (inStep : net.InStep) {link : Link} (present : net.links[id]? = some link)
    (single : ∀ target, net.linksBetween link.source target ≤ 1) :
    net.linkId? link.source link.target = some id := by
  obtain ⟨other, found⟩ := exists_linkId? (inStep.mem_neighbors present)
  obtain ⟨link', present', mine, there⟩ := inStep.linkId? found
  have distinct : ((net.outletsOf link.source).map (·.target)).Nodup :=
    List.nodup_iff_count_le_one.mpr fun target => (inStep.tallied link.source target).trans_le (single target)
  have here := inStep.listed id link present
  have there' := inStep.listed other link' present'
  rw [mine] at there'
  have same := List.inj_on_of_nodup_map distinct there' here there
  rw [found, (Outlet.mk.inj same).2]

end InStep

theorem Built.inStep (built : net.Built) : net.InStep := by
  induction built with
  | empty => exact .empty
  | joined _ done ih =>
    obtain ⟨n, rfl⟩ := addNode_withNode done
    exact ih.withNode n
  | connected _ done ih => exact ih.connected done
  | paired _ done ih =>
    obtain ⟨⟨_, mid⟩, forth, rest⟩ := ok_of_bind done
    obtain ⟨⟨_, last⟩, back, same⟩ := ok_of_bind rest
    cases same
    exact (ih.connected forth).connected back

/-- A copy of a frame, with the link that is to carry it and a number of its own. -/
structure Copy where
  link : LinkId
  number : UInt64
  deriving DecidableEq

/-- The links that a broadcast takes, one for each link out of the node: always the latest one that leads
to the same node. -/
def latestLinks (net : Network) (source : NodeId) : List LinkId :=
  (net.neighbors source).filterMap (net.linkId? source)

/-- The copies that are made for some links, numbered one after another. -/
def copiesFor (next : UInt64) (links : List LinkId) : List Copy :=
  links.mapIdx fun k link => ⟨link, next + .ofNat k⟩

/-- The copies of a broadcast. -/
def broadcastCopies (net : Network) (source : NodeId) : List Copy :=
  copiesFor net.nextFrameId (net.latestLinks source)

/-- Puts a copy on its link and counts it. One more number is used up. -/
def putCopy (frame : Frame) (air : Air Network) (copy : Copy) : Air Network :=
  let net := air.medium.takeFrameId.2.count fun s => { s with sentFrames := s.sentFrames + 1 }
  transmit copy.link { frame with id := copy.number } { air with medium := net }

theorem copiesFor_cons (next : UInt64) (link : LinkId) (rest : List LinkId) :
    copiesFor next (link :: rest) = ⟨link, next⟩ :: copiesFor (next + 1) rest := by
  rw [copiesFor, List.mapIdx_cons, copiesFor]
  refine congrArg₂ List.cons (by simp) (congrArg (List.mapIdx · rest) ?_)
  funext k link
  rw [UInt64.ofNat_add, UInt64.add_comm (.ofNat k), ← UInt64.add_assoc]
  rfl

private theorem countP_copiesFor (next : UInt64) (links : List LinkId) (p : LinkId → Bool) :
    (copiesFor next links).countP (p ·.link) = links.countP p := by
  induction links generalizing next with
  | nil => rfl
  | cons link rest ih => rw [copiesFor_cons, List.countP_cons, List.countP_cons, ih]

private theorem wiring_putCopy (frame : Frame) (air : Air Network) (copy : Copy) :
    SameWiring air.medium (putCopy frame air copy).medium := by
  have counted : SameWiring air.medium (air.medium.takeFrameId.2.count fun s =>
      { s with sentFrames := s.sentFrames + 1 }) := (SameWiring.takeFrameId _).trans (.count _ _)
  exact counted.trans (wiring_transmit _ _ ⟨air.sim, _⟩)

private theorem transmit_nextFrameId (id : LinkId) (frame : Frame) (air : Air Network) :
    (transmit id frame air).medium.nextFrameId = air.medium.nextFrameId := by
  unfold transmit
  split
  · rfl
  · simp only
    split
    · rfl
    · rfl

theorem nextFrameId_putCopy (frame : Frame) (air : Air Network) (copy : Copy) :
    (putCopy frame air copy).medium.nextFrameId = air.medium.nextFrameId + 1 :=
  transmit_nextFrameId _ _ _

private theorem foldl_sendCopy (source : NodeId) (frame : Frame) (targets : List NodeId) (air : Air Network) :
    targets.foldl (fun air target => sendCopy source target frame air) air =
      (copiesFor air.medium.nextFrameId (targets.filterMap (air.medium.linkId? source))).foldl
        (putCopy frame) air := by
  induction targets generalizing air with
  | nil => rfl
  | cons target rest ih =>
    rw [List.foldl_cons, ih]
    cases found : air.medium.linkId? source target with
    | none =>
      have idle : sendCopy source target frame air = air := by
        rw [sendCopy, found]
      rw [List.filterMap_cons_none found, idle]
    | some id =>
      have put : sendCopy source target frame air =
          putCopy frame air ⟨id, air.medium.nextFrameId⟩ := by
        rw [sendCopy, found]
        rfl
      have same : (putCopy frame air ⟨id, air.medium.nextFrameId⟩).medium.linkId? source =
          air.medium.linkId? source := funext ((wiring_putCopy frame air _).linkId? source)
      rw [List.filterMap_cons_some found, copiesFor_cons, List.foldl_cons, put, same,
        nextFrameId_putCopy]

private theorem broadcast_eq (net : Network) (source : NodeId) (frame : Frame) (sim : Simulator MeshEvent) :
    broadcast source frame ⟨sim, net⟩ =
      (net.broadcastCopies source).foldl (putCopy frame) ⟨sim, net⟩ :=
  foldl_sendCopy source frame (net.neighbors source) ⟨sim, net⟩

namespace InStep

/-- The latest link to a node is taken once for each link that leads there, and any other link never. -/
theorem count_latestLinks (inStep : net.InStep) {link : Link} (present : net.links[id]? = some link)
    (source : NodeId) : (net.latestLinks source).count id =
      if net.linkId? source link.target = some id then net.linksBetween source link.target else 0 := by
  have toward (target : NodeId) (found : net.linkId? source target = some id) : target = link.target := by
    obtain ⟨link', present', -, there⟩ := inStep.linkId? found
    rw [present] at present'
    cases present'
    exact there.symm
  rw [latestLinks, List.count_filterMap, ← inStep.tallied]
  split
  · next latest =>
    refine List.countP_congr fun target _ => ?_
    rw [beq_iff_eq, beq_iff_eq]
    exact ⟨toward target, fun same => same ▸ latest⟩
  · next other =>
    refine List.countP_eq_zero.mpr fun target _ found => ?_
    rw [beq_iff_eq] at found
    exact other (toward target found ▸ found)

/-- Whichever links are taken, to each node lead as many of them as there are links to it. -/
private theorem countP_latestLinks (inStep : net.InStep) (source target : NodeId) :
    (net.latestLinks source).countP (net.ends? · = some (source, target)) =
      net.linksBetween source target := by
  rw [latestLinks, List.countP_filterMap, ← inStep.tallied]
  refine List.countP_congr fun other listed => ?_
  obtain ⟨id, found⟩ := exists_linkId? listed
  rw [found, Option.map_some, Option.getD_some, inStep.wired.linkId? found]
  simp

/-- A broadcast takes every link out of the node once exactly if no two of them lead to the same node. -/
private theorem latestLinks_all_once_iff (inStep : net.InStep) (source : NodeId) :
    (∀ id link, net.links[id]? = some link → link.source = source →
        (net.latestLinks source).count id = 1) ↔
      ∀ target, net.linksBetween source target ≤ 1 := by
  constructor
  · intro once target
    by_contra! several
    rw [← inStep.tallied] at several
    obtain ⟨id, found⟩ := exists_linkId? (List.count_pos_iff.mp (Nat.zero_lt_of_lt several))
    obtain ⟨link, present, mine, rfl⟩ := inStep.linkId? found
    have carried := inStep.count_latestLinks present source
    rw [if_pos found, once id link present mine, ← inStep.tallied] at carried
    omega
  · rintro single id link present rfl
    have latest := inStep.linkId?_of_single present single
    have listed := List.count_pos_iff.mpr (inStep.mem_neighbors present)
    rw [inStep.tallied] at listed
    rw [inStep.count_latestLinks present, if_pos latest]
    exact Nat.le_antisymm (single _) listed

end InStep

private theorem nextFrameId_putCopies (frame : Frame) (copies : List Copy) (air : Air Network) :
    (copies.foldl (putCopy frame) air).medium.nextFrameId =
      air.medium.nextFrameId + .ofNat copies.length := by
  induction copies generalizing air with
  | nil => simp
  | cons copy rest ih =>
    rw [List.foldl_cons, ih, nextFrameId_putCopy, List.length_cons, UInt64.ofNat_add,
      UInt64.add_comm (.ofNat rest.length), ← UInt64.add_assoc]
    rfl

private theorem countP_le_nextId (frame : Frame) (copies : List Copy) (air : Air Network)
    (whole : ∃ link, air.medium.links[id]? = some link ∧ link.lossPercent = 0) :
    air.sim.nextId + copies.countP (·.link = id) ≤ (copies.foldl (putCopy frame) air).sim.nextId := by
  induction copies generalizing air with
  | nil => exact Nat.le_refl _
  | cons copy rest ih =>
    obtain ⟨link, present, lossless⟩ := whole
    let counted : Air Network := { air with
      medium := air.medium.takeFrameId.2.count fun s => { s with sentFrames := s.sentFrames + 1 } }
    have there : counted.medium.links[id]? = some link := present
    rw [List.foldl_cons, List.countP_cons, Nat.add_comm (rest.countP _), ← Nat.add_assoc]
    by_cases here : copy.link = id
    · subst here
      have next : (putCopy frame air copy).sim.nextId = air.sim.nextId + 1 := by
        rw [putCopy, transmit_sim there, if_neg (by simp [Link.drops, lossless])]
        rfl
      rw [if_pos (decide_eq_true rfl), ← next]
      exact ih (putCopy frame air copy) ⟨_, transmit_link there _, lossless⟩
    · have later : air.sim.nextId ≤ (putCopy frame air copy).sim.nextId :=
        (changes_transmit copy.link _ counted).nextId
      rw [if_neg (by simp [here]), Nat.add_zero]
      refine (Nat.add_le_add_right later _).trans (ih (putCopy frame air copy) ⟨link, ?_, lossless⟩)
      rw [putCopy, transmit_links_of_ne here]
      exact there

/-- In a network that was put together in whatever order, a broadcast puts copies of the frame, numbered one
after another with the next numbers of the network, on the links to its neighbours. The link that is used to
a node, which is the last one that was made, carries as many copies as there are links to that node, every
other link none. So many copies go to each node as there are links to it, and every link out of the sender
carries one copy exactly if no two of them lead to the same node. -/
theorem broadcast_takes_latest_links (built : net.Built) (source : NodeId) (frame : Frame)
    (sim : Simulator MeshEvent) :
    (broadcast source frame ⟨sim, net⟩ =
        (net.broadcastCopies source).foldl (putCopy frame) ⟨sim, net⟩ ∧
      (∀ k copy, (net.broadcastCopies source)[k]? = some copy →
        copy.number = net.nextFrameId + .ofNat k) ∧
      (broadcast source frame ⟨sim, net⟩).medium.nextFrameId =
        net.nextFrameId + .ofNat (net.broadcastCopies source).length) ∧
    (∀ target id, net.linkId? source target = some id → ∀ other link, net.links[other]? = some link →
      link.source = source → link.target = target → other ≤ id) ∧
    (∀ id link, net.links[id]? = some link → (net.broadcastCopies source).countP (·.link = id) =
      if net.linkId? source link.target = some id then net.linksBetween source link.target else 0) ∧
    (∀ target, (net.broadcastCopies source).countP (net.ends? ·.link = some (source, target)) =
      net.linksBetween source target) ∧
    ((∀ id link, net.links[id]? = some link → link.source = source →
        (net.broadcastCopies source).countP (·.link = id) = 1) ↔
      ∀ target, net.linksBetween source target ≤ 1) := by
  have inStep := built.inStep
  have taken (id : LinkId) : (net.broadcastCopies source).countP (·.link = id) =
      (net.latestLinks source).count id :=
    countP_copiesFor _ _ (· = id)
  refine ⟨⟨broadcast_eq net source frame sim, fun k copy here => ?_, ?_⟩,
    fun target id found other link => inStep.le_of_linkId? found, fun id link present => ?_,
    fun target => ?_, ?_⟩
  · rw [broadcastCopies, copiesFor, List.getElem?_mapIdx] at here
    obtain ⟨link, -, rfl⟩ := Option.map_eq_some_iff.mp here
    rfl
  · rw [broadcast_eq, nextFrameId_putCopies]
  · rw [taken, inStep.count_latestLinks present]
  · exact (countP_copiesFor _ _ (net.ends? · = some (source, target))).trans
      (inStep.countP_latestLinks source target)
  · simp only [taken]
    exact inStep.latestLinks_all_once_iff source

/-- The node of a number joins a network as the last one, if that is its number. -/
theorem Built.added (built : net.Built)
    (valid : (MeshNode.create net.nodes.size (.ofIndex net.nodes.size)).isOk = true) :
    ∃ n, (net.withNode n).Built := by
  obtain ⟨n, done⟩ := ok_of_isOk valid
  have added : net.addNode (MeshNode.create · (.ofIndex net.nodes.size)) =
      .ok (net.nodes.size, net.withNode n) := by
    rw [addNode, done]
    rfl
  exact ⟨n, built.joined added⟩

/-- Two nodes and two links from the first to the second, the later of them with a loss. -/
def doubled (n m : MeshNode) (loss : Nat) : Network where
  nodes := #[n, m]
  links := #[.create 0 1 (.ofMicros 2) 2_000_000,
    { Link.create 0 1 (.ofMicros 2) 2_000_000 with lossPercent := min loss 100 }]
  outlets := #[[⟨1, 0⟩, ⟨1, 1⟩], []]

theorem built_doubled (loss : Nat) : ∃ n m, (doubled n m loss).Built := by
  have first : (MeshNode.create 0 (.ofIndex 0)).isOk = true := by rfl
  have second : (MeshNode.create 1 (.ofIndex 1)).isOk = true := by rfl
  obtain ⟨n, single⟩ := Built.empty.added first
  obtain ⟨m, pair⟩ := single.added second
  have forth : ((empty.withNode n).withNode m).connect 0 1 (.ofMicros 2) 2_000_000 0 =
      .ok (0, { doubled n m 0 with
        links := #[.create 0 1 (.ofMicros 2) 2_000_000], outlets := #[[⟨1, 0⟩], []] }) := rfl
  have again : connect { doubled n m 0 with
      links := #[.create 0 1 (.ofMicros 2) 2_000_000], outlets := #[[⟨1, 0⟩], []] } 0 1 (.ofMicros 2)
      2_000_000 loss = .ok (1, doubled n m loss) := rfl
  exact ⟨n, m, (pair.connected forth).connected again⟩

/-- The earlier one of two links to the same node carries no copy, the later one two. -/
theorem doubled_link_carries_both : ∃ net : Network, net.Built ∧
    (∃ link, net.links[0]? = some link ∧ link.source = 0 ∧ link.target = 1) ∧
    (∃ link, net.links[1]? = some link ∧ link.source = 0 ∧ link.target = 1) ∧
    ∀ frame sim, broadcast 0 frame ⟨sim, net⟩ =
        (net.broadcastCopies 0).foldl (putCopy frame) ⟨sim, net⟩ ∧
      (net.broadcastCopies 0).countP (·.link = 0) = 0 ∧
      (net.broadcastCopies 0).countP (·.link = 1) = 2 := by
  obtain ⟨n, m, built⟩ := built_doubled 100
  refine ⟨_, built, ⟨_, rfl, rfl, rfl⟩, ⟨_, rfl, rfl, rfl⟩, fun frame sim => ?_⟩
  obtain ⟨⟨copies, -⟩, -, carried, -⟩ := broadcast_takes_latest_links built 0 frame sim
  exact ⟨copies, carried 0 _ rfl, carried 1 _ rfl⟩

/-- So not every link out of a node carries a copy of its own. A copy on the first of two links would
arrive, if only the second one loses frames; but none does. -/
theorem not_every_link_carries_one_copy :
    ¬ ∀ net : Network, net.Built → ∀ (source : NodeId) (frame : Frame) (sim : Simulator MeshEvent),
      ∃ copies : List Copy,
        broadcast source frame ⟨sim, net⟩ = copies.foldl (putCopy frame) ⟨sim, net⟩ ∧
        ∀ id link, net.links[id]? = some link → link.source = source →
          copies.countP (·.link = id) = 1 := by
  intro single
  obtain ⟨n, m, built⟩ := built_doubled 100
  let frame : Frame := ⟨0, .broadcast, .ofIndex 0, 0, []⟩
  obtain ⟨copies, same, once⟩ := single _ built 0 frame .empty
  have whole : ∃ link, (doubled n m 100).links[0]? = some link ∧ link.lossPercent = 0 := ⟨_, rfl, rfl⟩
  have scheduled := countP_le_nextId frame copies ⟨.empty, doubled n m 100⟩ whole
  have lost : (broadcast 0 frame ⟨.empty, doubled n m 100⟩).sim.nextId = 0 := rfl
  rw [once 0 _ rfl rfl, ← same, lost] at scheduled
  exact Nat.not_succ_le_zero _ scheduled

end Network

end WirelessMesh
