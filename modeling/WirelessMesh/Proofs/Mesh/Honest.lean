import WirelessMesh.Config.Scenario
import WirelessMesh.Proofs.Mesh.Operation
import WirelessMesh.Proofs.Node.Honest

/-!
Networks that nobody disturbs: after they have been built, only their nodes send frames. Main statement:
if every link goes both ways and every node has the address of its number, then nodes write only to those
to whom they have a link, and hear only what is of use to them.
-/
namespace WirelessMesh

namespace Network

def Reaches (net : Network) (id : NodeId) (eth : EtherAddress) : Prop :=
  ∃ target, net.nodeByEth? eth = some target ∧ (net.linkId? id target).isSome = true

/-- A network whose nodes have the same addresses, and whose links have the same ends. -/
structure SameLayout (net net' : Network) : Prop where
  size : net'.nodes.size = net.nodes.size
  addresses : ∀ id, (net'.node? id).map (·.addresses) = (net.node? id).map (·.addresses)
  outlets : net'.outlets = net.outlets
  ends : ∀ id, net'.ends? id = net.ends? id

namespace SameLayout

variable {net net' net'' : Network}

theorem trans (first : net.SameLayout net') (second : net'.SameLayout net'') :
    net.SameLayout net'' where
  size := second.size.trans first.size
  addresses id := (second.addresses id).trans (first.addresses id)
  outlets := second.outlets.trans first.outlets
  ends id := (second.ends id).trans (first.ends id)

theorem of_wiring (same : net.SameWiring net') : net.SameLayout net' where
  size := congrArg Array.size same.nodes
  addresses id := by rw [node?_congr same.nodes]
  outlets := same.outlets
  ends := same.ends

theorem node_replaced {id : NodeId} {n n' : MeshNode} (present : net.node? id = some n)
    (same : n'.addresses = n.addresses) : net.SameLayout (net.setNode id n') where
  size := size_setNode id n'
  addresses := map_setNode (·.addresses) present same
  outlets := rfl
  ends _ := rfl

theorem nodeByEth? (same : net.SameLayout net') (eth : EtherAddress) :
    net'.nodeByEth? eth = net.nodeByEth? eth := by
  rw [Network.nodeByEth?, Network.nodeByEth?, same.size]
  exact nodeBelow?_congr fun j _ => MeshNode.eth_congr (same.addresses j)

theorem linkId? (same : net.SameLayout net') (source target : NodeId) :
    net'.linkId? source target = net.linkId? source target := by
  rw [Network.linkId?, Network.linkId?, outletsOf, outletsOf, same.outlets]

theorem reaches_iff (same : net.SameLayout net') {id : NodeId} {eth : EtherAddress} :
    net'.Reaches id eth ↔ net.Reaches id eth := by
  rw [Reaches, Reaches, same.nodeByEth?]
  exact exists_congr fun target => and_congr_right fun _ => by rw [same.linkId?]

end SameLayout

/-- A network whose nodes have the addresses of their numbers, and whose links go both ways. -/
structure Regular (net : Network) : Prop where
  few : net.nodes.size ≤ Scenario.maxNodes
  named : ∀ id n, net.node? id = some n → ∀ eth ∈ n.addresses, eth = .ofIndex id
  wired : net.Wired
  bothWays : ∀ link a b, net.ends? link = some (a, b) →
    a < net.nodes.size ∧ (net.linkId? b a).isSome = true

variable {net net' : Network} {id target : NodeId} {eth : EtherAddress}

theorem nodeBelow?_of_alone {n : MeshNode} {k : NodeId} (present : net.node? target = some n)
    (mine : n.eth = eth) (alone : ∀ j m, net.node? j = some m → m.eth = eth → j = target)
    (below : target < k) : net.nodeBelow? eth k = some target := by
  induction k with
  | zero => exact absurd below (Nat.not_lt_zero _)
  | succ k ih =>
    rw [nodeBelow?]
    split
    · next hit =>
      obtain ⟨m, there, same⟩ := (Option.any_eq_true _ _).mp hit
      rw [alone k m there (of_decide_eq_true same)]
    · next missed =>
      refine ih (Nat.lt_of_le_of_ne (Nat.le_of_lt_succ below) ?_)
      rintro rfl
      rw [present] at missed
      exact missed (decide_eq_true mine)

/-- Numbers up to the most nodes that a mesh can have give addresses of their own. -/
theorem ofIndex_inj {i j : Nat} (few : i < Scenario.maxNodes) (few' : j < Scenario.maxNodes)
    (same : EtherAddress.ofIndex i = .ofIndex j) : i = j := by
  simp only [EtherAddress.ofIndex, EtherAddress.mk.injEq, true_and, ← UInt8.toNat_inj,
    UInt8.toNat_ofNat'] at same
  simp only [Scenario.maxNodes] at few few'
  omega

namespace Regular

theorem relaid (regular : net.Regular) (same : net.SameLayout net') : net'.Regular where
  few := same.size ▸ regular.few
  named id n' present eth member := by
    have there := same.addresses id
    rw [present, Option.map_some] at there
    obtain ⟨n, before, shared⟩ := Option.map_eq_some_iff.mp there.symm
    exact regular.named id n before eth (shared ▸ member)
  wired source outlet member := by
    rw [outletsOf, same.outlets] at member
    rw [same.ends]
    exact regular.wired source outlet member
  bothWays link a b ends := by
    rw [same.size, same.linkId?]
    exact regular.bothWays link a b (same.ends link ▸ ends)

theorem nodeByEth? (regular : net.Regular) (within : id < net.nodes.size) :
    net.nodeByEth? (.ofIndex id) = some id := by
  have own (j : NodeId) (m : MeshNode) (there : net.node? j = some m) : m.eth = .ofIndex j :=
    regular.named j m there m.eth List.mem_cons_self
  obtain ⟨n, present⟩ := node?_of_lt within
  refine nodeBelow?_of_alone present (own id n present) (fun j m there same => ?_) within
  have below := Nat.lt_of_lt_of_le (node?_lt there) regular.few
  exact ofIndex_inj below (Nat.lt_of_lt_of_le within regular.few) ((own j m there).symm.trans same)

theorem reaches (regular : net.Regular) {link : LinkId} {a b : NodeId}
    (ends : net.ends? link = some (a, b)) : net.Reaches b (.ofIndex a) := by
  obtain ⟨within, back⟩ := regular.bothWays link a b ends
  exact ⟨a, regular.nodeByEth? within, back⟩

end Regular

end Network

namespace Sending

/-- A frame that is of use, goes out under the address of its sender, and gets onto a link. -/
structure Honest (s : Sending) : Prop where
  source : s.frame.source = .ofIndex s.source
  usable : s.frame.Usable
  passes : s.isStopped = false

/-- A frame for one node that gets onto a link is for a node to which the sender has one. -/
def Addressed (net : Network) (s : Sending) : Prop :=
  s.isCopy = false → s.isStopped = false → net.Reaches s.source s.frame.target

theorem handover?_eq_some {s : Sending} {h : Handover} (stands : s.handover? = some h) :
    s.frame = h.frame ∧ ∃ link, s.passage = .carried link h.node h.event := by
  unfold handover? at stands
  split at stands
  · next link target event carried =>
    cases stands
    exact ⟨rfl, link, carried⟩
  · cases stands

end Sending

namespace Network

variable {net : Network} {air : Air Network} {source : NodeId} {frame : Frame}

/-- A frame that is put on a link that there is gets somewhere or is lost. -/
theorem passage_ne_stopped {id : LinkId} {target : NodeId} (wired : air.medium.Wired)
    (found : air.medium.linkId? source target = some id) (frame : Frame) :
    passage id frame air ≠ .stopped := by
  obtain ⟨link, present, -⟩ := Option.map_eq_some_iff.mp (wired.linkId? found)
  intro stopped
  simp only [passage, present] at stopped
  split at stopped
  · cases stopped
  · cases stopped

theorem isStopped_iff {s : Sending} : s.isStopped = true ↔ s.passage = .stopped := by
  unfold Sending.isStopped
  split
  · next stopped => simp [stopped]
  · next other => simpa using other

private theorem honest_copies (wired : air.medium.Wired) (own : frame.source = .ofIndex source)
    (usable : frame.Usable) (target : NodeId) :
    ∀ s ∈ copies source target frame air, s.Honest := by
  intro s member
  cases found : air.medium.linkId? source target with
  | none =>
    simp only [copies, found, List.not_mem_nil] at member
  | some id =>
    simp only [copies, found, List.mem_singleton] at member
    subst member
    refine ⟨own, usable.renumbered _, Bool.eq_false_iff.mpr fun stopped => ?_⟩
    exact passage_ne_stopped wired found _ (isStopped_iff.mp stopped)

theorem honest_allCopies (own : frame.source = .ofIndex source) (usable : frame.Usable)
    (targets : List NodeId) : ∀ {air : Air Network}, air.medium.Wired →
      ∀ s ∈ allCopies source frame targets air, s.Honest := by
  induction targets with
  | nil => exact fun _ _ member => absurd member List.not_mem_nil
  | cons target rest ih =>
    intro air wired s member
    rcases List.mem_append.mp member with first | later
    · exact honest_copies wired own usable target s first
    · exact ih ((wiring_sendCopy source target frame air).wired wired) s later

private theorem honest_sendings (wired : air.medium.Wired) (own : frame.source = .ofIndex source)
    (usable : frame.Usable) (reaches : air.medium.Reaches source frame.target) :
    ∀ s ∈ sendings source frame air, s.Honest := by
  intro s member
  unfold sendings at member
  split at member
  · exact honest_allCopies own usable _ wired s member
  · obtain ⟨target, holder, linked⟩ := reaches
    obtain ⟨id, found⟩ := Option.isSome_iff_exists.mp linked
    cases List.mem_singleton.mp member
    refine ⟨own, usable, Bool.eq_false_iff.mpr fun stopped => ?_⟩
    have stopped := isStopped_iff.mp stopped
    simp only [passageTo, holder, Option.bind_some, found] at stopped
    exact passage_ne_stopped wired found frame stopped

private theorem isCopy_allCopies (targets : List NodeId) : ∀ {air : Air Network},
    ∀ s ∈ allCopies source frame targets air, s.isCopy = true := by
  induction targets with
  | nil => exact fun _ member => absurd member List.not_mem_nil
  | cons target rest ih =>
    intro air s member
    rcases List.mem_append.mp member with first | later
    · unfold copies at first
      split at first
      · exact absurd first List.not_mem_nil
      · cases List.mem_singleton.mp first
        rfl
    · exact ih s later

theorem addressed_broadcastings : ∀ s ∈ broadcastings source frame air, s.Addressed net := by
  intro s member single
  rw [isCopy_allCopies _ s member] at single
  cases single

private theorem addressed_sendings : ∀ s ∈ sendings source frame air, s.Addressed air.medium := by
  intro s member
  unfold sendings at member
  split at member
  · exact addressed_broadcastings s member
  · cases List.mem_singleton.mp member
    intro _ passes
    cases holder : air.medium.nodeByEth? frame.target with
    | none => simp [Sending.isStopped, passageTo, holder] at passes
    | some target =>
      cases found : air.medium.linkId? source target with
      | none => simp [Sending.isStopped, passageTo, holder, found] at passes
      | some id => exact ⟨target, holder, by rw [found]; rfl⟩

theorem invalid_transmit (id : LinkId) (frame : Frame) (air : Air Network) :
    (transmit id frame air).medium.stats.droppedInvalid = air.medium.stats.droppedInvalid := by
  unfold transmit
  split
  · rfl
  · simp only
    split
    · rfl
    · rfl

private theorem invalid_sendCopy (source target : NodeId) (frame : Frame) (air : Air Network) :
    (sendCopy source target frame air).medium.stats.droppedInvalid =
      air.medium.stats.droppedInvalid := by
  unfold sendCopy
  split
  · rfl
  · exact invalid_transmit _ _ _

theorem invalid_broadcast (source : NodeId) (frame : Frame) (air : Air Network) :
    (broadcast source frame air).medium.stats.droppedInvalid = air.medium.stats.droppedInvalid := by
  unfold broadcast
  generalize air.medium.neighbors source = targets
  induction targets generalizing air with
  | nil => rfl
  | cons target rest ih => exact (ih _).trans (invalid_sendCopy source target frame air)

private theorem invalid_send (source : NodeId) (frame : Frame) (air : Air Network) :
    (send source frame air).medium.stats.droppedInvalid = air.medium.stats.droppedInvalid := by
  unfold send
  split
  · exact invalid_broadcast source frame air
  · simp only
    split
    · exact invalid_transmit _ _ _
    · rfl

end Network

namespace Desk

variable {id : NodeId} {net : Network} {desk : Desk Network} {dumps : Prop} {deed : Deed}

private theorem honest_deedSendings (same : net.SameWiring desk.air.medium) (wired : net.Wired)
    (fine : deed.Within dumps (.honest (.ofIndex id) (net.Reaches id))) :
    ∀ s ∈ desk.deedSendings id deed, s.Honest := by
  have numbered (draft : Draft) : net.SameWiring (desk.air.medium.number draft).2 :=
    same.trans (.takeFrameId _)
  cases deed with
  | post draft =>
    obtain ⟨own, usable, reaches⟩ := fine
    have layout := Network.SameLayout.of_wiring (numbered draft)
    exact Network.honest_sendings ((numbered draft).wired wired) own (usable _)
      (layout.reaches_iff.mpr reaches)
  | announce draft =>
    obtain ⟨own, usable⟩ := fine
    exact Network.honest_allCopies own (usable _) _ ((numbered draft).wired wired)
  | reject frame => exact fine.elim
  | arm kind delay => exact fun _ member => absurd member List.not_mem_nil
  | disarm kind => exact fun _ member => absurd member List.not_mem_nil
  | forget kind => exact fun _ member => absurd member List.not_mem_nil

private theorem honest_sendings (wired : net.Wired) (script : List Deed) : ∀ {desk : Desk Network},
    net.SameWiring desk.air.medium →
    (∀ deed ∈ script, deed.Within dumps (.honest (.ofIndex id) (net.Reaches id))) →
    ∀ s ∈ desk.sendings id script, s.Honest := by
  induction script with
  | nil => exact fun _ _ _ member => absurd member List.not_mem_nil
  | cons deed rest ih =>
    intro desk same fine s member
    rcases List.mem_append.mp member with first | later
    · exact honest_deedSendings same wired (fine deed List.mem_cons_self) s first
    · exact ih (same.trans (Mesh.wiring_perform id desk deed))
        (fun other among => fine other (List.mem_cons_of_mem _ among)) s later

private theorem addressed_sendings (script : List Deed) : ∀ {desk : Desk Network},
    net.SameWiring desk.air.medium → ∀ s ∈ desk.sendings id script, s.Addressed net := by
  induction script with
  | nil => exact fun _ _ member => absurd member List.not_mem_nil
  | cons deed rest ih =>
    intro desk same s member
    rcases List.mem_append.mp member with first | later
    · cases deed with
      | post draft =>
        have numbered : net.SameWiring (desk.air.medium.number draft).2 :=
          same.trans (.takeFrameId _)
        intro single passes
        exact (Network.SameLayout.of_wiring numbered).reaches_iff.mp
          (Network.addressed_sendings s first single passes)
      | announce draft => exact Network.addressed_broadcastings s first
      | reject frame => exact absurd first List.not_mem_nil
      | arm kind delay => exact absurd first List.not_mem_nil
      | disarm kind => exact absurd first List.not_mem_nil
      | forget kind => exact absurd first List.not_mem_nil
    · exact ih (same.trans (Mesh.wiring_perform id desk deed)) s later

private theorem invalid_perform (desk : Desk Network)
    (fine : deed.Within dumps (.honest (.ofIndex id) (net.Reaches id))) :
    (desk.perform id deed).air.medium.stats.droppedInvalid =
      desk.air.medium.stats.droppedInvalid := by
  cases deed with
  | post draft => exact Network.invalid_send _ _ _
  | announce draft => exact Network.invalid_broadcast _ _ _
  | reject frame => exact fine.elim
  | arm kind delay => rfl
  | disarm kind => rfl
  | forget kind =>
    unfold perform
    simp only
    split
    · rfl
    · rfl

private theorem invalid_play (script : List Deed) : ∀ desk : Desk Network,
    (∀ deed ∈ script, deed.Within dumps (.honest (.ofIndex id) (net.Reaches id))) →
    (desk.play id script).air.medium.stats.droppedInvalid =
      desk.air.medium.stats.droppedInvalid := by
  induction script with
  | nil => exact fun _ _ => rfl
  | cons deed rest ih =>
    intro desk fine
    exact (ih _ fun other among => fine other (List.mem_cons_of_mem _ among)).trans
      (invalid_perform desk (fine deed List.mem_cons_self))

end Desk

/-- A network of regular links in which nobody has refused anything, and nodes know only those to whom
they have links. -/
structure Network.Honest (net : Network) : Prop where
  regular : net.Regular
  nodes : ∀ id n, net.node? id = some n → n.prober.Discreet (net.Reaches id)
  accepted : net.stats.droppedInvalid = 0

namespace Network.Honest

variable {net net' : Network} {id : NodeId} {n n' : MeshNode}

theorem rewired (honest : net.Honest) (same : net.SameWiring net')
    (stats : net'.stats.droppedInvalid = net.stats.droppedInvalid) : net'.Honest where
  regular := honest.regular.relaid (.of_wiring same)
  nodes j m present := by
    rw [node?_congr same.nodes] at present
    exact (honest.nodes j m present).mono fun _ => (SameLayout.of_wiring same).reaches_iff.mpr
  accepted := stats.trans honest.accepted

/-- A node takes its place again that knows only those to whom it has links. -/
theorem replaced (honest : net.Honest) (present : net.node? id = some n)
    (same : n'.addresses = n.addresses) (discreet : n'.prober.Discreet (net.Reaches id)) :
    (net.setNode id n').Honest where
  regular := honest.regular.relaid (.node_replaced present same)
  nodes j m found := by
    have layout : net.SameLayout (net.setNode id n') := .node_replaced present same
    refine Prober.Discreet.mono ?_ fun _ => layout.reaches_iff.mpr
    by_cases here : j = id
    · subst here
      cases (node?_setNode_self (node?_lt present) n').symm.trans found
      exact discreet
    · rw [node?_setNode_of_ne here] at found
      exact honest.nodes j m found
  accepted := honest.accepted

theorem kept (honest : net.Honest) (present : net.node? id = some n)
    (same : n'.addresses = n.addresses) (keeps : n.prober.Keeps n'.prober) :
    (net.setNode id n').Honest :=
  honest.replaced present same ((honest.nodes id n present).kept keeps)

end Network.Honest

namespace Mesh

/-- What is done to a network from outside that puts nothing on it and hands nothing over. -/
inductive Tended (mesh : Mesh) : Mesh → Prop
  | started {id : NodeId} {n : MeshNode} (present : mesh.medium.node? id = some n) :
      Tended mesh (mesh.startNode id).2
  | shutDown (id : NodeId) : Tended mesh (mesh.shutdownNode id).2
  | measured {id : NodeId} {n : MeshNode} (peer : EtherAddress) (moment : Time)
      (present : mesh.medium.node? id = some n) :
      Tended mesh (mesh.put id (n.linkReport peer moment).2)
  | drained {id : NodeId} {n : MeshNode} (present : mesh.medium.node? id = some n) :
      Tended mesh (mesh.put id { n with routes := n.routes.drainLog.2 })
  /-- A link gets other properties, and keeps its ends. -/
  | modified {source target : NodeId} {change : Link → Link}
      (ends : ∀ link, (change link).source = link.source ∧ (change link).target = link.target) :
      Tended mesh { mesh with medium := (mesh.medium.modifyLink source target change).2 }
  | numbered : Tended mesh { mesh with medium := mesh.medium.takeFrameId.2 }
  | waited {limit : Time} (idle : mesh.sim.next? (some limit) = none) :
      Tended mesh { mesh with sim := { mesh.sim with now := max mesh.sim.now limit } }

/-- The runs in which only nodes send frames, each with what was put on the network and what was handed
over. -/
inductive Undisturbed (start : Mesh) : Mesh → List Sending → List Handover → Prop
  | here : Undisturbed start start [] []
  | tended {mesh mesh' : Mesh} {sendings : List Sending} {handovers : List Handover}
      (run : Undisturbed start mesh sendings handovers) (tended : Tended mesh mesh') :
      Undisturbed start mesh' sendings handovers
  | fired {mesh mesh' : Mesh} {sendings : List Sending} {handovers : List Handover}
      {limit : Option Time} {item : Scheduled MeshEvent} {sim : Simulator MeshEvent}
      {script : List Deed} (run : Undisturbed start mesh sendings handovers)
      (taken : mesh.sim.next? limit = some (item, sim))
      (done : execute { mesh with sim } item.event = .ok mesh')
      (acted : Follows (struck { mesh with sim } item.event) item.event.node script mesh') :
      Undisturbed start mesh'
        (sendings ++ Mesh.sendings (struck { mesh with sim } item.event) item.event.node script)
        (handovers ++ item.handover?.toList)

variable {injected : Prop} {start mesh mesh' : Mesh} {past : Past} {sendings : List Sending}
  {handovers : List Handover} {id : NodeId} {limit : Option Time} {item : Scheduled MeshEvent}
  {sim : Simulator MeshEvent}

theorem Tended.reached (tended : Tended mesh mesh') (reached : Reached injected mesh past) :
    ∃ inUse, Reached injected mesh' { past with inUse } := by
  cases tended with
  | started present => exact ⟨_, reached.started present⟩
  | shutDown id => exact ⟨_, reached.shutDown id⟩
  | measured peer moment present => exact ⟨_, reached.measured peer moment present⟩
  | drained present => exact ⟨_, reached.drained present⟩
  | modified ends => exact ⟨_, reached.modified ends⟩
  | numbered => exact ⟨_, reached.numbered⟩
  | waited idle => exact ⟨_, reached.waited idle⟩

theorem Tended.layout (tended : Tended mesh mesh') : mesh.medium.SameLayout mesh'.medium := by
  cases tended with
  | @started id n present =>
    simp only [startNode, present]
    exact .node_replaced present (n.addresses_start _)
  | shutDown id =>
    unfold shutdownNode
    split
    · exact .of_wiring (.refl _)
    · next present => exact .node_replaced present rfl
  | measured peer moment present => exact .node_replaced present rfl
  | drained present => exact .node_replaced present (MeshNode.addresses_drainLog _)
  | modified ends =>
    unfold Network.modifyLink
    split
    · exact .of_wiring (.refl _)
    · exact .of_wiring (.modify _ _ ends)
  | numbered => exact .of_wiring (.takeFrameId _)
  | waited idle => exact .of_wiring (.refl _)

theorem Tended.honest (tended : Tended mesh mesh') (honest : mesh.medium.Honest) :
    mesh'.medium.Honest := by
  cases tended with
  | @started id n present =>
    simp only [startNode, present]
    exact honest.kept present (n.addresses_start _) (n.keeps_start _)
  | shutDown id =>
    unfold shutdownNode
    split
    · exact honest
    · next n present => exact honest.kept present rfl (n.keeps_shutdown _)
  | @measured id n peer moment present =>
    exact honest.kept present rfl (n.keeps_linkReport peer moment)
  | drained present => exact honest.kept present (MeshNode.addresses_drainLog _) (.refl _)
  | modified ends =>
    unfold Network.modifyLink
    split
    · exact honest
    · exact honest.rewired (.modify _ _ ends) rfl
  | numbered => exact honest.rewired (.takeFrameId _) rfl
  | waited idle => exact honest

private theorem invalid_struck (mesh : Mesh) (event : MeshEvent) :
    (struck mesh event).medium.stats.droppedInvalid = mesh.medium.stats.droppedInvalid := by
  cases event <;> rfl

structure Clean (mesh : Mesh) (past : Past) : Prop where
  reached : Reached False mesh past
  honest : mesh.medium.Honest
  sendings : ∀ s ∈ past.sendings, s.Honest

/-- What is to arrive is of use, and is from someone to whom the receiver has a link. -/
theorem Clean.heard (clean : Clean mesh past) {x : Scheduled MeshEvent} {frame : Frame}
    (live : x ∈ mesh.sim.live) (arrival : x.event = .arrival id frame) :
    frame.Usable ∧ mesh.medium.Reaches id frame.source := by
  have accounts := clean.reached.accounts
  have way : (⟨x.id, id, frame⟩ : Handover) ∈ onTheWay mesh.sim :=
    mem_onTheWay.mpr ⟨x, live, by simp only [Scheduled.handover?, arrival]⟩
  obtain ⟨s, sent, stands⟩ :=
    List.mem_filterMap.mp (accounts.fates.symm.subset (List.mem_append_left _ way))
  obtain ⟨rfl, link, carried⟩ : s.frame = frame ∧ ∃ link, s.passage = .carried link id x.id :=
    Sending.handover?_eq_some stands
  have honest := clean.sendings s sent
  have ends := (accounts.fits s sent).ends link id x.id carried
  exact ⟨honest.usable, honest.source ▸ clean.honest.regular.reaches ends⟩

/-- An event is carried out, and whatever its node says is honest. -/
theorem Clean.fired (clean : Clean mesh past)
    (taken : mesh.sim.next? limit = some (item, sim))
    (done : execute { mesh with sim } item.event = .ok mesh') :
    ∃ past', Clean mesh' past' ∧ past'.handovers = past.handovers ++ item.handover?.toList := by
  have settled := clean.reached.settled
  have begun := struck_wiring { mesh with sim } item.event
  have same := Network.node?_congr begun.nodes item.event.node
  have live : item ∈ mesh.sim.live := settled.valid.next?_live taken
  rcases settled.event_cases taken done with
    ⟨absent, rfl⟩ | ⟨n, next, present, number, composed, tidy, takes, rfl⟩
  · have nobody := same.trans absent
    have acted : Follows (struck { mesh with sim } item.event) item.event.node []
        (struck { mesh with sim } item.event) := by
      rw [Follows, nobody]
      exact ⟨rfl, rfl⟩
    refine ⟨_, ⟨clean.reached.fired taken done acted,
      clean.honest.rewired begun (invalid_struck _ _), fun s member => ?_⟩, rfl⟩
    rcases List.mem_append.mp member with before | new
    · exact clean.sendings s before
    · simp only [Mesh.sendings, nobody, List.not_mem_nil] at new
  · have there := same.trans present
    have own := clean.honest.regular.named _ n present
    have discreet := clean.honest.nodes _ n present
    have hears (frame : Frame) (arrival : item.event = .arrival n.id frame) :=
      clean.heard live (number ▸ arrival)
    have acts := composed.within_onEvent (MeshNode.maySpeak_honest discreet own _)
      (fun frame arrival =>
        MeshNode.mayAnswer_honest own (hears frame arrival).1 (hears frame arrival).2) takes
    obtain ⟨script, fine, played⟩ := acts.plays
    rw [number] at played
    have acted : Follows (struck { mesh with sim } item.event) item.event.node script
        (put next.2 item.event.node next.1) := by
      rw [Follows, there]
      exact ⟨next.1, next.2, played, rfl⟩
    have wiring := wiring_play item.event.node script ⟨n.slots, struck { mesh with sim } item.event⟩
    have accepted := Desk.invalid_play script ⟨n.slots, struck { mesh with sim } item.event⟩ fine
    rw [played] at wiring accepted
    have whole : mesh.medium.SameWiring next.2.medium := begun.trans wiring
    have layout := Network.SameLayout.of_wiring whole
    refine ⟨_, ⟨clean.reached.fired taken done acted, ?_, fun s member => ?_⟩, rfl⟩
    · refine (clean.honest.rewired whole (accepted.trans (invalid_struck _ _))).replaced
        ((Network.node?_congr whole.nodes _).trans present) acts.addresses ?_
      exact (MeshNode.discreet_onEvent discreet (fun frame arrival => (hears frame arrival).2)
        takes).mono fun _ => layout.reaches_iff.mpr
    · rcases List.mem_append.mp member with before | new
      · exact clean.sendings s before
      · simp only [Mesh.sendings, there] at new
        exact Desk.honest_sendings clean.honest.regular.wired script begun fine s new

theorem Follows.layout {script : List Deed} (acted : Follows mesh id script mesh')
    (addresses : ∀ j, (mesh'.medium.node? j).map (·.addresses) =
      (mesh.medium.node? j).map (·.addresses)) : mesh.medium.SameLayout mesh'.medium := by
  obtain ⟨size, outlets, ends⟩ := acted.standing
  exact ⟨size, addresses, outlets, ends⟩

private theorem addressed_sendings {net : Network} (same : net.SameWiring mesh.medium) (id : NodeId)
    (script : List Deed) : ∀ s ∈ Mesh.sendings mesh id script, s.Addressed net := by
  unfold Mesh.sendings
  split
  · exact fun _ member => absurd member List.not_mem_nil
  · exact Desk.addressed_sendings script same

namespace Undisturbed

theorem reached (run : Undisturbed start mesh sendings handovers)
    (reached : Reached injected start {}) :
    ∃ inUse, Reached injected mesh ⟨inUse, sendings, handovers⟩ := by
  induction run with
  | here => exact ⟨_, reached⟩
  | tended _ tended ih =>
    obtain ⟨_, before⟩ := ih
    exact tended.reached before
  | fired _ taken done acted ih =>
    obtain ⟨_, before⟩ := ih
    exact ⟨_, before.fired taken done acted⟩

theorem goes_on (reached : Reached injected start {}) :
    KeptByEvents fun mid => ∃ sendings handovers, Undisturbed start mid sendings handovers := by
  rintro mesh mesh' limit item sim ⟨_, _, run⟩ taken done
  obtain ⟨_, there⟩ := run.reached reached
  obtain ⟨_, acted⟩ := (there.settled.fired taken done).follows
  exact ⟨_, _, run.fired taken done acted⟩

theorem runUntil {limit : Time} (run : Undisturbed start mesh sendings handovers)
    (reached : Reached injected start {}) (done : mesh.runUntil limit = .ok mesh') :
    ∃ sendings' handovers', Undisturbed start mesh' sendings' handovers' := by
  refine runUntil_keeps (goes_on reached) ?_ ⟨_, _, run⟩ done
  rintro mid ⟨_, _, before⟩ idle
  exact ⟨_, _, before.tended (.waited idle)⟩

theorem startAll (run : Undisturbed start mesh sendings handovers) :
    Undisturbed start mesh.startAll sendings handovers := by
  refine startAll_keeps (P := (Undisturbed start · sendings handovers)) ?_ run
  exact fun before present => before.tended (.started present)

theorem clean (run : Undisturbed start mesh sendings handovers) (clean : Clean start {}) :
    ∃ past, Clean mesh past ∧ past.handovers = handovers := by
  induction run with
  | here => exact ⟨_, clean, rfl⟩
  | tended _ tended ih =>
    obtain ⟨_, before, rfl⟩ := ih
    obtain ⟨_, after⟩ := tended.reached before.reached
    exact ⟨_, ⟨after, tended.honest before.honest, before.sendings⟩, rfl⟩
  | fired _ taken done _ ih =>
    obtain ⟨_, before, rfl⟩ := ih
    exact before.fired taken done

/-- Nodes keep their addresses and links their ends, so whom a frame is for can be told at the end. -/
theorem addressed (run : Undisturbed start mesh sendings handovers)
    (reached : Reached injected start {}) :
    start.medium.SameLayout mesh.medium ∧ ∀ s ∈ sendings, s.Addressed start.medium := by
  induction run with
  | here => exact ⟨.of_wiring (.refl _), fun _ member => absurd member List.not_mem_nil⟩
  | tended _ tended ih => exact ⟨ih.1.trans tended.layout, ih.2⟩
  | @fired mesh _ _ _ _ item sim script run taken done acted ih =>
    obtain ⟨layout, before⟩ := ih
    obtain ⟨_, there⟩ := run.reached reached
    have begun := struck_wiring { mesh with sim } item.event
    have acts := (there.settled.fired taken done).addresses
    refine ⟨layout.trans ((Network.SameLayout.of_wiring begun).trans (acted.layout acts)),
      fun s member => ?_⟩
    rcases List.mem_append.mp member with old | new
    · exact before s old
    · intro single passes
      exact layout.reaches_iff.mp (addressed_sendings begun _ script s new single passes)

/-- Nothing is dropped but on links. -/
theorem drops_nothing (run : Undisturbed start mesh sendings handovers) (clean : Clean start {}) :
    mesh.medium.stats.droppedNoLink = 0 ∧ mesh.medium.stats.droppedInvalid = 0 := by
  obtain ⟨past, after, -⟩ := run.clean clean
  refine ⟨?_, after.honest.accepted⟩
  rw [after.reached.accounts.stopped, List.countP_eq_zero]
  intro s member
  rw [(after.sendings s member).passes]
  exact Bool.false_ne_true

theorem reaches (run : Undisturbed start mesh sendings handovers) (clean : Clean start {}) :
    ∀ s ∈ sendings, s.isCopy = false → mesh.medium.Reaches s.source s.frame.target := by
  intro s member single
  obtain ⟨layout, addressed⟩ := run.addressed clean.reached
  obtain ⟨_, there⟩ := run.reached clean.reached
  have none := there.accounts.stopped.symm.trans (run.drops_nothing clean).1
  have passes : s.isStopped = false :=
    Bool.eq_false_iff.mpr (List.countP_eq_zero.mp none s member)
  exact layout.reaches_iff.mpr (addressed s member single passes)

theorem usable (run : Undisturbed start mesh sendings handovers) (clean : Clean start {}) :
    ∀ h ∈ handovers, h.frame.Usable := by
  intro h member
  obtain ⟨past, after, rfl⟩ := run.clean clean
  obtain ⟨s, sent, stands⟩ := List.mem_filterMap.mp
    (after.reached.accounts.fates.symm.subset (List.mem_append_right _ member))
  exact (Sending.handover?_eq_some stands).1 ▸ (after.sendings s sent).usable

end Undisturbed

end Mesh

end WirelessMesh
