import WirelessMesh.Proofs.Mesh.Honest
import WirelessMesh.Proofs.Mesh.Reach
import WirelessMesh.Proofs.Node.Twins
import WirelessMesh.Proofs.Simulation.Outline

/-!
A network on its own and the same network as an island of a larger one. Numbers of events and frames
differ, and those of frames do not matter if links lose nothing or all. Main statement: no deed of a node
of the island tells the two apart.
-/
namespace WirelessMesh

def Frame.plain (frame : Frame) : Frame := { frame with id := 0 }

theorem Frame.same_of_plain {frame frame' : Frame} (same : frame'.plain = frame.plain) :
    frame'.size = frame.size ∧ frame'.target = frame.target := by
  have size : frame'.plain.size = frame.plain.size := by rw [same]
  have target : frame'.plain.target = frame.plain.target := by rw [same]
  exact ⟨size, target⟩

namespace MeshEvent

def plain : MeshEvent → MeshEvent
  | .timer node kind => .timer node kind
  | .arrival node frame => .arrival node frame.plain

/-- What is seen of an event from some nodes: only that which is for one of them. -/
def view (home : NodeId → Prop) [DecidablePred home] (event : MeshEvent) : Option MeshEvent :=
  if home event.node then some event.plain else none

variable {home : NodeId → Prop} [DecidablePred home] {event other : MeshEvent} {node : NodeId}

theorem view_eq_some_iff : event.view home = some other ↔ home event.node ∧ event.plain = other := by
  rw [view]
  split
  · next mine => simp [mine]
  · next foreign => simp [foreign]

theorem isSome_view : (event.view home).isSome = true ↔ home event.node := by
  rw [view]
  split
  · next mine => exact iff_of_true rfl mine
  · next foreign => exact iff_of_false Bool.false_ne_true foreign

theorem view_foreign (foreign : ¬ home event.node) : event.view home = none := if_neg foreign

theorem marks_timer (mine : home node) (kind : TimerKind) :
    TimerSlot.Marks (view home) (.timer node kind) (.timer node kind) := by
  intro event
  rw [view_eq_some_iff]
  constructor
  · rintro ⟨-, same⟩
    cases event with
    | timer other purpose => exact same
    | arrival other frame => cases same
  · rintro rfl
    exact ⟨mine, rfl⟩

end MeshEvent

theorem Network.SameLayout.wired {net net' : Network} (same : net.SameLayout net')
    (wired : net.Wired) : net'.Wired := by
  intro source outlet member
  rw [outletsOf, same.outlets] at member
  rw [same.ends]
  exact wired source outlet member

/-- A network is part of another, in which no link joins its nodes with others. From each of its nodes the
same links lead out in both, and the same one is taken to an address. -/
structure Network.Parted (home : NodeId → Prop) (net net' : Network) : Prop where
  wired : net.Wired
  wired' : net'.Wired
  homes : ∀ id, id < net.nodes.size → home id
  outlets : ∀ id, id < net.nodes.size → net'.outletsOf id = net.outletsOf id
  ways : ∀ id, id < net.nodes.size → ∀ eth,
    (net'.nodeByEth? eth).bind (net'.linkId? id) = (net.nodeByEth? eth).bind (net.linkId? id)
  apart : ∀ link source target, net'.ends? link = some (source, target) → (home source ↔ home target)

theorem Network.Parted.relaid {home : NodeId → Prop} {net net' next next' : Network}
    (parted : net.Parted home net') (same : net.SameLayout next) (same' : net'.SameLayout next') :
    next.Parted home next' where
  wired := same.wired parted.wired
  wired' := same'.wired parted.wired'
  homes id within := parted.homes id (same.size ▸ within)
  outlets id within := by
    rw [outletsOf, outletsOf, same.outlets, same'.outlets]
    exact parted.outlets id (same.size ▸ within)
  ways id within eth := by
    have link : next.linkId? id = net.linkId? id := funext (same.linkId? id)
    have link' : next'.linkId? id = net'.linkId? id := funext (same'.linkId? id)
    rw [link, link', same.nodeByEth?, same'.nodeByEth?]
    exact parted.ways id (same.size ▸ within) eth
  apart link source target ends := parted.apart link source target (same'.ends link ▸ ends)

variable {home : NodeId → Prop} [DecidablePred home]

/-- A network on its own and as an island of a larger one. What is to come for its nodes looks the same in
both, and so do its links, which lose nothing or all. -/
structure Island (home : NodeId → Prop) [DecidablePred home] (air air' : Air Network) : Prop where
  valid : air.sim.WellFormed
  valid' : air'.sim.WellFormed
  parted : air.medium.Parted home air'.medium
  links : ∀ (id : LinkId) (link : Link), home link.source →
    (air'.medium.links[id]? = some link ↔ air.medium.links[id]? = some link)
  certain : ∀ (id : LinkId) (link : Link), air.medium.links[id]? = some link →
    link.lossPercent = 0 ∨ 100 ≤ link.lossPercent
  visible : ∀ x ∈ air.sim.live, home x.event.node
  seen : air'.sim.seen (MeshEvent.view home) = air.sim.seen (MeshEvent.view home)

/-- The same at one time in both, as when a node of the island acts. -/
structure Abreast (home : NodeId → Prop) [DecidablePred home] (air air' : Air Network) : Prop
    extends Island home air air' where
  now : air'.now = air.now

/-- What becomes of a frame on a link that loses nothing or all has nothing to do with its number. -/
private theorem Link.drops_of_certain {link : Link} (certain : link.lossPercent = 0 ∨ 100 ≤ link.lossPercent)
    (a b : UInt64) : link.drops a = link.drops b := by
  unfold drops
  rcases certain with none | all
  · rw [if_pos none, if_pos none]
  · rw [if_pos all, if_pos all]

variable {air air' : Air Network} {frame frame' : Frame} {source target node : NodeId}

namespace Island

theorem visible_changes {sim : Simulator MeshEvent} (island : Island home air air')
    (changes : air.sim.Changes (fun event => home event.node) sim) :
    ∀ x ∈ sim.live, home x.event.node := by
  intro x live
  rcases changes.fresh island.valid x live with before | ⟨-, mine, -⟩
  · exact island.visible x before
  · exact mine

/-- Nodes and links may be changed as long as they keep their addresses and ends, links not at all. -/
theorem relaid {net net' : Network} (island : Island home air air')
    (same : air.medium.SameLayout net) (same' : air'.medium.SameLayout net')
    (links : net.links = air.medium.links) (links' : net'.links = air'.medium.links) :
    Island home { air with medium := net } { air' with medium := net' } where
  valid := island.valid
  valid' := island.valid'
  parted := island.parted.relaid same same'
  links id link mine := by
    rw [links, links']
    exact island.links id link mine
  certain id link present := island.certain id link (links ▸ present)
  visible := island.visible
  seen := island.seen

theorem beside (island : Island home air air') {next : Air Network} {other : NodeId}
    (foreign : ¬ home other) (confined : Confined other (fun id => ¬ home id) air' next) :
    Island home air next where
  valid := island.valid
  valid' := confined.changes.valid island.valid'
  parted := island.parted.relaid (.of_wiring (.refl _)) (.of_wiring confined.wiring)
  links id link mine :=
    (confined.links id link fun same => foreign (same ▸ mine)).trans (island.links id link mine)
  certain := island.certain
  visible := island.visible
  seen := by
    have spares : air'.sim.Spares (fun event => home event.node) next.sim :=
      confined.changes.spares fun _ away mine => away mine
    have same := Simulator.seen_spares island.valid' spares fun _ => MeshEvent.isSome_view.mp
    exact same.trans island.seen

theorem waited (island : Island home air air') (now now' : Time) :
    Island home { air with sim := { air.sim with now } }
      { air' with sim := { air'.sim with now := now' } } := by
  have still (sim : Simulator MeshEvent) (now : Time) :
      sim.Spares MeshEvent.IsArrival { sim with now } := .wait sim now
  exact ⟨(still _ _).valid island.valid, (still _ _).valid island.valid', island.parted, island.links,
    island.certain, island.visible, island.seen⟩

/-- Where the larger network has nothing more to do, neither has the island. -/
theorem idle {limit : Option Time} (island : Island home air air')
    (stopped : air'.sim.next? limit = none) : air.sim.next? limit = none :=
  Simulator.next?_none_of_seen island.valid island.valid' island.seen
    (fun x live => MeshEvent.isSome_view.mpr (island.visible x live)) stopped

section Timers

variable {slot slot' : TimerSlot} {kind : TimerKind}

private theorem isArmed_eq (island : Island home air air') (mine : home node)
    (holds : slot.Holds air.sim (.timer node kind)) (holds' : slot'.Holds air'.sim (.timer node kind)) :
    slot'.isArmed air'.sim = slot.isArmed air.sim := by
  have marks := MeshEvent.marks_timer mine kind
  rw [Bool.eq_iff_iff, holds.isArmed_seen island.valid marks, holds'.isArmed_seen island.valid' marks,
    island.seen]

theorem due?_eq (island : Island home air air') (mine : home node)
    (holds : slot.Holds air.sim (.timer node kind)) (holds' : slot'.Holds air'.sim (.timer node kind)) :
    slot'.due? air'.sim = slot.due? air.sim := by
  have marks := MeshEvent.marks_timer mine kind
  refine Option.ext fun due => ?_
  rw [holds.due?_seen island.valid marks, holds'.due?_seen island.valid' marks, island.seen]

end Timers

end Island

namespace Abreast

/-- The media change in what has nothing to do with links. -/
theorem rewired {net net' : Network} (abreast : Abreast home air air')
    (wiring : air.medium.SameWiring net) (wiring' : air'.medium.SameWiring net')
    (links : net.links = air.medium.links) (links' : net'.links = air'.medium.links) :
    Abreast home { air with medium := net } { air' with medium := net' } where
  toIsland := abreast.toIsland.relaid (.of_wiring wiring) (.of_wiring wiring') links links'
  now := abreast.now

/-- A frame is put on a link of the island, in each network under a number of its own. -/
theorem transmit {id : LinkId} (abreast : Abreast home air air')
    (ends : air.medium.ends? id = some (source, target)) (mine : home source)
    (same : frame'.plain = frame.plain) :
    Abreast home (Network.transmit id frame air) (Network.transmit id frame' air') := by
  obtain ⟨link, present, ends⟩ := Option.map_eq_some_iff.mp ends
  obtain ⟨rfl, rfl⟩ := Prod.mk.inj ends
  have present' := (abreast.links id link mine).mpr present
  have near : home link.target := by
    refine (abreast.parted.apart id link.source link.target ?_).mp mine
    rw [Network.ends?, present', Option.map_some]
  have now : air'.now = air.now := abreast.now
  obtain ⟨size, -⟩ := Frame.same_of_plain same
  have drops : link.drops frame'.id = link.drops frame.id :=
    Link.drops_of_certain (abreast.certain id link present) _ _
  have sim := Network.transmit_sim present frame
  have sim' := Network.transmit_sim present' frame'
  have changes : air.sim.Changes (fun event => home event.node) (Network.transmit id frame air).sim := by
    rw [sim]
    split
    · exact .refl _
    · exact Simulator.changes_schedule (link.le_arrival air.now _) near
  have wiring := Network.wiring_transmit id frame air
  have wiring' := Network.wiring_transmit id frame' air'
  refine ⟨⟨changes.valid abreast.valid, ?_, ?_, fun other known home => ?_, fun other known found => ?_,
    abreast.visible_changes changes, ?_⟩, ?_⟩
  · exact (Network.changes_transmit id frame' air').valid abreast.valid'
  · exact abreast.parted.relaid (.of_wiring wiring) (.of_wiring wiring')
  · by_cases here : id = other
    · subst here
      rw [Network.transmit_link present, Network.transmit_link present', now, size]
    · rw [Network.transmit_links_of_ne here, Network.transmit_links_of_ne here]
      exact abreast.links other known home
  · by_cases here : id = other
    · subst here
      rw [Network.transmit_link present] at found
      cases found
      exact abreast.certain id link present
    · rw [Network.transmit_links_of_ne here] at found
      exact abreast.certain other known found
  · rw [sim, sim', drops, now, size]
    split
    · exact abreast.seen
    · have shows (frame : Frame) : MeshEvent.view home (.arrival link.target frame) =
          some (.arrival link.target frame.plain) := MeshEvent.view_eq_some_iff.mpr ⟨near, rfl⟩
      rw [Simulator.seen_schedule abreast.valid _ (shows frame),
        Simulator.seen_schedule abreast.valid' _ (shows frame'), abreast.seen, same]
  · exact ((Network.changes_transmit id frame' air').now.trans now).trans changes.now.symm

theorem sendCopy (abreast : Abreast home air air') (present : source < air.medium.nodes.size)
    (target : NodeId) (same : frame'.plain = frame.plain) :
    Abreast home (Network.sendCopy source target frame air)
      (Network.sendCopy source target frame' air') := by
  have link : air'.medium.linkId? source target = air.medium.linkId? source target := by
    rw [Network.linkId?, Network.linkId?, abreast.parted.outlets source present]
  unfold Network.sendCopy
  rw [link]
  split
  · exact abreast
  · next id found =>
    have counted (net : Network) : net.SameWiring (net.takeFrameId.2.count fun s =>
        { s with sentFrames := s.sentFrames + 1 }) :=
      (Network.SameWiring.takeFrameId net).trans (.count _ _)
    have ends := abreast.parted.wired.linkId? found
    have ready := abreast.rewired (counted _) (counted _) rfl rfl
    exact ready.transmit (((counted _).ends id).trans ends) (abreast.parted.homes source present) same

theorem broadcast (abreast : Abreast home air air') (present : source < air.medium.nodes.size)
    (same : frame'.plain = frame.plain) :
    Abreast home (Network.broadcast source frame air) (Network.broadcast source frame' air') := by
  have neighbors : air'.medium.neighbors source = air.medium.neighbors source := by
    rw [Network.neighbors, Network.neighbors, abreast.parted.outlets source present]
  unfold Network.broadcast
  rw [neighbors]
  generalize air.medium.neighbors source = targets
  clear neighbors
  induction targets generalizing air air' with
  | nil => exact abreast
  | cons target rest ih =>
    have size := congrArg Array.size (Network.wiring_sendCopy source target frame air).nodes
    exact ih (abreast.sendCopy present target same) (size ▸ present)

theorem send (abreast : Abreast home air air') (present : source < air.medium.nodes.size)
    (same : frame'.plain = frame.plain) :
    Abreast home (Network.send source frame air) (Network.send source frame' air') := by
  obtain ⟨-, target⟩ := Frame.same_of_plain same
  have counted (net : Network) : net.SameWiring (net.count fun s =>
      { s with sentFrames := s.sentFrames + 1 }) := .count _ _
  have ready := abreast.rewired (counted _) (counted _) rfl rfl
  have ways := ready.parted.ways source present frame.target
  unfold Network.send
  rw [target]
  split
  · exact abreast.broadcast present same
  · dsimp only at ways ⊢
    rw [ways]
    split
    · next id found =>
      obtain ⟨target, -, found⟩ := Option.bind_eq_some_iff.mp found
      have ends := ready.parted.wired.linkId? found
      exact ready.transmit ends (abreast.parted.homes source present) same
    · exact ready.rewired (.count _ _) (.count _ _) rfl rfl

theorem timed {sim sim' : Simulator MeshEvent} (abreast : Abreast home air air') (mine : home node)
    (changes : air.sim.Changes (fun event => ∃ kind, event = .timer node kind) sim)
    (changes' : air'.sim.Changes (fun event => ∃ kind, event = .timer node kind) sim')
    (seen : sim'.seen (MeshEvent.view home) = sim.seen (MeshEvent.view home)) :
    Abreast home { air with sim } { air' with sim := sim' } where
  valid := changes.valid abreast.valid
  valid' := changes'.valid abreast.valid'
  parted := abreast.parted
  links := abreast.links
  certain := abreast.certain
  visible := abreast.visible_changes (changes.mono fun _ ⟨_, timer⟩ => timer ▸ mine)
  seen := seen
  now := changes'.now.trans (abreast.now.trans changes.now.symm)

end Abreast

structure AbreastDesks (home : NodeId → Prop) [DecidablePred home] (node : NodeId)
    (desk desk' : Desk Network) : Prop where
  airs : Abreast home desk.air desk'.air
  present : node < desk.air.medium.nodes.size
  tidy : desk.Tidy node
  tidy' : desk'.Tidy node

namespace AbreastDesks

variable {desk desk' : Desk Network}

theorem mine (desks : AbreastDesks home node desk desk') : home node :=
  desks.airs.parted.homes node desks.present

theorem armed (desks : AbreastDesks home node desk desk') (kind : TimerKind) :
    (desk'.slots kind).isArmed desk'.air.sim = (desk.slots kind).isArmed desk.air.sim :=
  desks.airs.isArmed_eq desks.mine (desks.tidy.holds kind) (desks.tidy'.holds kind)

private theorem airs_perform (desks : AbreastDesks home node desk desk') (deed : Deed) :
    Abreast home (desk.perform node deed).air (desk'.perform node deed).air := by
  have marks (kind : TimerKind) := MeshEvent.marks_timer desks.mine kind
  have numbered (draft : Draft) : Abreast home
      { desk.air with medium := (desk.air.medium.number draft).2 }
      { desk'.air with medium := (desk'.air.medium.number draft).2 } :=
    desks.airs.rewired (.takeFrameId _) (.takeFrameId _) rfl rfl
  have timing (only : deed.Timing) := desks.tidy.changes_timing only
  have timing' (only : deed.Timing) := desks.tidy'.changes_timing only
  cases deed with
  | post draft => exact (numbered draft).send desks.present rfl
  | announce draft => exact (numbered draft).broadcast desks.present rfl
  | reject frame => exact desks.airs.rewired ⟨rfl, rfl, fun _ => rfl⟩ ⟨rfl, rfl, fun _ => rfl⟩ rfl rfl
  | arm kind delay =>
    refine desks.airs.timed desks.mine (timing trivial) (timing' trivial) ?_
    have now : desk'.air.sim.now = desk.air.sim.now := desks.airs.now
    show ((desk'.slots kind).rearm desk'.air.sim delay _).2.seen _ =
      ((desk.slots kind).rearm desk.air.sim delay _).2.seen _
    rw [(desks.tidy.holds kind).seen_rearm desks.tidy.valid (marks kind),
      (desks.tidy'.holds kind).seen_rearm desks.tidy'.valid (marks kind), now, desks.airs.seen]
  | disarm kind =>
    refine desks.airs.timed desks.mine (timing trivial) (timing' trivial) ?_
    show ((desk'.slots kind).disarm desk'.air.sim).seen _ =
      ((desk.slots kind).disarm desk.air.sim).seen _
    rw [(desks.tidy.holds kind).seen_disarm desks.tidy.valid (marks kind),
      (desks.tidy'.holds kind).seen_disarm desks.tidy'.valid (marks kind), desks.airs.seen]
  | forget kind =>
    unfold Desk.perform
    simp only [desks.armed kind]
    split
    · exact desks.airs
    · exact desks.airs

/-- No deed of a node of the island tells the networks apart. -/
theorem tandem (home : NodeId → Prop) [DecidablePred home] (node : NodeId) :
    Tandem node (AbreastDesks home node) where
  now desks := desks.airs.now
  armed desks := desks.armed
  perform {desk _} desks deed := by
    have size := congrArg Array.size (Mesh.wiring_perform node desk deed).nodes
    exact ⟨desks.airs_perform deed, size ▸ desks.present, desks.tidy.perform deed,
      desks.tidy'.perform deed⟩

end AbreastDesks

end WirelessMesh
