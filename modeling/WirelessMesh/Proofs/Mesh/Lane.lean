import WirelessMesh.Proofs.Air.Line
import WirelessMesh.Proofs.Mesh.Fates

/-!
The frames from one node to another, in a network whose links stay as they are. Main statement: whatever
the nodes do, a frame from the first node to the second is due after all those before it.
-/
namespace WirelessMesh

/-- The way from one node to another: the link that frames take, and the addresses under which the first
node sends them. -/
structure Lane where
  source : NodeId
  target : NodeId
  link : LinkId
  signers : List EtherAddress

def Link.until (link : Link) (busyUntil : Time) : Link := { link with busyUntil }

namespace Network.SameWiring

variable {net net' : Network}

theorem nodeByEth? (same : net.SameWiring net') (eth : EtherAddress) :
    net'.nodeByEth? eth = net.nodeByEth? eth := by
  rw [Network.nodeByEth?, Network.nodeByEth?, same.nodes]
  exact nodeBelow?_congr fun j _ => by rw [node?_congr same.nodes]

theorem linkId? (same : net.SameWiring net') (source target : NodeId) :
    net'.linkId? source target = net.linkId? source target := by
  rw [Network.linkId?, Network.linkId?, outletsOf, outletsOf, same.outlets]

end Network.SameWiring

namespace Lane

def Brings (l : Lane) : MeshEvent → Prop
  | .timer _ _ => False
  | .arrival node frame => node = l.target ∧ frame.source ∈ l.signers

theorem Brings.isArrival {l : Lane} {event : MeshEvent} (brings : l.Brings event) :
    event.IsArrival := by
  cases event with
  | timer node kind => exact brings
  | arrival node frame => exact trivial

/-- Whether nobody but the source of a lane signs with its addresses. -/
def Trusts (l : Lane) (node : NodeId) (signs : EtherAddress → Prop) : Prop :=
  ∀ eth, signs eth → eth ∈ l.signers → node = l.source

/-- Frames from the source to the target of a lane take its link, and no other node has its addresses. -/
structure Laid (l : Lane) (net : Network) : Prop where
  wired : net.Wired
  found : net.linkId? l.source l.target = some l.link
  alone : ∀ j n, net.node? j = some n → l.Trusts j n.Signs

/-- What may happen between two states of the air: what is to arrive stays so, and new frames of the lane
are due after all those before them. -/
structure Feeds (l : Lane) (air air' : Air Network) : Prop where
  laid : l.Laid air.medium → l.Laid air'.medium
  addresses : ∀ j, (air'.medium.node? j).map (·.addresses) = (air.medium.node? j).map (·.addresses)
  retains : air.sim.Retains MeshEvent.IsArrival air'.sim
  link : ∀ link, air.medium.links[l.link]? = some link →
    ∃ busy, link.busyUntil ≤ busy ∧ air'.medium.links[l.link]? = some (link.until busy) ∧
      (air.sim.WellFormed → ∀ x ∈ air'.sim.live, l.Brings x.event → x ∈ air.sim.live ∨
        (air.sim.nextId ≤ x.id ∧ link.busyUntil + link.latency ≤ x.due ∧
          x.due ≤ busy + link.latency))

variable {l : Lane} {net net' : Network} {air air' air'' : Air Network} {id : LinkId} {frame : Frame}
  {node target : NodeId}

theorem Laid.rewired (laid : l.Laid net) (wiring : net.SameWiring net') : l.Laid net' where
  wired := wiring.wired laid.wired
  found := (wiring.linkId? _ _).trans laid.found
  alone j n present := laid.alone j n (Network.node?_congr wiring.nodes j ▸ present)

/-- A link that ends where a lane does takes frames of the lane only if it is its link. -/
theorem Laid.only (laid : l.Laid net) (found : net.linkId? node target = some id)
    (own : frame.source ∈ l.signers → node = l.source) (link : Link)
    (present : net.links[id]? = some link) (brings : l.Brings (.arrival link.target frame)) :
    id = l.link := by
  obtain ⟨_, there, ends⟩ := Option.map_eq_some_iff.mp (laid.wired.linkId? found)
  cases there.symm.trans present
  obtain ⟨-, far⟩ := Prod.mk.inj ends
  obtain ⟨here, mine⟩ := brings
  rw [own mine, ← far, here] at found
  exact Option.some.inj (found.symm.trans laid.found)

namespace Feeds

/-- The lane's link stays as it is, and no frame is put on it. -/
theorem aside (wiring : air.medium.SameWiring air'.medium)
    (link : air'.medium.links[l.link]? = air.medium.links[l.link]?)
    (retains : air.sim.Retains MeshEvent.IsArrival air'.sim)
    (silent : air.sim.WellFormed → ∀ x ∈ air'.sim.live, l.Brings x.event → x ∈ air.sim.live) :
    l.Feeds air air' where
  laid laid := laid.rewired wiring
  addresses j := by rw [Network.node?_congr wiring.nodes]
  retains := retains
  link known present :=
    ⟨known.busyUntil, Nat.le_refl _, link.trans present,
      fun valid x live brings => .inl (silent valid x live brings)⟩

theorem refl (l : Lane) (air : Air Network) : l.Feeds air air :=
  aside (.refl _) rfl (.refl _) fun _ _ live _ => live

theorem trans (first : l.Feeds air air') (second : l.Feeds air' air'') : l.Feeds air air'' where
  laid laid := second.laid (first.laid laid)
  addresses j := (second.addresses j).trans (first.addresses j)
  retains := first.retains.trans second.retains
  link link present := by
    obtain ⟨busy, later, there, fresh⟩ := first.link link present
    obtain ⟨busy', later', there', fresh'⟩ := second.link _ there
    refine ⟨busy', Nat.le_trans later later', there', fun valid x live brings => ?_⟩
    rcases fresh' (first.retains.valid valid) x live brings with before | ⟨given, after, within⟩
    · rcases fresh valid x before brings with old | ⟨given, after, within⟩
      · exact .inl old
      · refine .inr ⟨given, after, Nat.le_trans within ?_⟩
        simp only [Time.le_def, Link.until, Time.ns_add] at later' ⊢
        omega
    · refine .inr ⟨Nat.le_trans first.retains.nextId given, Nat.le_trans ?_ after, within⟩
      simp only [Time.le_def, Link.until, Time.ns_add] at later ⊢
      omega

theorem isSome_node? (feeds : l.Feeds air air') (j : NodeId) :
    (air'.medium.node? j).isSome = (air.medium.node? j).isSome := by
  have same := congrArg Option.isSome (feeds.addresses j)
  rwa [Option.isSome_map, Option.isSome_map] at same

/-- The medium changes in what has nothing to do with links. -/
theorem rewired (wiring : air.medium.SameWiring net) (links : net.links = air.medium.links) :
    l.Feeds air { air with medium := net } :=
  aside wiring (congrArg (fun all : Array Link => all[l.link]?) links)
    (.refl _) fun _ _ live _ => live

/-- Another node takes the place of one and has its addresses. -/
theorem node_replaced {n : MeshNode}
    (addresses : ∀ j, ((air.medium.setNode node n).node? j).map (·.addresses) =
      (air.medium.node? j).map (·.addresses)) : l.Feeds air (Mesh.put air node n) where
  laid laid := by
    refine ⟨laid.wired, laid.found, fun j m present eth signs => ?_⟩
    obtain ⟨m', there, same⟩ := Option.map_eq_some_iff.mp
      ((addresses j).symm.trans (congrArg (Option.map (·.addresses)) present))
    refine laid.alone j m' there eth ?_
    rw [MeshNode.Signs, same]
    exact signs
  addresses := addresses
  retains := .refl _
  link link present := ⟨link.busyUntil, Nat.le_refl _, present, fun _ _ live _ => .inl live⟩

theorem elsewhere {owned : MeshEvent → Prop} {sim : Simulator MeshEvent}
    (changes : air.sim.Changes owned sim) (apart : ∀ event, owned event → ¬ event.IsArrival) :
    l.Feeds air { air with sim } :=
  aside (.refl _) rfl (changes.spares apart).retains fun valid _ live brings =>
    (changes.foreign_iff valid fun mine => apart _ mine brings.isArrival).mp live

/-- A frame that is put on the link of a lane is due after all that were put there before. -/
theorem transmit (mine : ∀ link, air.medium.links[id]? = some link →
    l.Brings (.arrival link.target frame) → id = l.link) :
    l.Feeds air (Network.transmit id frame air) := by
  cases sent : air.medium.links[id]? with
  | none =>
    have nowhere : Network.transmit id frame air = air := by rw [Network.transmit, sent]
    rw [nowhere]
    exact .refl l air
  | some used =>
    have sim := Network.transmit_sim sent frame
    have wiring := Network.wiring_transmit id frame air
    refine ⟨fun laid => laid.rewired wiring, fun j => ?_, ?_, fun link present => ?_⟩
    · rw [Network.node?_congr wiring.nodes]
    · rw [sim]
      split
      · exact .refl _
      · exact Simulator.retains_schedule _ _ _
    · by_cases here : id = l.link
      · subst here
        cases sent.symm.trans present
        have leaves : used.busyUntil ≤ used.departure air.now (UInt32.ofNat frame.size) := by
          have := used.busyUntil.ns_le
          simp only [Time.le_def, Link.departure, Time.ns_add, Time.ns_max]
          omega
        refine ⟨_, leaves, Network.transmit_link present frame, fun valid x live _ => ?_⟩
        rw [sim] at live
        split at live
        · exact .inl live
        · rcases valid.mem_schedule.mp live with rfl | old
          · refine .inr ⟨Nat.le_refl _, ?_, Nat.le_refl _⟩
            simp only [Time.le_def, Time.ns_add] at leaves ⊢
            omega
          · exact .inl old
      · refine ⟨link.busyUntil, Nat.le_refl _, ?_, fun valid x live brings => .inl ?_⟩
        · rw [Network.transmit_links_of_ne here]
          exact present
        · rw [sim] at live
          split at live
          · exact live
          · rcases valid.mem_schedule.mp live with rfl | old
            · exact absurd (mine used sent brings) here
            · exact old

theorem sendCopy (laid : l.Laid air.medium) (own : frame.source ∈ l.signers → node = l.source) :
    l.Feeds air (Network.sendCopy node target frame air) := by
  unfold Network.sendCopy
  split
  · exact .refl l air
  · next id found =>
    let counted : Network := air.medium.takeFrameId.2.count fun s =>
      { s with sentFrames := s.sentFrames + 1 }
    have prepared : l.Feeds air { air with medium := counted } := .rewired ⟨rfl, rfl, fun _ => rfl⟩ rfl
    refine prepared.trans (.transmit fun link present brings => ?_)
    exact (prepared.laid laid).only found own link present brings

theorem broadcast (laid : l.Laid air.medium) (own : frame.source ∈ l.signers → node = l.source) :
    l.Feeds air (Network.broadcast node frame air) := by
  unfold Network.broadcast
  generalize air.medium.neighbors node = targets
  induction targets generalizing air with
  | nil => exact .refl l air
  | cons target rest ih =>
    have first : l.Feeds air (Network.sendCopy node target frame air) := .sendCopy laid own
    exact first.trans (ih (first.laid laid))

theorem send (laid : l.Laid air.medium) (own : frame.source ∈ l.signers → node = l.source) :
    l.Feeds air (Network.send node frame air) := by
  unfold Network.send
  split
  · exact .broadcast laid own
  · let counted : Network := air.medium.count fun s => { s with sentFrames := s.sentFrames + 1 }
    have prepared : l.Feeds air { air with medium := counted } := .rewired ⟨rfl, rfl, fun _ => rfl⟩ rfl
    simp only
    split
    · next id found =>
      obtain ⟨target, -, found⟩ := Option.bind_eq_some_iff.mp found
      refine prepared.trans (.transmit fun link present brings => ?_)
      exact (prepared.laid laid).only found own link present brings
    · exact .rewired ⟨rfl, rfl, fun _ => rfl⟩ rfl

variable {desk desk' : Desk Network} {deed : Deed} {dumps : Prop} {signs : EtherAddress → Prop}

theorem perform (laid : l.Laid desk.air.medium) (tidy : desk.Tidy node)
    (fine : deed.Ordinary dumps signs) (trusts : l.Trusts node signs) :
    l.Feeds desk.air (desk.perform node deed).air := by
  have timing (only : deed.Timing)
      (still : (desk.perform node deed).air.medium = desk.air.medium) :
      l.Feeds desk.air (desk.perform node deed).air := by
    have apart : ∀ event : MeshEvent, (∃ kind, event = .timer node kind) → ¬ event.IsArrival := by
      rintro _ ⟨kind, rfl⟩
      exact Desk.Tidy.not_arrival
    have kept : l.Feeds desk.air ⟨(desk.perform node deed).air.sim, desk.air.medium⟩ :=
      .elsewhere (tidy.changes_timing only) apart
    rw [← still] at kept
    exact kept
  have numbered : l.Feeds desk.air { desk.air with medium := desk.air.medium.takeFrameId.2 } :=
    .rewired (.takeFrameId _) rfl
  cases deed with
  | post draft => exact numbered.trans (.send (numbered.laid laid) (trusts draft.source fine))
  | announce draft =>
    exact numbered.trans (.broadcast (numbered.laid laid) (trusts draft.source fine))
  | reject frame => exact .rewired ⟨rfl, rfl, fun _ => rfl⟩ rfl
  | arm kind delay => exact timing trivial rfl
  | disarm kind => exact timing trivial rfl
  | forget kind =>
    refine timing trivial ?_
    unfold Desk.perform
    simp only
    split
    · rfl
    · rfl

theorem play (script : List Deed) : ∀ {desk : Desk Network}, l.Laid desk.air.medium →
    desk.Tidy node → (∀ deed ∈ script, deed.Ordinary dumps signs) → l.Trusts node signs →
      l.Feeds desk.air (desk.play node script).air := by
  induction script with
  | nil => exact fun _ _ _ _ => .refl l _
  | cons deed rest ih =>
    intro desk laid tidy fine trusts
    have first := perform laid tidy (fine deed List.mem_cons_self) trusts
    exact first.trans (ih (first.laid laid) (tidy.perform deed)
      (fun other member => fine other (List.mem_cons_of_mem _ member)) trusts)

/-- Whatever a node does that signs with addresses of its own, frames of a lane come one behind
another. -/
theorem plays (laid : l.Laid desk.air.medium) (tidy : desk.Tidy node)
    (plays : Plays node (Deed.Ordinary dumps signs) desk desk') (trusts : l.Trusts node signs) :
    l.Feeds desk.air desk'.air := by
  obtain ⟨script, fine, rfl⟩ := plays
  exact play script laid tidy fine trusts

end Feeds

variable {link : Link} {x y item : Scheduled MeshEvent} {limit : Option Time}
  {sim : Simulator MeshEvent}

/-- A lane in order: no frame that is to arrive is due later than one could be that leaves when the link
is free. -/
structure Queued (l : Lane) (link : Link) (air : Air Network) : Prop where
  valid : air.sim.WellFormed
  laid : l.Laid air.medium
  present : ∃ busy, air.medium.links[l.link]? = some (link.until busy) ∧
    ∀ z ∈ air.sim.live, l.Brings z.event → z.due ≤ busy + link.latency

structure Paired (l : Lane) (link : Link) (x y : Scheduled MeshEvent) (air : Air Network) : Prop where
  queued : l.Queued link air
  opens : l.Brings x.event
  brings : l.Brings y.event
  first : x ∈ air.sim.live
  second : y ∈ air.sim.live
  due : x.due ≤ y.due
  order : x.id < y.id
  apart : ∀ z ∈ air.sim.live, l.Brings z.event →
    z = x ∨ z = y ∨ (z.due ≤ x.due ∧ z.id < x.id) ∨ (y.due ≤ z.due ∧ y.id < z.id)

structure Leads (l : Lane) (link : Link) (y : Scheduled MeshEvent) (air : Air Network) : Prop where
  queued : l.Queued link air
  brings : l.Brings y.event
  live : y ∈ air.sim.live
  behind : ∀ z ∈ air.sim.live, l.Brings z.event → z = y ∨ (y.due ≤ z.due ∧ y.id < z.id)

/-- The link of a lane may be taken as it is at the moment. -/
theorem Queued.relinked {link' : Link} (queued : l.Queued link air)
    (present : air.medium.links[l.link]? = some link') : l.Queued link' air := by
  obtain ⟨busy, there, within⟩ := queued.present
  obtain rfl := Option.some.inj (there.symm.trans present)
  exact ⟨queued.valid, queued.laid, busy, there, within⟩

theorem Queued.feeds (queued : l.Queued link air) (feeds : l.Feeds air air') :
    l.Queued link air' := by
  obtain ⟨busy, present, within⟩ := queued.present
  obtain ⟨busy', later, there, fresh⟩ := feeds.link _ present
  refine ⟨feeds.retains.valid queued.valid, feeds.laid queued.laid, busy', there,
    fun z live brings => ?_⟩
  rcases fresh queued.valid z live brings with old | ⟨-, -, within'⟩
  · refine Nat.le_trans (within z old brings) ?_
    simp only [Time.le_def, Link.until, Time.ns_add] at later ⊢
    omega
  · exact within'

/-- A new frame of a lane is behind any other that is to arrive. -/
theorem Queued.after (queued : l.Queued link air) (feeds : l.Feeds air air') (live : y ∈ air.sim.live)
    (brings : l.Brings y.event) {z : Scheduled MeshEvent} (there : z ∈ air'.sim.live)
    (mine : l.Brings z.event) : z ∈ air.sim.live ∨ (y.due ≤ z.due ∧ y.id < z.id) := by
  obtain ⟨busy, present, within⟩ := queued.present
  obtain ⟨_, _, _, fresh⟩ := feeds.link _ present
  rcases fresh queued.valid z there mine with old | ⟨given, later, -⟩
  · exact .inl old
  · exact .inr ⟨Nat.le_trans (within y live brings) later,
      Nat.lt_of_lt_of_le (queued.valid.live_given live) given⟩

theorem Queued.next? (queued : l.Queued link air) (taken : air.sim.next? limit = some (item, sim)) :
    l.Queued link { air with sim } := by
  obtain ⟨busy, present, within⟩ := queued.present
  exact ⟨queued.valid.next? taken, queued.laid, busy, present,
    fun z live => within z ((queued.valid.mem_next? taken).mp live).1⟩

theorem Paired.feeds (paired : l.Paired link x y air) (feeds : l.Feeds air air') :
    l.Paired link x y air' where
  queued := paired.queued.feeds feeds
  opens := paired.opens
  brings := paired.brings
  first := feeds.retains.kept paired.queued.valid x paired.first paired.opens.isArrival
  second := feeds.retains.kept paired.queued.valid y paired.second paired.brings.isArrival
  due := paired.due
  order := paired.order
  apart z live brings := by
    rcases paired.queued.after feeds paired.second paired.brings live brings with old | behind
    · exact paired.apart z old brings
    · exact .inr (.inr (.inr behind))

theorem Leads.feeds (leads : l.Leads link y air) (feeds : l.Feeds air air') : l.Leads link y air' where
  queued := leads.queued.feeds feeds
  brings := leads.brings
  live := feeds.retains.kept leads.queued.valid y leads.live leads.brings.isArrival
  behind z live brings := by
    rcases leads.queued.after feeds leads.live leads.brings live brings with old | behind
    · exact leads.behind z old brings
    · exact .inr behind

/-- An event begins. It is the first one of a pair, and then the second one leads, or the pair is still
to come. -/
theorem Paired.next? (paired : l.Paired link x y air)
    (taken : air.sim.next? limit = some (item, sim)) :
    (item = x ∧ l.Leads link y { air with sim }) ∨ l.Paired link x y { air with sim } := by
  have valid := paired.queued.valid
  have live : item ∈ air.sim.live := valid.next?_live taken
  by_cases here : item.id = x.id
  · obtain rfl := valid.live_unique live paired.first here
    refine .inl ⟨rfl, paired.queued.next? taken, paired.brings,
      (valid.mem_next? taken).mpr ⟨paired.second, (Nat.ne_of_lt paired.order).symm⟩,
      fun z there brings => ?_⟩
    obtain ⟨before, other⟩ := (valid.mem_next? taken).mp there
    rcases paired.apart z before brings with rfl | rfl | ⟨earlier, smaller⟩ | behind
    · exact absurd rfl other
    · exact .inl rfl
    · exact absurd (valid.next?_first taken before) (Scheduled.not_precedes earlier smaller)
    · exact .inr behind
  · have other : y.id ≠ item.id := by
      intro same
      obtain rfl := valid.live_unique paired.second live same
      exact Scheduled.not_precedes paired.due paired.order (valid.next?_first taken paired.first)
    refine .inr ⟨paired.queued.next? taken, paired.opens, paired.brings,
      (valid.mem_next? taken).mpr ⟨paired.first, Ne.symm here⟩,
      (valid.mem_next? taken).mpr ⟨paired.second, other⟩, paired.due, paired.order,
      fun z there => paired.apart z ((valid.mem_next? taken).mp there).1⟩

/-- An event begins while an arrival leads. It is that one, or none of the lane. -/
theorem Leads.next? (leads : l.Leads link y air) (taken : air.sim.next? limit = some (item, sim)) :
    item = y ∨ (¬ l.Brings item.event ∧ l.Leads link y { air with sim }) := by
  have valid := leads.queued.valid
  have live : item ∈ air.sim.live := valid.next?_live taken
  by_cases here : y.id = item.id
  · exact .inl (valid.live_unique live leads.live here.symm)
  · refine .inr ⟨fun mine => ?_, leads.queued.next? taken, leads.brings,
      (valid.mem_next? taken).mpr ⟨leads.live, here⟩,
      fun z there => leads.behind z ((valid.mem_next? taken).mp there).1⟩
    rcases leads.behind item live mine with rfl | ⟨later, greater⟩
    · exact here rfl
    · exact Scheduled.not_precedes later greater (valid.next?_first taken leads.live)

end Lane

end WirelessMesh
