import WirelessMesh.Proofs.Mesh.Operation

/-!
Probe pairs on their way. Main statement: the two frames of a pair are handed over one behind the
other, with just the time between them that the link takes for the second one, and that is what the
receiver measures.
-/
namespace WirelessMesh

private theorem Network.post_eq {air : Air Network} {source target : NodeId} {id : LinkId} {draft : Draft}
    (single : draft.target.isBroadcast = false)
    (holder : air.medium.nodeByEth? draft.target = some target)
    (found : air.medium.linkId? source target = some id) :
    air.post source draft = transmit id (.ofDraft air.medium.nextFrameId draft)
      { air with medium := air.medium.takeFrameId.2.count fun s =>
          { s with sentFrames := s.sentFrames + 1 } } := by
  have counted : air.medium.SameWiring (air.medium.takeFrameId.2.count fun s =>
      { s with sentFrames := s.sentFrames + 1 }) := ⟨rfl, rfl, fun _ => rfl⟩
  have holder' := (counted.nodeByEth? draft.target).trans holder
  have found' := (counted.linkId? source target).trans found
  show send source (.ofDraft air.medium.nextFrameId draft)
    { air with medium := air.medium.takeFrameId.2 } = _
  have target : (Frame.ofDraft air.medium.nextFrameId draft).target = draft.target := rfl
  simp only [send, target, single, Bool.false_eq_true, if_false, holder', Option.bind_some, found']

structure Network.Puts (air : Air Network) (id : LinkId) (link : Link) (frame : Frame)
    (air' : Air Network) : Prop where
  wiring : air.medium.SameWiring air'.medium
  number : air'.medium.nextFrameId = air.medium.nextFrameId + 1
  busy : air'.medium.links[id]? =
    some (link.until (link.departure air.now (UInt32.ofNat frame.size)))
  sim : air'.sim = (air.sim.schedule
    (link.departure air.now (UInt32.ofNat frame.size) + link.latency)
    (.arrival link.target frame)).2

private theorem Network.puts_post {air : Air Network} {source target : NodeId} {id : LinkId} {link : Link}
    {draft : Draft} (single : draft.target.isBroadcast = false)
    (holder : air.medium.nodeByEth? draft.target = some target)
    (found : air.medium.linkId? source target = some id)
    (present : air.medium.links[id]? = some link)
    (kept : link.drops air.medium.nextFrameId = false) :
    Puts air id link (.ofDraft air.medium.nextFrameId draft) (air.post source draft) := by
  let counted : Air Network := { air with
    medium := air.medium.takeFrameId.2.count fun s => { s with sentFrames := s.sentFrames + 1 } }
  have there : counted.medium.links[id]? = some link := present
  have drops : link.drops (Frame.ofDraft air.medium.nextFrameId draft).id = false := kept
  have prepared : air.medium.SameWiring counted.medium := ⟨rfl, rfl, fun _ => rfl⟩
  have sim := transmit_sim there (.ofDraft air.medium.nextFrameId draft)
  rw [if_neg (Bool.eq_false_iff.mp drops)] at sim
  rw [post_eq single holder found]
  refine ⟨prepared.trans (wiring_transmit _ _ _), ?_, transmit_link there _, sim⟩
  rw [transmit, there]
  simp only [drops, Bool.false_eq_true, if_false]
  rfl

namespace PairSending

/-- A frame of a pair, before it is numbered. -/
def draft (s : PairSending Network) (seq : UInt16) (size : Nat) : Draft :=
  ⟨s.peer, s.prober.eth, FrameType.probe,
    Prober.probePayload seq size (s.prober.pendingReport s.peer s.air.now).1⟩

def first (s : PairSending Network) : Frame :=
  .ofDraft s.air.medium.nextFrameId (s.draft 1 s.prober.config.firstSize)

def second (s : PairSending Network) : Frame :=
  .ofDraft (s.air.medium.nextFrameId + 1) (s.draft 2 s.prober.config.secondSize)

def sent (s : PairSending Network) : Air Network := (s.prober.sendPair s.peer s.air).2

/-- When the first frame has left by a link. -/
def firstLeaves (s : PairSending Network) (link : Link) : Time :=
  link.departure s.air.now (UInt32.ofNat s.prober.config.firstSize)

/-- When the second frame has left by a link. -/
def secondLeaves (s : PairSending Network) (link : Link) : Time :=
  s.firstLeaves link + link.transmissionTime (UInt32.ofNat s.prober.config.secondSize)

/-- The arrival of the first frame, by a link that does not lose it. -/
def firstArrival (s : PairSending Network) (link : Link) : Scheduled MeshEvent :=
  ⟨s.firstLeaves link + link.latency, s.air.sim.nextId, .arrival link.target s.first⟩

/-- The arrival of the second frame, by a link that loses neither. -/
def secondArrival (s : PairSending Network) (link : Link) : Scheduled MeshEvent :=
  ⟨s.secondLeaves link + link.latency, s.air.sim.nextId + 1, .arrival link.target s.second⟩

/-- A pair goes over a link: its frames are of valid sizes and for one node, whose address is the one
that it goes to, and the link, as it is when they are sent, loses neither of them. -/
structure Over (s : PairSending Network) (target : NodeId) (id : LinkId) (link : Link) : Prop where
  firstSize : minProbeFrame ≤ s.prober.config.firstSize
  secondSize : minProbeFrame ≤ s.prober.config.secondSize
  single : s.peer.isBroadcast = false
  holder : s.air.medium.nodeByEth? s.peer = some target
  present : s.air.medium.links[id]? = some link
  keepsFirst : link.drops s.air.medium.nextFrameId = false
  keepsSecond : link.drops (s.air.medium.nextFrameId + 1) = false

/-- Unless time runs out, the second frame arrives the time of its transmission behind the first one. -/
theorem apart (s : PairSending Network) {link : Link} (fits : (max s.air.now link.busyUntil).ns +
      (link.transmissionTime (UInt32.ofNat s.prober.config.firstSize)).ns +
      (link.transmissionTime (UInt32.ofNat s.prober.config.secondSize)).ns + link.latency.ns ≤
        0xffff_ffff_ffff_ffff) :
    (s.secondArrival link).due.ns = (s.firstArrival link).due.ns +
      (link.transmissionTime (UInt32.ofNat s.prober.config.secondSize)).ns := by
  simp only [secondArrival, secondLeaves, firstArrival, firstLeaves, Link.departure, Time.ns_add]
  omega

namespace Over

variable {s : PairSending Network} {target : NodeId} {id : LinkId} {link : Link}

theorem first_sized (goes : s.Over target id link) :
    s.first.size = s.prober.config.firstSize ∧ s.first.probeSeq? = some 1 :=
  Prober.probe_sized goes.firstSize rfl rfl

theorem second_sized (goes : s.Over target id link) :
    s.second.size = s.prober.config.secondSize ∧ s.second.probeSeq? = some 2 :=
  Prober.probe_sized goes.secondSize rfl rfl

private theorem sent_eq (s : PairSending Network) :
    s.sent = (s.air.post s.prober.node (s.draft 1 s.prober.config.firstSize)).post s.prober.node
      (s.draft 2 s.prober.config.secondSize) := by
  obtain ⟨node, eth, config, -⟩ := Prober.pendingReport_same s.prober s.peer s.air.now
  simp only [sent, Prober.sendPair, node, eth, config, draft]

private theorem frames_put (goes : s.Over target id link)
    (found : s.air.medium.linkId? s.prober.node target = some id) :
    ∃ between : Air Network, Network.Puts s.air id link s.first between ∧
      Network.Puts between id (link.until (s.firstLeaves link)) s.second s.sent := by
  have first : Network.Puts s.air id link s.first
      (s.air.post s.prober.node (s.draft 1 s.prober.config.firstSize)) :=
    Network.puts_post goes.single goes.holder found goes.present goes.keepsFirst
  refine ⟨_, first, ?_⟩
  have busy := first.busy
  rw [goes.first_sized.1] at busy
  rw [sent_eq, second, ← first.number]
  have holder := (first.wiring.nodeByEth? s.peer).trans goes.holder
  have found' := (first.wiring.linkId? s.prober.node target).trans found
  refine Network.puts_post goes.single holder found' busy ?_
  rw [first.number]
  exact goes.keepsSecond

/-- The second frame leaves the time of its transmission behind the first one. -/
private theorem sent_link (goes : s.Over target id link)
    (found : s.air.medium.linkId? s.prober.node target = some id) :
    s.sent.medium.links[id]? = some (link.until (s.secondLeaves link)) ∧
      s.sent.sim =
        ((s.air.sim.schedule (s.firstArrival link).due (s.firstArrival link).event).2.schedule
          (s.secondArrival link).due (s.secondArrival link).event).2 := by
  obtain ⟨between, first, second⟩ := goes.frames_put found
  have clock : between.now = s.air.now := congrArg (·.now) first.sim
  have busy : max s.air.now (s.firstLeaves link) = s.firstLeaves link := by
    have := s.air.now.ns_le
    refine Time.ext ?_
    simp only [Time.ns_max, firstLeaves, Link.departure, Time.ns_add]
    omega
  have leaves : (link.until (s.firstLeaves link)).departure between.now
      (UInt32.ofNat s.second.size) = s.secondLeaves link := by
    rw [goes.second_sized.1, clock]
    exact congrArg (· + link.transmissionTime _) busy
  have leavesFirst : link.departure s.air.now (UInt32.ofNat s.first.size) = s.firstLeaves link := by
    rw [goes.first_sized.1]
    rfl
  refine ⟨?_, ?_⟩
  · rw [second.busy, leaves]
    rfl
  · rw [second.sim, first.sim, leaves, leavesFirst]
    rfl

/-- When a pair has been sent, its frames are the last ones of their lane that are to arrive. -/
theorem paired {l : Lane} (goes : s.Over l.target l.link link) (queued : l.Queued link s.air)
    (sender : s.prober.node = l.source) (own : s.prober.eth ∈ l.signers)
    (feeds : l.Feeds s.air s.sent) :
    l.Paired link (s.firstArrival link) (s.secondArrival link) s.sent := by
  have found := queued.laid.found
  have ends := queued.laid.wired.linkId? found
  rw [Network.ends?, goes.present] at ends
  obtain ⟨-, far⟩ := Prod.mk.inj (Option.some.inj ends)
  rw [← sender] at found
  obtain ⟨-, sim⟩ := goes.sent_link found
  have live : s.sent.sim.live.Perm
      (s.secondArrival link :: s.firstArrival link :: s.air.sim.live) := by
    rw [sim]
    exact ((queued.valid.schedule _ _).live_schedule _ _).trans
      ((queued.valid.live_schedule _ _).cons _)
  obtain ⟨busy, present, within⟩ := queued.present
  have now : link.busyUntil = busy :=
    congrArg (·.busyUntil) (Option.some.inj (goes.present.symm.trans present))
  refine ⟨queued.feeds feeds, ⟨far, own⟩, ⟨far, own⟩, ?_, ?_, ?_, Nat.lt_succ_self _, ?_⟩
  · exact live.symm.subset (List.mem_cons_of_mem _ List.mem_cons_self)
  · exact live.symm.subset List.mem_cons_self
  · simp only [Time.le_def, firstArrival, secondArrival, secondLeaves, Time.ns_add]
    omega
  · intro z there brings
    rcases List.mem_cons.mp (live.subset there) with rfl | earlier
    · exact .inr (.inl rfl)
    · rcases List.mem_cons.mp earlier with rfl | old
      · exact .inl rfl
      · refine .inr (.inr (.inl ⟨Nat.le_trans (within z old brings) ?_, queued.valid.live_given old⟩))
        have := busy.ns_le
        simp only [← now, firstArrival, firstLeaves, Link.departure, Time.ns_add,
          Time.ns_max] at this ⊢
        omega

end Over

end PairSending

namespace Mesh

/-- A timer of a node fires at which it sends a pair, maybe one of many. -/
inductive SendsPair (mesh : Mesh) (a : NodeId) (s : PairSending Network) : Mesh → Prop
  | fired {mesh' : Mesh} {limit : Option Time} {item : Scheduled MeshEvent}
      {sim : Simulator MeshEvent} {n : MeshNode} {kind : TimerKind}
      (taken : mesh.sim.next? limit = some (item, sim)) (timer : item.event = .timer a kind)
      (sender : mesh.medium.node? a = some n)
      (sending : s ∈ n.prober.pairs kind { mesh with sim })
      (done : execute { mesh with sim } item.event = .ok mesh') : SendsPair mesh a s mesh'

variable {mesh mesh' : Mesh} {l : Lane} {link : Link} {inUse : List NodeId}
  {s : PairSending Network}

/-- A timer at which a pair is sent: what comes before the pair, the pair and what comes after it. -/
theorem Settled.sends (settled : mesh.Settled inUse fun _ => True) (queued : l.Queued link mesh)
    (sends : mesh.SendsPair l.source s mesh') :
    s.prober.node = l.source ∧ s.prober.eth ∈ mesh.medium.addressesOf l.source ∧
      l.Queued link s.air ∧ l.Feeds s.air s.sent ∧ l.Feeds s.sent mesh' := by
  obtain @⟨limit, item, sim, n, kind, taken, timer, present, member, done⟩ := sends
  have turn := settled.event_cases taken done
  rw [timer] at turn
  rcases turn with ⟨absent, -⟩ | ⟨m, next, there, number, composed, tidy, takes, rfl⟩
  · cases absent.symm.trans present
  · cases there.symm.trans present
    have mine : n.id = l.source := number
    have whole := composed.acts_onEvent takes
    have onTimer := takes
    rw [MeshNode.onEvent, if_pos mine.symm] at onTimer
    have sends := n.sends member onTimer
    have trusts := queued.laid.alone _ _ present
    rw [← mine] at trusts
    have belongs := (sends n.slots).before.node.trans composed.prober
    have belongs' : (s.prober.sendPair s.peer s.air).1.node = n.id :=
      (Prober.pendingReport_same s.prober s.peer s.air.now).1.trans belongs
    have own : n.Signs s.prober.eth := by
      rw [(sends n.slots).before.eth]
      simp [MeshNode.Signs, MeshNode.addresses]
    -- The node with the prober as it is when the pair is sent, and as it is afterwards.
    let poised : MeshNode := { n with prober := s.prober }
    let relieved : MeshNode := { n with prober := (s.prober.sendPair s.peer s.air).1 }
    have before : MeshNode.Acts (Deed.Ordinary n.Dumps n.Signs) n { mesh with sim } poised s.air :=
      .probed composed.prober (sends n.slots).before
    have sending : MeshNode.Acts (Deed.Ordinary n.Dumps n.Signs) poised s.air relieved s.sent :=
      .probed belongs (Prober.acts_sendPair (.signed own s.peer)).ordinary
    have after : MeshNode.Acts (Deed.Ordinary n.Dumps n.Signs) relieved s.sent
        { relieved with prober := next.1.prober } next.2 :=
      .probed belongs' (sends _).after
    have ready : l.Queued link s.air :=
      (queued.next? taken).feeds (.plays queued.laid tidy before.plays trusts)
    have pair : l.Feeds s.air s.sent :=
      .plays ready.laid (before.tidy tidy) sending.plays trusts
    have rest : l.Feeds s.sent next.2 :=
      .plays (pair.laid ready.laid) (sending.tidy (before.tidy tidy)) after.plays trusts
    have back : l.Feeds next.2 (put next.2 l.source next.1) := feeds_back (by exact present) whole
    exact ⟨belongs.trans mine, Network.mem_addressesOf.mpr ⟨n, present, own⟩, ready, pair,
      rest.trans back⟩

end Mesh

structure Turn.Carries (t : Turn) (x : Scheduled MeshEvent) : Prop where
  item : t.item = x
  clock : t.mesh.sim.now = x.due

/-- How far a pair has come that was sent over a link: both frames are still to arrive, or the second
one alone, and the first one is remembered, or both have been handed over, the second one when the
first was remembered. No frame of the lane comes between them. -/
inductive Underway (l : Lane) (link : Link) (s : PairSending Network) : Mesh → List Turn → Prop
  | ahead {mesh : Mesh} {turns : List Turn}
      (paired : l.Paired link (s.firstArrival link) (s.secondArrival link) mesh)
      (receiver : (mesh.medium.node? l.target).isSome = true) : Underway l link s mesh turns
  | halfway {mesh : Mesh} {before between : List Turn} {first : Turn}
      (leads : l.Leads link (s.secondArrival link) mesh)
      (opened : first.Carries (s.firstArrival link))
      (quiet : ∀ t ∈ between, ¬ l.Brings t.item.event)
      (heard : mesh.heard l.target s.prober.eth = some (some (s.firstArrival link).due)) :
      Underway l link s mesh (before ++ first :: between)
  | complete {mesh : Mesh} {before between after : List Turn} {first second : Turn}
      (opened : first.Carries (s.firstArrival link))
      (quiet : ∀ t ∈ between, ¬ l.Brings t.item.event)
      (closed : second.Carries (s.secondArrival link))
      (heard : second.mesh.heard l.target s.prober.eth = some (some (s.firstArrival link).due)) :
      Underway l link s mesh (before ++ first :: (between ++ second :: after))

namespace Underway

variable {l : Lane} {link : Link} {s : PairSending Network} {mesh mesh' : Mesh} {turns : List Turn}
  {inUse : List NodeId} {limit : Option Time} {item : Scheduled MeshEvent}
  {sim : Simulator MeshEvent}

theorem attended (underway : Underway l link s mesh turns) (attended : Mesh.Attended mesh mesh')
    (settled : mesh.Settled inUse fun _ => True) : Underway l link s mesh' turns := by
  cases underway with
  | ahead paired receiver =>
    have feeds := attended.feeds settled paired.queued.laid
    exact .ahead (paired.feeds feeds) (feeds.isSome_node? _ ▸ receiver)
  | halfway leads opened quiet heard =>
    have feeds := attended.feeds settled leads.queued.laid
    exact .halfway (leads.feeds feeds) opened quiet ((attended.heard _ _).trans heard)
  | complete opened quiet closed heard => exact .complete opened quiet closed heard

theorem fired (underway : Underway l link s mesh turns) (first : s.first.probeSeq? = some 1)
    (own : s.prober.eth ∈ l.signers) (settled : mesh.Settled inUse fun _ => True)
    (taken : mesh.sim.next? limit = some (item, sim))
    (done : Mesh.execute { mesh with sim } item.event = .ok mesh') :
    Underway l link s mesh' (turns ++ [⟨item, { mesh with sim }⟩]) := by
  have clock : sim.now = item.due := Simulator.next?_now taken
  cases underway with
  | ahead paired receiver =>
    have feeds := settled.feeds_turn paired.queued.laid taken done
    rcases paired.next? taken with ⟨rfl, leads⟩ | still
    · obtain ⟨n, present⟩ := Option.isSome_iff_exists.mp receiver
      have arrival : (s.firstArrival link).event = .arrival l.target s.first :=
        congrArg (MeshEvent.arrival · s.first) paired.opens.1
      refine .halfway (leads.feeds feeds) ⟨rfl, clock⟩ (fun _ member => nomatch member) ?_
      exact (settled.heard_turn taken done l.target s.prober.eth).2 s.first n arrival rfl first present
    · exact .ahead (still.feeds feeds) (feeds.isSome_node? _ ▸ receiver)
  | halfway leads opened quiet heard =>
    have feeds := settled.feeds_turn leads.queued.laid taken done
    rw [List.append_assoc, List.cons_append]
    rcases leads.next? taken with rfl | ⟨other, still⟩
    · exact .complete opened quiet ⟨rfl, clock⟩ heard
    · refine .halfway (still.feeds feeds) opened (fun t member => ?_) ?_
      · rcases List.mem_append.mp member with before | last
        · exact quiet t before
        · rw [List.mem_singleton.mp last]
          exact other
      · refine ((settled.heard_turn taken done l.target s.prober.eth).1 ?_).trans heard
        intro frame arrival mine
        rw [arrival] at other
        exact other ⟨rfl, mine ▸ own⟩
  | complete opened quiet closed heard =>
    rw [List.append_assoc, List.cons_append, List.append_assoc, List.cons_append]
    exact .complete opened quiet closed heard

end Underway

namespace Mesh

variable {injected : Prop} {start mesh mesh' later : Mesh} {past : Past} {turns turns' : List Turn}
  {a b : NodeId} {id : LinkId} {link : Link} {s : PairSending Network} {l : Lane}

theorem Operated.underway (operated : Operated mesh later turns) (reached : Reached injected mesh past)
    (underway : Underway l link s mesh []) (first : s.first.probeSeq? = some 1)
    (own : s.prober.eth ∈ l.signers) : Underway l link s later turns := by
  induction operated with
  | here => exact underway
  | attended before attended ih =>
    obtain ⟨_, there⟩ := before.reached reached
    exact ih.attended attended there.settled
  | fired before taken done ih =>
    obtain ⟨_, there⟩ := before.reached reached
    exact ih.fired first own there.settled taken done

/-- Where links are as the nodes have them and nobody is on the air, all lanes are in order. -/
theorem Reached.queued (reached : Reached injected start past)
    (clear : ∀ x ∈ start.sim.live, ¬ x.event.IsArrival) (distinct : start.medium.Distinct)
    (linked : start.medium.linkId? a b = some id) :
    ∃ link, (start.medium.lane a b id).Queued link start := by
  have wired := reached.wired
  obtain ⟨link, present, -⟩ := Option.map_eq_some_iff.mp (wired.linkId? linked)
  exact ⟨link, reached.settled.valid, distinct.laid wired linked, link.busyUntil, present,
    fun z live brings => absurd brings.isArrival (clear z live)⟩

private theorem Reached.sends_pair (reached : Reached injected start past)
    (clear : ∀ x ∈ start.sim.live, ¬ x.event.IsArrival) (distinct : start.medium.Distinct)
    (linked : start.medium.linkId? a b = some id) (before : Operated start mesh turns)
    (sends : mesh.SendsPair a s mesh') (goes : s.Over b id link) :
    let l := start.medium.lane a b id
    s.prober.eth ∈ l.signers ∧ l.Paired link (s.firstArrival link) (s.secondArrival link) mesh' ∧
      (mesh'.medium.node? b).isSome = true := by
  obtain ⟨_, clean⟩ := reached.queued clear distinct linked
  obtain ⟨queued, addresses⟩ := before.queued reached clean
  obtain ⟨_, there⟩ := before.reached reached
  obtain ⟨node, eth, ready, pair, rest⟩ := there.settled.sends queued sends
  have own : s.prober.eth ∈ start.medium.addressesOf a := by
    rw [Network.addressesOf, ← addresses a]
    exact eth
  have paired := goes.paired (ready.relinked goes.present) node own pair
  obtain ⟨⟨m, holder, -⟩, -⟩ := Network.nodeBelow?_some goes.holder
  refine ⟨own, paired.feeds rest, ?_⟩
  rw [(pair.trans rest).isSome_node?]
  exact Option.isSome_of_eq_some holder

/-- Two frames that are sent back to back over a link that loses neither are handed over one after
the other, none of the sender's between them, and the time between them is the one that the link
takes for the second frame. That is what the receiver measures, in whole microseconds, unless it is
too long for a sample. It depends neither on the first frame nor on the latency, nor on what was sent
before or is sent by others. -/
theorem pair_measures_link (reached : Reached injected start past)
    (clear : ∀ x ∈ start.sim.live, ¬ x.event.IsArrival) (distinct : start.medium.Distinct)
    (linked : start.medium.linkId? a b = some id) (before : Operated start mesh turns)
    (sends : mesh.SendsPair a s mesh') (after : Operated mesh' later turns')
    (goes : s.Over b id link)
    (fits : (max s.air.now link.busyUntil).ns +
      (link.transmissionTime (UInt32.ofNat s.prober.config.firstSize)).ns +
      (link.transmissionTime (UInt32.ofNat s.prober.config.secondSize)).ns + link.latency.ns ≤
        0xffff_ffff_ffff_ffff) :
    let gap := link.transmissionTime (UInt32.ofNat s.prober.config.secondSize)
    (s.secondArrival link ∈ later.sim.live ∧
      ∀ limit, later.sim.next? (some limit) = none → limit < (s.secondArrival link).due) ∨
    ∃ (before between after : List Turn) (first second : Turn) (m : MeshNode),
      turns' = before ++ first :: (between ++ second :: after) ∧
      first.item = s.firstArrival link ∧ first.item.event = .arrival b s.first ∧
      second.item = s.secondArrival link ∧ second.item.event = .arrival b s.second ∧
      (∀ t ∈ between, ∀ frame, t.item.event = .arrival b frame →
        frame.source ∉ start.medium.addressesOf a) ∧
      second.mesh.sim.now.ns = first.mesh.sim.now.ns + gap.ns ∧
      second.mesh.medium.node? b = some m ∧
      (∀ air : Air Network, m.onFrame s.second air =
        .ok ({ m with prober := (m.prober.onProbe s.second ⟨2⟩ air).1 },
          (m.prober.onProbe s.second ⟨2⟩ air).2)) ∧
      (m.prober.sampler.recordForward s.second.source 2 second.mesh.sim.now).1 =
        if gap.micros < noDelay then some gap.micros else none := by
  obtain ⟨own, paired, receiver⟩ := reached.sends_pair clear distinct linked before sends goes
  obtain ⟨far, -⟩ := paired.opens
  obtain ⟨_, there⟩ := before.reached reached
  obtain ⟨taken, -, -, -, done⟩ := sends
  obtain ⟨_, sent, -⟩ := there.goes_on taken done
  have pending (valid : later.sim.WellFormed) (live : s.secondArrival link ∈ later.sim.live) :
      s.secondArrival link ∈ later.sim.live ∧
        ∀ limit, later.sim.next? (some limit) = none → limit < (s.secondArrival link).due :=
    ⟨live, fun limit idle => of_decide_eq_true (valid.next?_none idle live)⟩
  cases after.underway sent (.ahead paired receiver) goes.first_sized.2 own with
  | ahead paired receiver => exact .inl (pending paired.queued.valid paired.second)
  | halfway leads opened quiet heard => exact .inl (pending leads.queued.valid leads.live)
  | @complete earlier between rest first second opened quiet closed heard =>
    obtain ⟨m, present, mark⟩ := Option.map_eq_some_iff.mp heard
    have apart := s.apart fits
    refine .inr ⟨earlier, between, rest, first, second, m, rfl, opened.item, ?_, closed.item, ?_,
      ?_, ?_, present, fun air => m.onFrame_probe goes.second_sized.2, ?_⟩
    · rw [opened.item, PairSending.firstArrival, far]
      rfl
    · rw [closed.item, PairSending.secondArrival, far]
      rfl
    · intro t member frame arrival signs
      refine quiet t member ?_
      rw [arrival]
      exact ⟨rfl, signs⟩
    · rw [opened.clock, closed.clock, apart]
    · have mark' : m.prober.sampler.markOf s.second.source = some (s.firstArrival link).due := mark
      have gap : second.mesh.sim.now - (s.firstArrival link).due =
          link.transmissionTime (UInt32.ofNat s.prober.config.secondSize) := by
        refine Time.ext ?_
        rw [closed.clock, Time.ns_sub, apart, Nat.add_sub_cancel_left]
      rw [DelaySampler.recordForward_answer, if_pos rfl, mark', Option.map_some, gap, Option.filter_some]
      simp only [decide_eq_true_eq]

def sendOwn (source : NodeId) (frame : Frame) (mesh : Mesh) : Option Mesh :=
  if frame.source ∈ mesh.medium.addressesOf source then some (Network.send source frame mesh)
  else none

def startOne (id : NodeId) (mesh : Mesh) : Option Mesh :=
  (mesh.medium.node? id).map fun _ => (startNode mesh id).2

def carryOut (mesh : Mesh) : Option (Turn × Mesh) := do
  let (item, sim) ← mesh.sim.next? none
  let mesh' ← (execute { mesh with sim } item.event).toOption
  return (⟨item, { mesh with sim }⟩, mesh')

def carryOutMany : Nat → Mesh → Option (List Turn × Mesh)
  | 0, mesh => some ([], mesh)
  | count + 1, mesh => do
    let (turns, mesh) ← carryOutMany count mesh
    let (turn, mesh) ← carryOut mesh
    return (turns ++ [turn], mesh)

theorem carryOut_ok {turn : Turn} (done : carryOut mesh = some (turn, mesh')) :
    mesh.sim.next? none = some (turn.item, turn.mesh.sim) ∧
      turn.mesh = { mesh with sim := turn.mesh.sim } ∧
      execute turn.mesh turn.item.event = .ok mesh' := by
  obtain ⟨⟨item, sim⟩, taken, rest⟩ := Option.bind_eq_some_iff.mp done
  obtain ⟨after, carried, same⟩ := Option.bind_eq_some_iff.mp rest
  cases same
  exact ⟨taken, rfl, ok_of_toOption carried⟩

theorem carryOutMany_keeps {P : Mesh → Prop} (fired : KeptByEvents P) (count : Nat) :
    ∀ {turns : List Turn} {mesh' : Mesh}, P mesh → carryOutMany count mesh = some (turns, mesh') →
      P mesh' := by
  induction count with
  | zero =>
    intro turns mesh' holds done
    cases done
    exact holds
  | succ count ih =>
    intro turns mesh' holds done
    obtain ⟨⟨before, mid⟩, first, rest⟩ := Option.bind_eq_some_iff.mp done
    obtain ⟨⟨turn, last⟩, next, same⟩ := Option.bind_eq_some_iff.mp rest
    cases same
    obtain ⟨taken, same, carried⟩ := carryOut_ok next
    rw [same] at carried
    exact fired (ih holds first) taken carried

theorem Operated.sendOwn {source : NodeId} {frame : Frame} (operated : Operated start mesh turns)
    (done : Mesh.sendOwn source frame mesh = some mesh') : Operated start mesh' turns := by
  unfold Mesh.sendOwn at done
  split at done
  · next own =>
    cases done
    obtain ⟨n, present, signs⟩ := Network.mem_addressesOf.mp own
    exact operated.attended (.sent present signs)
  · cases done

theorem Operated.startOne {id : NodeId} (operated : Operated start mesh turns)
    (done : Mesh.startOne id mesh = some mesh') : Operated start mesh' turns := by
  obtain ⟨n, present, rfl⟩ := Option.map_eq_some_iff.mp done
  exact operated.attended (.started present)

theorem Operated.carryOut {turn : Turn} (operated : Operated start mesh turns)
    (done : Mesh.carryOut mesh = some (turn, mesh')) : Operated start mesh' (turns ++ [turn]) := by
  obtain ⟨taken, same, carried⟩ := carryOut_ok done
  rw [same] at carried
  have fired := operated.fired taken carried
  rwa [← same] at fired

private theorem operated_carryOutMany (count : Nat) : ∀ {turns : List Turn} {mesh' : Mesh},
    carryOutMany count mesh = some (turns, mesh') → Operated mesh mesh' turns := by
  induction count with
  | zero =>
    intro turns mesh' done
    cases done
    exact .here
  | succ count ih =>
    intro turns mesh' done
    obtain ⟨⟨before, mid⟩, first, rest⟩ := Option.bind_eq_some_iff.mp done
    obtain ⟨⟨turn, last⟩, taken, same⟩ := Option.bind_eq_some_iff.mp rest
    cases same
    exact (ih first).carryOut taken

theorem Reached.addedPlain {config : NodeConfig} {net : Network} (reached : Reached injected mesh past)
    (done : mesh.medium.addNode (MeshNode.create · config) = .ok (id, net)) :
    Reached injected { mesh with medium := net } past := by
  have plain : (fun id => (MeshNode.create id config).map fun n =>
      if false then n.withRouteLog else n) = (MeshNode.create · config) := by
    funext id
    cases MeshNode.create id config <;> rfl
  exact reached.added false (plain ▸ done)

def slowPair : Option Mesh := do
  let (_, net) ← (Network.empty.addNode (MeshNode.create · (.ofIndex 0))).toOption
  let (_, net) ← (net.addNode (MeshNode.create · (.ofIndex 1))).toOption
  let (_, net) ← (net.connect 0 1 (.ofMillis 5) 10_000 0).toOption
  let (_, net) ← (net.connect 1 0 (.ofMillis 5) 10_000 0).toOption
  return ⟨.empty, net⟩

private theorem reached_slowPair (made : slowPair = some mesh) :
    Reached injected mesh {} ∧ mesh.sim = .empty := by
  unfold slowPair at made
  obtain ⟨⟨_, _⟩, first, made⟩ := Option.bind_eq_some_iff.mp made
  obtain ⟨⟨_, _⟩, second, made⟩ := Option.bind_eq_some_iff.mp made
  obtain ⟨⟨_, _⟩, forth, made⟩ := Option.bind_eq_some_iff.mp made
  obtain ⟨⟨_, _⟩, back, made⟩ := Option.bind_eq_some_iff.mp made
  cases made
  have nobody : Reached injected Mesh.empty {} := .empty
  have nodes := (nobody.addedPlain (ok_of_toOption first)).addedPlain (ok_of_toOption second)
  exact ⟨(nodes.connected (ok_of_toOption forth)).connected (ok_of_toOption back), rfl⟩

/-- A run in which a pair is sent. -/
structure PairRun where
  start : Mesh
  /-- The network before the timer fires at which the pair is sent. -/
  mesh : Mesh
  timer : Turn
  sent : Mesh
  pair : PairSending Network
  link : Link
  turns : List Turn
  later : Mesh

/-- A node that has heard of its neighbour sends it a long frame, and then a pair, which it puts on the
link before the long frame has left. -/
def pairBehindLongFrame : Option PairRun := do
  let start ← slowPair
  let mesh ← sendOwn 1 ⟨0, .ofIndex 0, .ofIndex 1, FrameType.discovery, []⟩ start
  let mesh ← startOne 0 mesh
  let (_, mesh) ← carryOut mesh
  let mesh ← sendOwn 0 ⟨0, .ofIndex 1, .ofIndex 0, 0, List.replicate 300 0⟩ mesh
  let (timer, sent) ← carryOut mesh
  let sender ← mesh.medium.node? 0
  let pair ← (sender.prober.pairs .probeRound timer.mesh).head?
  let link ← pair.air.medium.links[0]?
  let (turns, later) ← carryOutMany 4 sent
  return ⟨start, mesh, timer, sent, pair, link, turns, later⟩

/-- What can be told from a run: nodes and links are as they should be, the pair goes over the link
while it is busy and before time runs out, and nothing is left to be done by the time that its second
frame is due. -/
def PairRun.Fine (r : PairRun) : Prop :=
  (r.start.medium.Distinct ∧ r.start.medium.linkId? 0 1 = some 0 ∧
    r.timer.item.event = .timer 0 .probeRound) ∧
  (minProbeFrame ≤ r.pair.prober.config.firstSize ∧ minProbeFrame ≤ r.pair.prober.config.secondSize ∧
    r.pair.peer.isBroadcast = false ∧ r.pair.air.medium.nodeByEth? r.pair.peer = some 1 ∧
    r.link.drops r.pair.air.medium.nextFrameId = false ∧
    r.link.drops (r.pair.air.medium.nextFrameId + 1) = false) ∧
  ((max r.pair.air.now r.link.busyUntil).ns +
      (r.link.transmissionTime (UInt32.ofNat r.pair.prober.config.firstSize)).ns +
      (r.link.transmissionTime (UInt32.ofNat r.pair.prober.config.secondSize)).ns +
      r.link.latency.ns ≤ 0xffff_ffff_ffff_ffff ∧
    r.link.transmissionTime (UInt32.ofNat r.pair.prober.config.secondSize) = .ofMillis 24) ∧
  r.pair.air.now < r.link.busyUntil ∧
  (r.later.sim.next? (some (r.pair.secondArrival r.link).due)).isNone = true

instance (r : PairRun) : Decidable r.Fine :=
  inferInstanceAs (Decidable (_ ∧ _ ∧ _ ∧ _ ∧ _))

/-- A pair behind a long frame is measured as any other. -/
theorem pair_behind_long_frame_measured : ∃ r : PairRun,
    (∃ past turns, Reached False r.start past ∧ (∀ x ∈ r.start.sim.live, ¬ x.event.IsArrival) ∧
      r.start.medium.Distinct ∧ r.start.medium.linkId? 0 1 = some 0 ∧
      Operated r.start r.mesh turns ∧ r.mesh.SendsPair 0 r.pair r.sent ∧
      Operated r.sent r.later r.turns ∧ r.pair.Over 1 0 r.link) ∧
    r.pair.air.now < r.link.busyUntil ∧
    ∃ (first second : Turn) (m : MeshNode), first ∈ r.turns ∧ second ∈ r.turns ∧
      first.item.event = .arrival 1 r.pair.first ∧ second.item.event = .arrival 1 r.pair.second ∧
      second.mesh.sim.now.ns = first.mesh.sim.now.ns + 24_000_000 ∧
      second.mesh.medium.node? 1 = some m ∧
      (m.prober.sampler.recordForward r.pair.second.source 2 second.mesh.sim.now).1 =
        some 24_000 := by
  have checked : pairBehindLongFrame.map (fun r => decide r.Fine) = some true := by decide +kernel
  obtain ⟨r, done, fine⟩ := Option.map_eq_some_iff.mp checked
  obtain ⟨⟨distinct, linked, timer⟩, ⟨firstSize, secondSize, single, holder, keepsFirst, keepsSecond⟩,
    ⟨fits, gap⟩, busy, idle⟩ := of_decide_eq_true fine
  unfold pairBehindLongFrame at done
  obtain ⟨start, made, done⟩ := Option.bind_eq_some_iff.mp done
  obtain ⟨greeted, greeting, done⟩ := Option.bind_eq_some_iff.mp done
  obtain ⟨begun, starting, done⟩ := Option.bind_eq_some_iff.mp done
  obtain ⟨⟨heard, ready⟩, hearing, done⟩ := Option.bind_eq_some_iff.mp done
  obtain ⟨loaded, loading, done⟩ := Option.bind_eq_some_iff.mp done
  obtain ⟨⟨fired, sent⟩, firing, done⟩ := Option.bind_eq_some_iff.mp done
  obtain ⟨sender, there, done⟩ := Option.bind_eq_some_iff.mp done
  obtain ⟨pair, sends, done⟩ := Option.bind_eq_some_iff.mp done
  obtain ⟨link, present, done⟩ := Option.bind_eq_some_iff.mp done
  obtain ⟨⟨turns, later⟩, after, same⟩ := Option.bind_eq_some_iff.mp done
  cases same
  obtain ⟨reached, fresh⟩ : Reached False start {} ∧ start.sim = .empty := reached_slowPair made
  have clear : ∀ x ∈ start.sim.live, ¬ x.event.IsArrival := by
    rw [fresh]
    exact nofun
  have before : Operated start loaded _ :=
    (((Operated.here.sendOwn greeting).startOne starting).carryOut hearing).sendOwn loading
  obtain ⟨taken, same, carried⟩ := carryOut_ok firing
  have goes : pair.Over 1 0 link :=
    ⟨firstSize, secondSize, single, holder, present, keepsFirst, keepsSecond⟩
  rw [same] at carried sends
  have sending : loaded.SendsPair 0 pair sent :=
    .fired taken timer there (List.mem_of_mem_head? sends) carried
  have run := operated_carryOutMany 4 after
  refine ⟨_, ⟨_, _, reached, clear, distinct, linked, before, sending, run, goes⟩, busy, ?_⟩
  rcases pair_measures_link reached clear distinct linked before sending run goes fits with
    ⟨-, ends⟩ |
      ⟨_, _, _, first, second, m, whole, -, opened, -, closed, -, apart, receiver, -, measured⟩
  · exact absurd (ends _ (Option.isNone_iff_eq_none.mp idle)) (Nat.lt_irrefl _)
  · refine ⟨first, second, m, ?_, ?_, opened, closed, ?_, receiver, ?_⟩
    · simp [whole]
    · simp [whole]
    · rw [apart, gap]
      rfl
    · rw [measured, gap]
      rfl

end Mesh

end WirelessMesh
