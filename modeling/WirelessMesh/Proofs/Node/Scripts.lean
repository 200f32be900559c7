import WirelessMesh.Proofs.Discovery.Frames
import WirelessMesh.Proofs.Node.Run
import WirelessMesh.Proofs.Probing.Prober
import WirelessMesh.Proofs.Route.Scripts
import WirelessMesh.Proofs.Wire.Usable

namespace WirelessMesh

variable {μ : Type} [Medium μ] {dumps : Prop} {signs : EtherAddress → Prop} {speech : Speech}
  {air : Air μ} {sim : Simulator MeshEvent} {medium : μ}

namespace DeliveryRates

variable {d : DeliveryRates} {slots : TimerKind → TimerSlot}

private theorem plays_start (held : slots .discovery = d.timer) :
    Plays d.node (Deed.Setting dumps) ⟨slots, ⟨sim, medium⟩⟩
      ⟨Function.update slots .discovery (d.start sim).1.timer, ⟨(d.start sim).2, medium⟩⟩ := by
  have set (delay : Time) : Deed.Setting dumps (.arm .discovery delay) := trivial
  exact .arm (set _) held rfl

private theorem plays_stop (held : slots .discovery = d.timer) :
    Plays d.node Deed.Timing ⟨slots, ⟨sim, medium⟩⟩
      ⟨Function.update slots .discovery (d.stop sim).1.timer, ⟨(d.stop sim).2, medium⟩⟩ := by
  have fine : Deed.Timing (.disarm .discovery) := trivial
  exact .disarm fine held rfl

private theorem plays_onTimer (may : speech.announces (d.nextDraft air.now))
    (held : slots .discovery = d.timer) :
    Plays d.node (Deed.Within dumps speech) ⟨slots, air⟩
      ⟨Function.update slots .discovery (d.onTimer air).1.timer, (d.onTimer air).2⟩ := by
  have set (delay : Time) : Deed.Within dumps speech (.arm .discovery delay) := trivial
  exact (Plays.announce may).trans (.arm (set _) held rfl)

theorem same_onFrame (d : DeliveryRates) (frame : Frame) (now : Time) :
    (d.onFrame frame now).eth = d.eth ∧ (d.onFrame frame now).config = d.config ∧
      (d.onFrame frame now).timer = d.timer := by
  unfold onFrame
  split
  · exact ⟨rfl, rfl, rfl⟩
  · exact ⟨rfl, rfl, rfl⟩

end DeliveryRates

namespace Prober

def slots (p : Prober) (others : TimerKind → TimerSlot) : TimerKind → TimerSlot
  | .probeRound => p.rounds.roundTimer
  | .probeNext => p.rounds.probeTimer
  | kind => others kind

/-- A prober that is another one but for its samples and its pace, and has no new neighbours. -/
structure Keeps (p p' : Prober) : Prop where
  node : p'.node = p.node
  eth : p'.eth = p.eth
  config : p'.config = p.config
  neighbors : ∀ peer ∈ p'.neighbors.keys, peer ∈ p.neighbors.keys

/-- A prober gets by deeds of some kinds to where an operation has taken it. -/
structure Acts (allowed : Deed → Prop) (others : TimerKind → TimerSlot) (p : Prober) (air : Air μ)
    (p' : Prober) (air' : Air μ) : Prop extends Keeps p p' where
  plays : Plays p.node allowed ⟨p.slots others, air⟩ ⟨p'.slots others, air'⟩

variable {allowed : Deed → Prop} {others : TimerKind → TimerSlot} {p p' p'' : Prober}
  {air' air'' : Air μ}

namespace Keeps

theorem of_eq (node : p'.node = p.node) (eth : p'.eth = p.eth) (config : p'.config = p.config)
    (neighbors : p'.neighbors = p.neighbors) : p.Keeps p' :=
  ⟨node, eth, config, fun _ member => neighbors ▸ member⟩

theorem refl (p : Prober) : p.Keeps p := of_eq rfl rfl rfl rfl

theorem trans (first : p.Keeps p') (second : p'.Keeps p'') : p.Keeps p'' where
  node := second.node.trans first.node
  eth := second.eth.trans first.eth
  config := second.config.trans first.config
  neighbors peer member := first.neighbors peer (second.neighbors peer member)

theorem swept (p : Prober) (cutoff : Time) (rounds : ProbeRounds) :
    p.Keeps { p with neighbors := p.neighbors.sweep cutoff, rounds } :=
  ⟨rfl, rfl, rfl, fun _ member => p.neighbors.keys_sweep cutoff member⟩

theorem cleared (p : Prober) (rounds : ProbeRounds) :
    p.Keeps { p with neighbors := p.neighbors.clearProbed, rounds } :=
  ⟨rfl, rfl, rfl, fun _ member => p.neighbors.keys_clearProbed ▸ member⟩

end Keeps

theorem slots_congr (round : p'.rounds.roundTimer = p.rounds.roundTimer)
    (probe : p'.rounds.probeTimer = p.rounds.probeTimer) : p'.slots others = p.slots others := by
  funext kind
  cases kind <;> simp [slots, round, probe]

theorem slots_round {rounds : ProbeRounds} {slot : TimerSlot}
    (probe : rounds.probeTimer = p.rounds.probeTimer) :
    { p with rounds := { rounds with roundTimer := slot } }.slots others =
      Function.update (p.slots others) .probeRound slot := by
  funext kind
  cases kind <;> simp [slots, probe]

theorem slots_probe {slot : TimerSlot} :
    { p with rounds := { p.rounds with probeTimer := slot } }.slots others =
      Function.update (p.slots others) .probeNext slot := by
  funext kind
  cases kind <;> simp [slots]

namespace Acts

theorem refl (allowed : Deed → Prop) (p : Prober) (air : Air μ) :
    Acts allowed others p air p air := ⟨.refl p, .refl _⟩

theorem trans (first : Acts allowed others p air p' air')
    (second : Acts allowed others p' air' p'' air'') : Acts allowed others p air p'' air'' where
  toKeeps := first.toKeeps.trans second.toKeeps
  plays := first.plays.trans (first.node ▸ second.plays)

theorem resumed (acts : Acts allowed others p' air p'' air'') (keeps : p.Keeps p')
    (rounds : p'.slots others = p.slots others) : Acts allowed others p air p'' air'' where
  toKeeps := keeps.trans acts.toKeeps
  plays := by
    rw [← keeps.node, ← rounds]
    exact acts.plays

theorem mono {wider : Deed → Prop} (more : ∀ deed, allowed deed → wider deed)
    (acts : Acts allowed others p air p' air') : Acts wider others p air p' air' :=
  ⟨acts.toKeeps, acts.plays.mono more⟩

theorem ordinary (acts : Acts (Deed.Within dumps (.signed signs)) others p air p' air') :
    Acts (Deed.Ordinary dumps signs) others p air p' air' :=
  acts.mono fun _ => Deed.Within.ordinary

/-- A prober whose timers have not changed has done nothing to the medium so far. -/
theorem quiet (keeps : p.Keeps p') (rounds : p'.rounds = p.rounds) :
    Acts allowed others p air p' air :=
  (Acts.refl allowed p' air).resumed keeps
    (slots_congr (congrArg (·.roundTimer) rounds) (congrArg (·.probeTimer) rounds))

end Acts

/-- Whether a prober may send a pair to a peer, whatever it reports. -/
structure MayProbe (p : Prober) (speech : Speech) (peer : EtherAddress) : Prop where
  first : ∀ report, speech.posts (p.pairDraft peer 1 p.config.firstSize report)
  second : ∀ report, speech.posts (p.pairDraft peer 2 p.config.secondSize report)

theorem MayProbe.signed (own : signs p.eth) (peer : EtherAddress) : p.MayProbe (.signed signs) peer :=
  ⟨fun _ => own, fun _ => own⟩

theorem MayProbe.kept {peer : EtherAddress} (may : p.MayProbe speech peer) (keeps : p.Keeps p') :
    p'.MayProbe speech peer := by
  refine ⟨fun report => ?_, fun report => ?_⟩
  · rw [pairDraft, keeps.eth, keeps.config]
    exact may.first report
  · rw [pairDraft, keeps.eth, keeps.config]
    exact may.second report

theorem acts_post {draft : Draft} (may : speech.posts draft) :
    Acts (Deed.Within dumps speech) others p air p (air.post p.node draft) :=
  ⟨.refl p, .post may⟩

private theorem keeps_pendingReport (p : Prober) (peer : EtherAddress) (now : Time) :
    p.Keeps (p.pendingReport peer now).2 := by
  unfold pendingReport
  split
  · exact .of_eq rfl rfl rfl rfl
  · exact .refl p

theorem acts_sendPair {peer : EtherAddress} (may : p.MayProbe speech peer) :
    Acts (Deed.Within dumps speech) others p air (p.sendPair peer air).1 (p.sendPair peer air).2 := by
  have keeps := p.keeps_pendingReport peer air.now
  have rounds := (pendingReport_same p peer air.now).2.2.2
  have asked : (p.pendingReport peer air.now).2.slots others = p.slots others :=
    slots_congr (congrArg _ rounds) (congrArg _ rounds)
  refine Acts.resumed ?_ keeps asked
  have first := (may.kept keeps).first (p.pendingReport peer air.now).1
  have second := (may.kept keeps).second (p.pendingReport peer air.now).1
  exact (acts_post first).trans (acts_post second)

theorem acts_probeNext (may : ∀ peer ∈ p.neighbors.keys, p.MayProbe speech peer) :
    Acts (Deed.Within dumps speech) others p air (p.probeNext air).1 (p.probeNext air).2 := by
  have keeps := Keeps.swept p p.rounds.cutoff p.rounds
  unfold probeNext
  simp only
  split
  · exact (Acts.refl _ _ air).resumed keeps rfl
  · next peer next =>
    have set (delay : Time) : Deed.Within dumps speech (.arm .probeNext delay) := trivial
    have known := keeps.neighbors peer (NeighborTable.mem_keys_of_unprobed next)
    have sent : Acts (Deed.Within dumps speech) others p air _ _ :=
      (acts_sendPair ((may peer known).kept keeps)).resumed keeps rfl
    refine sent.trans ⟨⟨rfl, rfl, rfl, fun _ member => ?_⟩, .arm (set _) rfl slots_probe⟩
    exact NeighborTable.keys_markProbed _ peer ▸ member

theorem acts_probeAll (peers : List EtherAddress) : ∀ {p : Prober} {air : Air μ},
    (∀ peer ∈ peers, p.MayProbe speech peer) →
    Acts (Deed.Within dumps speech) others p air (p.probeAll peers air).1 (p.probeAll peers air).2 := by
  induction peers with
  | nil => exact fun _ => .refl _ _ _
  | cons peer rest ih =>
    intro p air may
    have first : Acts (Deed.Within dumps speech) others p air _ _ :=
      acts_sendPair (may peer List.mem_cons_self)
    exact first.trans (ih fun other member =>
      (may other (List.mem_cons_of_mem _ member)).kept first.toKeeps)

/-- The next round is set, with other things of the pace that are not timers. -/
theorem acts_armRound {rounds : ProbeRounds} {delay : Time} (set : allowed (.arm .probeRound delay))
    (round : rounds.roundTimer = p.rounds.roundTimer)
    (probe : rounds.probeTimer = p.rounds.probeTimer) :
    Acts allowed others p ⟨sim, medium⟩ { p with rounds := (rounds.armRound sim delay p.node).1 }
      ⟨(rounds.armRound sim delay p.node).2, medium⟩ :=
  ⟨.of_eq rfl rfl rfl rfl, .arm set round.symm (slots_round probe)⟩

private theorem acts_start :
    Acts (Deed.Setting dumps) others p ⟨sim, medium⟩ (p.start sim).1 ⟨(p.start sim).2, medium⟩ := by
  have set (delay : Time) : Deed.Setting dumps (.arm .probeRound delay) := trivial
  obtain ⟨round, probe⟩ := timers_startOffset p.rounds p.eth sim.now
  exact acts_armRound (set _) round probe

private theorem acts_disarmRound :
    Acts Deed.Timing others p ⟨sim, medium⟩ { p with rounds := { p.rounds with roundTimer := none } }
      ⟨p.rounds.roundTimer.disarm sim, medium⟩ := by
  have fine : Deed.Timing (.disarm .probeRound) := trivial
  exact ⟨.of_eq rfl rfl rfl rfl, .disarm fine rfl (slots_round rfl)⟩

private theorem acts_disarmProbe :
    Acts Deed.Timing others p ⟨sim, medium⟩ { p with rounds := { p.rounds with probeTimer := none } }
      ⟨p.rounds.probeTimer.disarm sim, medium⟩ := by
  have fine : Deed.Timing (.disarm .probeNext) := trivial
  exact ⟨.of_eq rfl rfl rfl rfl, .disarm fine rfl slots_probe⟩

private theorem acts_stop :
    Acts Deed.Timing others p ⟨sim, medium⟩ (p.stop sim).1 ⟨(p.stop sim).2, medium⟩ :=
  acts_disarmRound.trans acts_disarmProbe

theorem Acts.nextRound (acts : Acts allowed others p air p' air')
    (set : ∀ delay, allowed (.arm .probeRound delay)) (now : Time) :
    let next := p'.rounds.nextRoundDelay p'.eth now
    Acts allowed others p air
      { p' with rounds := (next.2.armRound air'.sim next.1 p'.node).1 }
      { air' with sim := (next.2.armRound air'.sim next.1 p'.node).2 } := by
  obtain ⟨round, probe⟩ := timers_nextRoundDelay p'.rounds p'.eth now
  exact acts.trans (acts_armRound (set _) round probe)

theorem acts_onRoundTimer (may : ∀ peer ∈ p.neighbors.keys, p.MayProbe speech peer) :
    Acts (Deed.Within dumps speech) others p air (p.onRoundTimer air).1 (p.onRoundTimer air).2 := by
  have set (delay : Time) : Deed.Within dumps speech (.arm .probeRound delay) := trivial
  unfold onRoundTimer
  cases schedule : p.rounds.schedule with
  | staggered =>
    simp only [ProbeRounds.beginRound, schedule]
    refine Acts.nextRound ?_ set air.now
    have keeps := Keeps.cleared p
    exact Acts.resumed (acts_probeNext fun peer member =>
      (may peer ((keeps _).neighbors peer member)).kept (keeps _)) (keeps _) rfl
  | batch =>
    simp only [ProbeRounds.beginRound, schedule]
    refine Acts.nextRound ?_ set air.now
    have keeps := Keeps.swept p
    exact Acts.resumed (acts_probeAll _ fun peer member =>
      (may peer (p.neighbors.keys_sweep _ member)).kept (keeps _ _)) (keeps _ _) rfl

private theorem armed_onRoundTimer (p : Prober) (air : Air μ) :
    (p.onRoundTimer air).1.rounds.roundTimer.isArmed (p.onRoundTimer air).2.sim = true := by
  unfold onRoundTimer
  exact TimerSlot.isArmed_rearm _ _ _ _

private theorem armed_start (p : Prober) (sim : Simulator MeshEvent) :
    (p.start sim).1.rounds.roundTimer.isArmed (p.start sim).2 = true :=
  TimerSlot.isArmed_rearm _ _ _ _

theorem takeReport_same (p : Prober) (frame : Frame) (now : Time) :
    p.Keeps (p.takeReport frame now) ∧ (p.takeReport frame now).rounds = p.rounds := by
  unfold takeReport
  split
  · exact ⟨.refl p, rfl⟩
  · split
    · exact ⟨.of_eq rfl rfl rfl rfl, rfl⟩
    · exact ⟨.refl p, rfl⟩

theorem acts_takeReport (frame : Frame) (now : Time) :
    Acts allowed others p air (p.takeReport frame now) air := by
  obtain ⟨keeps, rounds⟩ := takeReport_same p frame now
  exact .quiet keeps rounds

private theorem acts_onProbe {frame : Frame}
    (may : ∀ micros, speech.posts (p.replyDraft frame.source micros)) (probe : LinkProbe) :
    Acts (Deed.Within dumps speech) others p air (p.onProbe frame probe air).1
      (p.onProbe frame probe air).2 := by
  unfold onProbe
  simp only
  split
  · exact (acts_takeReport frame air.now).resumed (.of_eq rfl rfl rfl rfl) rfl
  · split
    · exact .quiet (.of_eq rfl rfl rfl rfl) rfl
    · exact (acts_post (may _)).trans (.quiet (.of_eq rfl rfl rfl rfl) rfl)

/-- Discovery frames apart, what a prober says to a frame is a reply or that it is of no use. -/
theorem acts_onFrame {frame : Frame} (may : ∀ micros, speech.posts (p.replyDraft frame.source micros))
    (refuses : ¬ frame.Usable → speech.rejects frame) (other : frame.type ≠ FrameType.discovery) :
    Acts (Deed.Within dumps speech) others p air (p.onFrame frame air).2.1
      (p.onFrame frame air).2.2 := by
  unfold onFrame
  split
  · next discovery => exact absurd discovery other
  · split
    · next type =>
      split
      · next short =>
        have useless : ¬ frame.Usable := fun usable => Nat.not_le.mpr short (usable.long type)
        exact ⟨.refl p, .reject (refuses useless)⟩
      · split
        · split
          · exact .refl _ _ _
          · split
            · exact acts_onProbe may _
            · exact .refl _ _ _
        · exact acts_takeReport frame air.now
    · exact .refl _ _ _

end Prober

namespace MeshNode

/-- The timers of a node, each in the slot for its purpose. -/
def slots (n : MeshNode) : TimerKind → TimerSlot
  | .discovery => n.rates.timer
  | .probeRound => n.prober.rounds.roundTimer
  | .probeNext => n.prober.rounds.probeTimer
  | .advert => n.routes.advertTimer
  | .trigger => n.routes.triggerTimer
  | .routeDump => n.routes.dumpTimer
  | .expiry ip => n.routes.expiryOf ip

/-- The addresses of a node: its own, and those under which its parts send. -/
def addresses (n : MeshNode) : List EtherAddress :=
  [n.eth, n.rates.eth, n.prober.eth, n.routes.eth]

/-- Whether an address is one of the node. -/
def Signs (n : MeshNode) (eth : EtherAddress) : Prop := eth ∈ n.addresses

/-- Nodes that have the same addresses have the same one of their own. -/
theorem eth_congr {n? n'? : Option MeshNode} (same : n'?.map (·.addresses) = n?.map (·.addresses)) :
    n'?.map (·.eth) = n?.map (·.eth) := by
  cases n? <;> cases n'? <;> simp_all [addresses]

/-- Whether a node writes its whole table to the log from time to time. -/
def Dumps (n : MeshNode) : Prop := n.routes.config.logDumpMillis.isSome = true

def Recurs (n : MeshNode) : TimerKind → Prop
  | .discovery | .probeRound | .advert => True
  | .routeDump => n.Dumps
  | _ => False

theorem dumps_congr {n n' : MeshNode} (same : n'.routes.config = n.routes.config) :
    n'.Dumps ↔ n.Dumps := by
  rw [Dumps, Dumps, same]

theorem recurs_congr {n n' : MeshNode} (same : n'.routes.config = n.routes.config)
    (kind : TimerKind) : n'.Recurs kind ↔ n.Recurs kind := by
  cases kind with
  | routeDump => exact dumps_congr same
  | discovery => exact Iff.rfl
  | probeRound => exact Iff.rfl
  | probeNext => exact Iff.rfl
  | advert => exact Iff.rfl
  | trigger => exact Iff.rfl
  | expiry ip => exact Iff.rfl

/-- The parts of a node know its number, and its rows are under their destinations. -/
structure Composed (n : MeshNode) : Prop where
  rates : n.rates.node = n.id
  prober : n.prober.node = n.id
  routes : n.routes.node = n.id
  keyed : ∀ ip route, n.routes.routes.get? ip = some route → route.row.ip = ip

theorem Sound.composed {n : MeshNode} {sim : Simulator MeshEvent} (sound : n.Sound sim) :
    n.Composed :=
  ⟨sound.rates.1, sound.prober.belongs, sound.node,
    fun ip route present => (sound.routes.routes ip route present).keyed⟩

/-- A node gets by deeds of some kinds to where an operation has taken it. -/
structure Acts (allowed : Deed → Prop) (n : MeshNode) (air : Air μ) (n' : MeshNode) (air' : Air μ) :
    Prop where
  id : n'.id = n.id
  addresses : n'.addresses = n.addresses
  config : n'.routes.config = n.routes.config
  plays : Plays n.id allowed ⟨n.slots, air⟩ ⟨n'.slots, air'⟩

variable {n n' n'' : MeshNode} {air' air'' : Air μ} {allowed : Deed → Prop}

theorem slots_rates (n : MeshNode) (d : DeliveryRates) :
    { n with rates := d }.slots = Function.update n.slots .discovery d.timer := by
  funext kind
  cases kind <;> simp [slots]

theorem slots_prober (n : MeshNode) (p : Prober) : { n with prober := p }.slots = p.slots n.slots := by
  funext kind
  cases kind <;> rfl

theorem slots_routes (n : MeshNode) (t : RouteTable) :
    { n with routes := t }.slots = t.slots n.slots := by
  funext kind
  cases kind <;> rfl

namespace Acts

theorem quiet (id : n'.id = n.id) (addresses : n'.addresses = n.addresses)
    (config : n'.routes.config = n.routes.config) (slots : n'.slots = n.slots) :
    Acts allowed n air n' air :=
  ⟨id, addresses, config, slots ▸ .refl _⟩

theorem trans (first : Acts allowed n air n' air') (second : Acts allowed n' air' n'' air'') :
    Acts allowed n air n'' air'' where
  id := second.id.trans first.id
  addresses := second.addresses.trans first.addresses
  config := second.config.trans first.config
  plays := first.plays.trans (first.id ▸ second.plays)

theorem mono {wider : Deed → Prop} (more : ∀ deed, allowed deed → wider deed)
    (acts : Acts allowed n air n' air') : Acts wider n air n' air' :=
  ⟨acts.id, acts.addresses, acts.config, acts.plays.mono more⟩

theorem rated {d : DeliveryRates} (mine : n.rates.node = n.id) (eth : d.eth = n.rates.eth)
    (plays : Plays n.rates.node allowed ⟨n.slots, air⟩
      ⟨Function.update n.slots .discovery d.timer, air'⟩) :
    Acts allowed n air { n with rates := d } air' where
  id := rfl
  addresses := by rw [MeshNode.addresses, eth, MeshNode.addresses]
  config := rfl
  plays := (n.slots_rates d).symm ▸ mine ▸ plays

theorem probed {p : Prober} (mine : n.prober.node = n.id)
    (acts : Prober.Acts allowed n.slots n.prober air p air') :
    Acts allowed n air { n with prober := p } air' where
  id := rfl
  addresses := by rw [MeshNode.addresses, acts.eth, MeshNode.addresses]
  config := rfl
  plays := by
    have own : n.prober.slots n.slots = n.slots := (n.slots_prober n.prober).symm
    have plays := acts.plays
    rw [own, mine] at plays
    exact (n.slots_prober p).symm ▸ plays

theorem routed {t : RouteTable} (mine : n.routes.node = n.id)
    (acts : RouteTable.Acts allowed n.slots n.routes air t air') :
    Acts allowed n air { n with routes := t } air' where
  id := rfl
  addresses := by rw [MeshNode.addresses, acts.eth, MeshNode.addresses]
  config := acts.config
  plays := by
    have own : n.routes.slots n.slots = n.slots := (n.slots_routes n.routes).symm
    have plays := acts.plays
    rw [own, mine] at plays
    exact (n.slots_routes t).symm ▸ plays

end Acts

/-- What a node says of itself when a timer fires is among what it may say. -/
structure MaySpeak (n : MeshNode) (speech : Speech) (now : Time) : Prop where
  discovery : speech.announces (n.rates.nextDraft now)
  advert : ∀ seq, speech.announces ({ n.routes with seq }.advertDraft now)
  probes : ∀ peer ∈ n.prober.neighbors.keys, n.prober.MayProbe speech peer

structure MayAnswer (n : MeshNode) (speech : Speech) (frame : Frame) : Prop where
  replies : ∀ micros, speech.posts (n.prober.replyDraft frame.source micros)
  refuses : ¬ frame.Usable → speech.rejects frame

theorem maySpeak_signed (n : MeshNode) (now : Time) : n.MaySpeak (.signed n.Signs) now where
  discovery := by simp [Speech.signed, DeliveryRates.nextDraft, Signs, addresses]
  advert _ := by simp [Speech.signed, RouteTable.advertDraft, Signs, addresses]
  probes peer _ := .signed (by simp [Signs, addresses]) peer

theorem mayAnswer_signed (n : MeshNode) (frame : Frame) : n.MayAnswer (.signed n.Signs) frame where
  replies _ := by simp [Speech.signed, Prober.replyDraft, Signs, addresses]
  refuses _ := trivial

/-- What a frame that is taken in makes of a node: its kind says which part takes it, and what no
part can use is rejected. -/
inductive Takes (n : MeshNode) (frame : Frame) (air : Air μ) : MeshNode × Air μ → Prop where
  | discovery (type : frame.type = FrameType.discovery) :
      Takes n frame air ({ n with
        rates := n.rates.onFrame frame air.now
        prober := n.prober.onDiscovery frame.source air.now }, air)
  | probing (type : frame.type = FrameType.probe ∨ frame.type = FrameType.probeReply)
      (other : frame.type ≠ FrameType.discovery) :
      Takes n frame air ({ n with prober := (n.prober.onFrame frame air).2.1 },
        (n.prober.onFrame frame air).2.2)
  | advert (type : frame.type = FrameType.advert) {advert : RouteAdvert}
      {after : RouteTable.Considered}
      (taken : n.routes.handleAdvert frame.source advert (n.linkMetric frame.source air.now).1
        air.sim = .ok after) :
      Takes n frame air ({ (n.linkMetric frame.source air.now).2 with routes := after.table },
        { air with sim := after.sim })
  | ignored (type : frame.type = FrameType.advert) : Takes n frame air (n, air)
  | rejected (other : frame.type ≠ FrameType.probe) (useless : ¬ frame.Usable) :
      Takes n frame air (n, air.reject n.id frame)

theorem takes_onFrame {frame : Frame} {next : MeshNode × Air μ}
    (done : n.onFrame frame air = .ok next) : n.Takes frame air next := by
  unfold onFrame at done
  split at done
  · next type =>
    cases done
    exact .discovery type
  · next other =>
    split at done
    · next type =>
      cases done
      exact .probing type other
    · next aside =>
      split at done
      · next type =>
        split at done
        · rw [onAdvert_eq] at done
          split at done
          · cases done
            exact .ignored type
          · obtain ⟨after, taken, rfl⟩ := ok_of_map done
            exact .advert type taken
        · next unread =>
          cases done
          refine .rejected (fun probe => aside (.inl probe)) fun usable => ?_
          obtain ⟨_, read⟩ := usable.advert_reads type
          rw [read] at unread
          cases unread
      · next unknown =>
        cases done
        refine .rejected (fun probe => aside (.inl probe)) fun usable => ?_
        rcases usable.known with type | type | type | type
        · exact other type
        · exact aside (.inl type)
        · exact aside (.inr type)
        · exact unknown type

theorem Composed.within_onFrame {frame : Frame} {next : MeshNode × Air μ} (composed : n.Composed)
    (may : n.MayAnswer speech frame) (done : n.onFrame frame air = .ok next) :
    Acts (Deed.Within n.Dumps speech) n air next.1 next.2 := by
  cases takes_onFrame done with
  | discovery =>
    obtain ⟨eth, -, timer⟩ := n.rates.same_onFrame frame air.now
    refine .quiet rfl ?_ rfl ?_
    · simp [addresses, eth, Prober.onDiscovery]
    · funext kind
      cases kind <;> simp [slots, timer, Prober.onDiscovery]
  | probing _ other =>
    exact .probed composed.prober (Prober.acts_onFrame may.replies may.refuses other)
  | advert _ taken =>
    have asked : Acts (Deed.Within n.Dumps speech) n air (n.linkMetric frame.source air.now).2 air :=
      .quiet rfl rfl rfl rfl
    refine asked.trans (.mono (fun _ => Deed.Passing.within) ?_)
    exact .routed composed.routes (RouteTable.acts_handleAdvert taken)
  | ignored => exact .quiet rfl rfl rfl rfl
  | rejected _ useless => exact ⟨rfl, rfl, rfl, .reject (may.refuses useless)⟩

theorem Composed.within_onTimer {kind : TimerKind} {next : MeshNode × Air μ} (composed : n.Composed)
    (may : n.MaySpeak speech air.now) (done : n.onTimer kind air = .ok next) :
    Acts (Deed.Within n.Dumps speech) n air next.1 next.2 := by
  cases kind with
  | discovery =>
    cases done
    exact .rated composed.rates rfl (DeliveryRates.plays_onTimer may.discovery rfl)
  | probeRound =>
    cases done
    exact .probed composed.prober (Prober.acts_onRoundTimer may.probes)
  | probeNext =>
    cases done
    exact .probed composed.prober (Prober.acts_probeNext may.probes)
  | advert =>
    cases done
    exact .routed composed.routes (RouteTable.acts_onAdvertTimer (may.advert _))
  | trigger =>
    cases done
    exact .routed composed.routes (RouteTable.acts_sendAdvert (may.advert n.routes.seq))
  | expiry ip =>
    obtain ⟨⟨t, sim⟩, expired, rfl⟩ := ok_of_map done
    refine .mono (fun _ => Deed.Passing.within) ?_
    exact .routed composed.routes (RouteTable.acts_onExpiry (composed.keyed ip) expired)
  | routeDump =>
    cases done
    refine .mono (fun _ => Deed.Setting.within) ?_
    exact .routed composed.routes (RouteTable.acts_onDumpTimer fun given => given)

theorem Composed.acts_onFrame {frame : Frame} {next : MeshNode × Air μ} (composed : n.Composed)
    (done : n.onFrame frame air = .ok next) :
    Acts (Deed.Ordinary n.Dumps n.Signs) n air next.1 next.2 :=
  (composed.within_onFrame (n.mayAnswer_signed frame) done).mono fun _ => Deed.Within.ordinary

theorem armed_onTimer {kind : TimerKind} {next : MeshNode × Air μ} (recurs : n.Recurs kind)
    (done : n.onTimer kind air = .ok next) : Desk.Armed ⟨next.1.slots, next.2⟩ kind := by
  cases kind with
  | discovery =>
    cases done
    exact TimerSlot.isArmed_rearm _ _ _ _
  | probeRound =>
    cases done
    exact Prober.armed_onRoundTimer n.prober air
  | advert =>
    cases done
    exact RouteTable.armed_onAdvertTimer n.routes air
  | routeDump =>
    cases done
    exact RouteTable.armed_onDumpTimer recurs air.sim
  | probeNext => exact recurs.elim
  | trigger => exact recurs.elim
  | expiry ip => exact recurs.elim

/-- A node on its way to being started: links are measured, routes are still to be told. -/
structure HalfStarted (n : MeshNode) (sim : Simulator MeshEvent) (medium : μ) (rated half : MeshNode)
    (sim₁ sim₂ : Simulator MeshEvent) : Prop where
  rates : Acts (Deed.Setting n.Dumps) n ⟨sim, medium⟩ rated ⟨sim₁, medium⟩
  discovery : Desk.Armed ⟨rated.slots, (⟨sim₁, medium⟩ : Air μ)⟩ .discovery
  prober : Acts (Deed.Setting n.Dumps) rated ⟨sim₁, medium⟩ half ⟨sim₂, medium⟩
  round : Desk.Armed ⟨half.slots, (⟨sim₂, medium⟩ : Air μ)⟩ .probeRound
  composed : half.Composed
  routes : n.start sim =
    ({ half with routes := (half.routes.start sim₂).1 }, (half.routes.start sim₂).2)

theorem Composed.halfStarted (composed : n.Composed) (sim : Simulator MeshEvent) (medium : μ) :
    ∃ rated half sim₁ sim₂, HalfStarted n sim medium rated half sim₁ sim₂ := by
  refine ⟨{ n with rates := (n.rates.start sim).1 },
    { n with
      rates := (n.rates.start sim).1
      prober := (n.prober.start (n.rates.start sim).2).1 },
    (n.rates.start sim).2, (n.prober.start (n.rates.start sim).2).2, ?_⟩
  exact {
    rates := .rated composed.rates rfl (DeliveryRates.plays_start rfl)
    discovery := TimerSlot.isArmed_rearm _ _ _ _
    prober := .probed composed.prober Prober.acts_start
    round := Prober.armed_start n.prober _
    composed := ⟨composed.rates, composed.prober, composed.routes, composed.keyed⟩
    routes := rfl }

theorem HalfStarted.config {rated half : MeshNode} {sim₁ sim₂ : Simulator MeshEvent}
    (started : HalfStarted n sim medium rated half sim₁ sim₂) :
    half.routes.config = n.routes.config :=
  started.prober.config.trans started.rates.config

theorem HalfStarted.acts_routes {rated half : MeshNode} {sim₁ sim₂ : Simulator MeshEvent}
    (started : HalfStarted n sim medium rated half sim₁ sim₂) :
    Acts (Deed.Setting n.Dumps) half ⟨sim₂, medium⟩ (n.start sim).1 ⟨(n.start sim).2, medium⟩ := by
  rw [started.routes]
  exact .routed started.composed.routes (RouteTable.acts_start (dumps_congr started.config).mp)

theorem Composed.acts_start (composed : n.Composed) :
    Acts (Deed.Setting n.Dumps) n ⟨sim, medium⟩ (n.start sim).1 ⟨(n.start sim).2, medium⟩ := by
  obtain ⟨rated, half, sim₁, sim₂, started⟩ := composed.halfStarted sim medium
  exact (started.rates.trans started.prober).trans started.acts_routes

section Armed

variable [LawfulMedium μ]

theorem Acts.tidy (acts : Acts allowed n air n' air') (tidy : Desk.Tidy n.id ⟨n.slots, air⟩) :
    Desk.Tidy n'.id ⟨n'.slots, air'⟩ := by
  rw [acts.id]
  exact acts.plays.tidy tidy

theorem Acts.armed {kind : TimerKind} (acts : Acts (Deed.Setting dumps) n air n' air')
    (tidy : Desk.Tidy n.id ⟨n.slots, air⟩) (armed : Desk.Armed ⟨n.slots, air⟩ kind) :
    Desk.Armed ⟨n'.slots, air'⟩ kind :=
  acts.plays.armed tidy armed fun never => never

private theorem Composed.armed_startRoutes {kind : TimerKind} (composed : n.Composed)
    (tidy : Desk.Tidy n.id ⟨n.slots, ⟨sim, medium⟩⟩)
    (mine : kind = .advert ∨ (kind = .routeDump ∧ n.Dumps)) :
    Desk.Armed ⟨{ n with routes := (n.routes.start sim).1 }.slots, ⟨(n.routes.start sim).2, medium⟩⟩
      kind := by
  obtain ⟨mid, midSim, same, advert, set⟩ := n.routes.start_eq sim medium n.slots
  have adverts := set n.Dumps
  rw [same]
  rcases mine with rfl | ⟨rfl, dumps⟩
  · have first : Acts (Deed.Setting n.Dumps) n ⟨sim, medium⟩ { n with routes := mid }
        ⟨midSim, medium⟩ := .routed composed.routes adverts
    have second : Acts (Deed.Setting n.Dumps) { n with routes := mid } ⟨midSim, medium⟩
        { n with routes := (mid.armDump midSim).1 } ⟨(mid.armDump midSim).2, medium⟩ := by
      refine .routed (adverts.node.trans composed.routes) (RouteTable.acts_armDump fun given => ?_)
      rw [adverts.config] at given
      exact given
    exact second.armed (first.tidy tidy) advert
  · exact RouteTable.armed_armDump (adverts.config ▸ dumps) midSim

/-- A node that has been started has all timers set that recur. -/
theorem Composed.armed_start {kind : TimerKind} (composed : n.Composed)
    (tidy : Desk.Tidy n.id ⟨n.slots, ⟨sim, medium⟩⟩) (recurs : n.Recurs kind) :
    Desk.Armed ⟨(n.start sim).1.slots, ⟨(n.start sim).2, medium⟩⟩ kind := by
  obtain ⟨rated, half, sim₁, sim₂, started⟩ := composed.halfStarted sim medium
  have ratedTidy := started.rates.tidy tidy
  have halfTidy := started.prober.tidy ratedTidy
  cases kind with
  | discovery =>
    exact started.acts_routes.armed halfTidy (started.prober.armed ratedTidy started.discovery)
  | probeRound => exact started.acts_routes.armed halfTidy started.round
  | advert =>
    rw [started.routes]
    exact started.composed.armed_startRoutes halfTidy (.inl rfl)
  | routeDump =>
    rw [started.routes]
    have dumps := (dumps_congr started.config).mpr recurs
    exact started.composed.armed_startRoutes halfTidy (.inr ⟨rfl, dumps⟩)
  | probeNext => exact recurs.elim
  | trigger => exact recurs.elim
  | expiry ip => exact recurs.elim

end Armed

theorem Composed.acts_shutdown (composed : n.Composed) :
    Acts Deed.Timing n ⟨sim, medium⟩ (n.shutdown sim).1 ⟨(n.shutdown sim).2, medium⟩ := by
  have rates : Acts Deed.Timing n ⟨sim, medium⟩ { n with rates := (n.rates.stop sim).1 }
      ⟨(n.rates.stop sim).2, medium⟩ := .rated composed.rates rfl (DeliveryRates.plays_stop rfl)
  have prober := rates.trans (.probed composed.prober Prober.acts_stop)
  exact prober.trans (.routed composed.routes RouteTable.acts_stop)

/-- A node that is shut down has given up all its timers. -/
theorem slots_shutdown (n : MeshNode) (sim : Simulator MeshEvent) (kind : TimerKind) :
    (n.shutdown sim).1.slots kind = none := by
  cases kind <;> rfl

end MeshNode

end WirelessMesh
