import WirelessMesh.Proofs.Node.Scripts
import WirelessMesh.Proofs.Route.Tandem

namespace WirelessMesh

variable {μ : Type} [Medium μ] {node : NodeId} {alike : Desk μ → Desk μ → Prop} {air air' : Air μ}
  {sim sim' : Simulator MeshEvent} {medium medium' : μ} {others others' : TimerKind → TimerSlot}

namespace DeliveryRates

def Twins (d d' : DeliveryRates) : Prop := ∃ timer, d' = { d with timer }

/-- Twin parts of a node, beside its other timers, on desks that no deed tells apart. -/
structure Paired (node : NodeId) (alike : Desk μ → Desk μ → Prop) (others others' : TimerKind → TimerSlot)
    (d : DeliveryRates) (air : Air μ) (d' : DeliveryRates) (air' : Air μ) : Prop where
  tandem : Tandem node alike
  mine : d.node = node
  twins : d.Twins d'
  desks : alike ⟨Function.update others .discovery d.timer, air⟩
    ⟨Function.update others' .discovery d'.timer, air'⟩

variable {d d' : DeliveryRates}

namespace Paired

private theorem now_eq (paired : Paired node alike others others' d air d' air') :
    air'.sim.now = air.sim.now := paired.tandem.now paired.desks

theorem arm (paired : Paired node alike others others' d ⟨sim, medium⟩ d' ⟨sim', medium'⟩)
    (delay : Time) :
    Paired node alike others others' (d.arm sim delay).1 ⟨(d.arm sim delay).2, medium⟩
      (d'.arm sim' delay).1 ⟨(d'.arm sim' delay).2, medium'⟩ := by
  obtain ⟨tandem, rfl, ⟨timer, rfl⟩, desks⟩ := paired
  refine ⟨tandem, rfl, ⟨_, rfl⟩, tandem.arm desks rfl rfl rfl ?_ ?_ ?_ ?_⟩
  · exact Function.update_self ..
  · exact Function.update_self ..
  · exact (Function.update_idem ..).symm
  · exact (Function.update_idem ..).symm

theorem start (paired : Paired node alike others others' d ⟨sim, medium⟩ d' ⟨sim', medium'⟩) :
    Paired node alike others others' (d.start sim).1 ⟨(d.start sim).2, medium⟩ (d'.start sim').1
      ⟨(d'.start sim').2, medium'⟩ := by
  obtain ⟨tandem, rfl, ⟨timer, rfl⟩, desks⟩ := paired
  have drawn : Paired d.node alike others others'
      { d with random := (d.random.below d.config.periodMillis).2 } ⟨sim, medium⟩
      { d with random := (d.random.below d.config.periodMillis).2, timer } ⟨sim', medium'⟩ :=
    ⟨tandem, rfl, ⟨timer, rfl⟩, desks⟩
  exact drawn.arm _

theorem onTimer (paired : Paired node alike others others' d air d' air') :
    Paired node alike others others' (d.onTimer air).1 (d.onTimer air).2 (d'.onTimer air').1
      (d'.onTimer air').2 := by
  have now : air'.now = air.now := paired.now_eq
  obtain ⟨tandem, rfl, ⟨timer, rfl⟩, desks⟩ := paired
  have told : Paired d.node alike others others'
      { d with seq := d.seq + 1, random := (jitteredMillis d.config.periodMillis d.random).2 }
      (air.announce d.node (d.nextDraft air.now))
      { d with seq := d.seq + 1, random := (jitteredMillis d.config.periodMillis d.random).2, timer }
      (air'.announce d.node (d.nextDraft air'.now)) := by
    rw [now]
    exact ⟨tandem, rfl, ⟨timer, rfl⟩, tandem.perform desks (.announce (d.nextDraft air.now))⟩
  exact told.arm _

theorem onFrame (paired : Paired node alike others others' d air d' air') (frame : Frame)
    (now : Time) :
    Paired node alike others others' (d.onFrame frame now) air (d'.onFrame frame now) air' := by
  obtain ⟨tandem, rfl, ⟨timer, rfl⟩, desks⟩ := paired
  unfold DeliveryRates.onFrame
  split
  · exact ⟨tandem, rfl, ⟨timer, rfl⟩, desks⟩
  · exact ⟨tandem, rfl, ⟨timer, rfl⟩, desks⟩

end Paired

end DeliveryRates

namespace Prober

def timed (p : Prober) (roundTimer probeTimer : TimerSlot) : Prober :=
  { p with rounds := { p.rounds with roundTimer, probeTimer } }

/-- Probers that differ in nothing but the numbers of their timers. -/
def Twins (p p' : Prober) : Prop := ∃ roundTimer probeTimer, p' = p.timed roundTimer probeTimer

/-- Twin probers of a node, beside its other timers, on desks that no deed tells apart. -/
structure Paired (node : NodeId) (alike : Desk μ → Desk μ → Prop) (others others' : TimerKind → TimerSlot)
    (p : Prober) (air : Air μ) (p' : Prober) (air' : Air μ) : Prop where
  tandem : Tandem node alike
  mine : p.node = node
  twins : p.Twins p'
  desks : alike ⟨p.slots others, air⟩ ⟨p'.slots others', air'⟩

variable {p p' : Prober} {frame : Frame} {roundTimer probeTimer : TimerSlot}

private theorem pendingReport_timed (peer : EtherAddress) (now : Time) :
    (p.timed roundTimer probeTimer).pendingReport peer now =
      ((p.pendingReport peer now).1, (p.pendingReport peer now).2.timed roundTimer probeTimer) := by
  simp only [pendingReport, timed]
  split <;> rfl

private theorem startOffset_timed (now : Time) :
    (p.timed roundTimer probeTimer).rounds.startOffset p.eth now =
      ((p.rounds.startOffset p.eth now).1,
        { (p.rounds.startOffset p.eth now).2 with roundTimer, probeTimer }) := by
  simp only [ProbeRounds.startOffset, ProbeRounds.reseed, timed]
  split <;> rfl

private theorem nextRoundDelay_timed (now : Time) :
    (p.timed roundTimer probeTimer).rounds.nextRoundDelay p.eth now =
      ((p.rounds.nextRoundDelay p.eth now).1,
        { (p.rounds.nextRoundDelay p.eth now).2 with roundTimer, probeTimer }) := by
  simp only [ProbeRounds.nextRoundDelay, ProbeRounds.reseed, timed]
  split
  · by_cases short : p.rounds.period.millis / 10 = 0
    · simp only [short, if_true]
    · simp only [short, if_false]
  · rfl

private theorem takeReport_timed (now : Time) :
    (p.timed roundTimer probeTimer).takeReport frame now =
      (p.takeReport frame now).timed roundTimer probeTimer := by
  unfold takeReport
  split
  · rfl
  · next report _ =>
    by_cases mine : report.peer = p.eth
    · rw [if_pos mine]
      exact if_pos mine
    · rw [if_neg mine]
      exact if_neg mine

namespace Paired

theorem now_eq (paired : Paired node alike others others' p air p' air') :
    air'.sim.now = air.sim.now := paired.tandem.now paired.desks

theorem changed (paired : Paired node alike others others' p air (p.timed roundTimer probeTimer) air')
    (next : Prober) (mine : next.node = p.node) (round : next.rounds.roundTimer = p.rounds.roundTimer)
    (probe : next.rounds.probeTimer = p.rounds.probeTimer) :
    Paired node alike others others' next air (next.timed roundTimer probeTimer) air' where
  tandem := paired.tandem
  mine := mine.trans paired.mine
  twins := ⟨_, _, rfl⟩
  desks := by
    have slots' : (next.timed roundTimer probeTimer).slots others' =
        (p.timed roundTimer probeTimer).slots others' := slots_congr rfl rfl
    have slots : next.slots others = p.slots others := slots_congr round probe
    rw [slots, slots']
    exact paired.desks

theorem post (paired : Paired node alike others others' p air p' air') (draft : Draft) :
    Paired node alike others others' p (air.post p.node draft) p' (air'.post p.node draft) := by
  obtain ⟨tandem, rfl, twins, desks⟩ := paired
  exact ⟨tandem, rfl, twins, tandem.perform desks (.post draft)⟩

theorem reject (paired : Paired node alike others others' p air p' air') (frame : Frame) :
    Paired node alike others others' p (air.reject p.node frame) p' (air'.reject p.node frame) := by
  obtain ⟨tandem, rfl, twins, desks⟩ := paired
  exact ⟨tandem, rfl, twins, tandem.perform desks (.reject frame)⟩

theorem armRound (paired : Paired node alike others others' p ⟨sim, medium⟩ p' ⟨sim', medium'⟩)
    (delay : Time) :
    Paired node alike others others' { p with rounds := (p.rounds.armRound sim delay p.node).1 }
      ⟨(p.rounds.armRound sim delay p.node).2, medium⟩
      { p' with rounds := (p'.rounds.armRound sim' delay p'.node).1 }
      ⟨(p'.rounds.armRound sim' delay p'.node).2, medium'⟩ := by
  obtain ⟨tandem, rfl, ⟨roundTimer, probeTimer, rfl⟩, desks⟩ := paired
  refine ⟨tandem, rfl, ⟨_, _, rfl⟩, ?_⟩
  have slot : p.slots others .probeRound = p.rounds.roundTimer := rfl
  exact tandem.arm desks rfl rfl rfl slot rfl (slots_round rfl) (slots_round rfl)

theorem armProbe (paired : Paired node alike others others' p ⟨sim, medium⟩ p' ⟨sim', medium'⟩) :
    Paired node alike others others' { p with rounds := (p.rounds.armProbe sim p.node).1 }
      ⟨(p.rounds.armProbe sim p.node).2, medium⟩
      { p' with rounds := (p'.rounds.armProbe sim' p'.node).1 }
      ⟨(p'.rounds.armProbe sim' p'.node).2, medium'⟩ := by
  obtain ⟨tandem, rfl, ⟨roundTimer, probeTimer, rfl⟩, desks⟩ := paired
  refine ⟨tandem, rfl, ⟨_, _, rfl⟩, ?_⟩
  have slot : p.slots others .probeNext = p.rounds.probeTimer := rfl
  exact tandem.arm desks rfl rfl rfl slot rfl slots_probe slots_probe

theorem sendPair (paired : Paired node alike others others' p air p' air') (peer : EtherAddress) :
    Paired node alike others others' (p.sendPair peer air).1 (p.sendPair peer air).2
      (p'.sendPair peer air').1 (p'.sendPair peer air').2 := by
  have now : air'.now = air.now := paired.now_eq
  obtain ⟨roundTimer, probeTimer, rfl⟩ := paired.twins
  obtain ⟨mine, -, -, rounds⟩ := pendingReport_same p peer air.now
  have asked := paired.changed _ mine (congrArg _ rounds) (congrArg _ rounds)
  simp only [Prober.sendPair, now, pendingReport_timed]
  exact (asked.post _).post _

theorem marked (paired : Paired node alike others others' p air p' air') (peer : EtherAddress) :
    Paired node alike others others' { p with neighbors := p.neighbors.markProbed peer } air
      { p' with neighbors := p'.neighbors.markProbed peer } air' := by
  obtain ⟨roundTimer, probeTimer, rfl⟩ := paired.twins
  exact paired.changed { p with neighbors := p.neighbors.markProbed peer } rfl rfl rfl

theorem probeNext (paired : Paired node alike others others' p air p' air') :
    Paired node alike others others' (p.probeNext air).1 (p.probeNext air).2 (p'.probeNext air').1
      (p'.probeNext air').2 := by
  obtain ⟨roundTimer, probeTimer, rfl⟩ := paired.twins
  have swept : Paired node alike others others'
      { p with neighbors := p.neighbors.sweep p.rounds.cutoff } air
      ({ p with neighbors := p.neighbors.sweep p.rounds.cutoff }.timed roundTimer probeTimer) air' :=
    paired.changed _ rfl rfl rfl
  have same : ((p.timed roundTimer probeTimer).neighbors.sweep
      (p.timed roundTimer probeTimer).rounds.cutoff).unprobed? =
      (p.neighbors.sweep p.rounds.cutoff).unprobed? := rfl
  unfold Prober.probeNext
  simp only [same]
  cases (p.neighbors.sweep p.rounds.cutoff).unprobed? with
  | none => exact swept
  | some peer =>
    have sent := swept.sendPair peer
    have marked := sent.marked peer
    exact marked.armProbe

theorem probeAll (peers : List EtherAddress) : ∀ {p p' : Prober} {air air' : Air μ},
    Paired node alike others others' p air p' air' →
    Paired node alike others others' (p.probeAll peers air).1 (p.probeAll peers air).2
      (p'.probeAll peers air').1 (p'.probeAll peers air').2 := by
  induction peers with
  | nil => exact fun paired => paired
  | cons peer rest ih => exact fun paired => ih (paired.sendPair peer)

theorem nextRound {now : Time} (paired : Paired node alike others others' p air p' air') :
    let next := p.rounds.nextRoundDelay p.eth now
    let next' := p'.rounds.nextRoundDelay p'.eth now
    Paired node alike others others' { p with rounds := (next.2.armRound air.sim next.1 p.node).1 }
      { air with sim := (next.2.armRound air.sim next.1 p.node).2 }
      { p' with rounds := (next'.2.armRound air'.sim next'.1 p'.node).1 }
      { air' with sim := (next'.2.armRound air'.sim next'.1 p'.node).2 } := by
  obtain ⟨roundTimer, probeTimer, rfl⟩ := paired.twins
  obtain ⟨round, probe⟩ := timers_nextRoundDelay p.rounds p.eth now
  have drawn := paired.changed { p with rounds := (p.rounds.nextRoundDelay p.eth now).2 } rfl
    round probe
  have later : (p.timed roundTimer probeTimer).rounds.nextRoundDelay
      (p.timed roundTimer probeTimer).eth now = _ := nextRoundDelay_timed now
  rw [later]
  exact drawn.armRound _

theorem onRoundTimer (paired : Paired node alike others others' p air p' air') :
    Paired node alike others others' (p.onRoundTimer air).1 (p.onRoundTimer air).2
      (p'.onRoundTimer air').1 (p'.onRoundTimer air').2 := by
  have now : air'.now = air.now := paired.now_eq
  obtain ⟨roundTimer, probeTimer, rfl⟩ := paired.twins
  have begins : (p.rounds.beginRound air.now).schedule = p.rounds.schedule := rfl
  have begins' : ((p.timed roundTimer probeTimer).rounds.beginRound air.now).schedule =
      p.rounds.schedule := rfl
  have begun (neighbors : NeighborTable) := paired.changed
    { p with rounds := p.rounds.beginRound air.now, neighbors } rfl rfl rfl
  unfold Prober.onRoundTimer
  cases schedule : p.rounds.schedule with
  | staggered =>
    simp only [begins, begins', schedule, now]
    exact (begun p.neighbors.clearProbed).probeNext.nextRound
  | batch =>
    simp only [begins, begins', schedule, now]
    exact (probeAll _ (begun _)).nextRound

theorem start (paired : Paired node alike others others' p ⟨sim, medium⟩ p' ⟨sim', medium'⟩) :
    Paired node alike others others' (p.start sim).1 ⟨(p.start sim).2, medium⟩ (p'.start sim').1
      ⟨(p'.start sim').2, medium'⟩ := by
  have now : sim'.now = sim.now := paired.now_eq
  obtain ⟨roundTimer, probeTimer, rfl⟩ := paired.twins
  obtain ⟨round, probe⟩ := timers_startOffset p.rounds p.eth sim.now
  have drawn := paired.changed { p with rounds := (p.rounds.startOffset p.eth sim.now).2 } rfl
    round probe
  have later : (p.timed roundTimer probeTimer).rounds.startOffset
      (p.timed roundTimer probeTimer).eth sim.now = _ := startOffset_timed sim.now
  simp only [Prober.start, now, later]
  exact drawn.armRound _

theorem takeReport (paired : Paired node alike others others' p air p' air') (now : Time) :
    Paired node alike others others' (p.takeReport frame now) air (p'.takeReport frame now) air' := by
  obtain ⟨roundTimer, probeTimer, rfl⟩ := paired.twins
  obtain ⟨keeps, rounds⟩ := takeReport_same p frame now
  rw [takeReport_timed]
  exact paired.changed _ keeps.node (congrArg _ rounds) (congrArg _ rounds)

theorem reverseDelay (paired : Paired node alike others others' p air p' air') (peer : EtherAddress)
    (now : Time) : (p'.reverseDelay peer now).1 = (p.reverseDelay peer now).1 ∧
      Paired node alike others others' (p.reverseDelay peer now).2 air (p'.reverseDelay peer now).2
        air' := by
  obtain ⟨roundTimer, probeTimer, rfl⟩ := paired.twins
  exact ⟨rfl, paired.changed (p.reverseDelay peer now).2 rfl rfl rfl⟩

theorem onProbe (paired : Paired node alike others others' p air p' air') (probe : LinkProbe) :
    Paired node alike others others' (p.onProbe frame probe air).1 (p.onProbe frame probe air).2
      (p'.onProbe frame probe air').1 (p'.onProbe frame probe air').2 := by
  have now : air'.now = air.now := paired.now_eq
  obtain ⟨roundTimer, probeTimer, rfl⟩ := paired.twins
  have sampled (sampler : DelaySampler) := paired.changed { p with sampler } rfl rfl rfl
  have replies : (p.timed roundTimer probeTimer).config.reply = p.config.reply := rfl
  unfold Prober.onProbe
  cases reply : p.config.reply with
  | piggyback =>
    simp only [replies, reply, now]
    exact (sampled _).takeReport air.now
  | direct =>
    simp only [replies, reply, now]
    have looks : { p.timed roundTimer probeTimer with
        sampler := ((p.timed roundTimer probeTimer).sampler.recordForward frame.source probe.seq
          air.now).2 }.forwardDelay frame.source air.now =
        (({ p with sampler := (p.sampler.recordForward frame.source probe.seq air.now).2 }.forwardDelay
          frame.source air.now).1,
        ({ p with sampler := (p.sampler.recordForward frame.source probe.seq air.now).2 }.forwardDelay
          frame.source air.now).2.timed roundTimer probeTimer) := rfl
    simp only [looks]
    split
    · exact sampled _
    · exact (sampled _).post _

theorem onDiscovery (paired : Paired node alike others others' p air p' air') (peer : EtherAddress)
    (now : Time) :
    Paired node alike others others' (p.onDiscovery peer now) air (p'.onDiscovery peer now) air' := by
  obtain ⟨roundTimer, probeTimer, rfl⟩ := paired.twins
  exact paired.changed (p.onDiscovery peer now) rfl rfl rfl

theorem onFrame (paired : Paired node alike others others' p air p' air') (frame : Frame) :
    Paired node alike others others' (p.onFrame frame air).2.1 (p.onFrame frame air).2.2
      (p'.onFrame frame air').2.1 (p'.onFrame frame air').2.2 := by
  have now : air'.now = air.now := paired.now_eq
  have refused := paired.reject frame
  have mine : p'.node = p.node := by
    obtain ⟨_, _, rfl⟩ := paired.twins
    rfl
  unfold Prober.onFrame
  rw [mine, now]
  split
  · exact paired.onDiscovery _ _
  · split
    · split
      · exact refused
      · split
        · split
          · exact paired
          · split
            · exact paired.onProbe _
            · exact paired
        · exact paired.takeReport _
    · exact paired

end Paired

end Prober

namespace MeshNode

structure Twins (n m : MeshNode) : Prop where
  id : m.id = n.id
  name : m.name = n.name
  ip : m.ip = n.ip
  eth : m.eth = n.eth
  metric : m.metric = n.metric
  rates : n.rates.Twins m.rates
  prober : n.prober.Twins m.prober
  routes : n.routes.Twins m.routes

theorem Twins.refl (n : MeshNode) : n.Twins n :=
  ⟨rfl, rfl, rfl, rfl, rfl, ⟨_, rfl⟩, ⟨_, _, rfl⟩, .refl _⟩

structure Paired (alike : Desk μ → Desk μ → Prop) (n : MeshNode) (air : Air μ) (m : MeshNode)
    (air' : Air μ) : Prop where
  tandem : Tandem n.id alike
  twins : n.Twins m
  desks : alike ⟨n.slots, air⟩ ⟨m.slots, air'⟩

def PairedAgain (alike : Desk μ → Desk μ → Prop) (next next' : MeshNode × Air μ) : Prop :=
  Paired alike next.1 next.2 next'.1 next'.2

variable {n m : MeshNode} {frame : Frame} {kind : TimerKind}

namespace Paired

theorem now_eq (paired : Paired alike n air m air') : air'.sim.now = air.sim.now :=
  paired.tandem.now paired.desks

theorem rates (paired : Paired alike n air m air') (composed : n.Composed) :
    DeliveryRates.Paired n.id alike n.slots m.slots n.rates air m.rates air' where
  tandem := paired.tandem
  mine := composed.rates
  twins := paired.twins.rates
  desks := by
    rw [← slots_rates, ← slots_rates]
    exact paired.desks

theorem prober (paired : Paired alike n air m air') (composed : n.Composed) :
    Prober.Paired n.id alike n.slots m.slots n.prober air m.prober air' where
  tandem := paired.tandem
  mine := composed.prober
  twins := paired.twins.prober
  desks := by
    rw [← slots_prober, ← slots_prober]
    exact paired.desks

theorem routes (paired : Paired alike n air m air') (composed : n.Composed) :
    RouteTable.Paired n.id alike n.slots m.slots n.routes air m.routes air' where
  tandem := paired.tandem
  mine := composed.routes
  twins := paired.twins.routes
  desks := by
    rw [← slots_routes, ← slots_routes]
    exact paired.desks

theorem rated {d d' : DeliveryRates} {next next' : Air μ} (paired : Paired alike n air m air')
    (done : DeliveryRates.Paired n.id alike n.slots m.slots d next d' next') :
    Paired alike { n with rates := d } next { m with rates := d' } next' where
  tandem := paired.tandem
  twins := { paired.twins with rates := done.twins }
  desks := by
    rw [n.slots_rates d, m.slots_rates d']
    exact done.desks

theorem probed {p p' : Prober} {next next' : Air μ} (paired : Paired alike n air m air')
    (done : Prober.Paired n.id alike n.slots m.slots p next p' next') :
    Paired alike { n with prober := p } next { m with prober := p' } next' where
  tandem := paired.tandem
  twins := { paired.twins with prober := done.twins }
  desks := by
    rw [n.slots_prober p, m.slots_prober p']
    exact done.desks

theorem routed {t u : RouteTable} {next next' : Air μ} (paired : Paired alike n air m air')
    (done : RouteTable.Paired n.id alike n.slots m.slots t next u next') :
    Paired alike { n with routes := t } next { m with routes := u } next' where
  tandem := paired.tandem
  twins := { paired.twins with routes := done.twins }
  desks := by
    rw [n.slots_routes t, m.slots_routes u]
    exact done.desks

theorem linkMetric (paired : Paired alike n air m air') (composed : n.Composed) (peer : EtherAddress)
    (now : Time) : (m.linkMetric peer now).1 = (n.linkMetric peer now).1 ∧
      Paired alike (n.linkMetric peer now).2 air (m.linkMetric peer now).2 air' := by
  obtain ⟨same, looked⟩ := (paired.prober composed).reverseDelay peer now
  refine ⟨?_, paired.probed looked⟩
  have rates : m.rates.forwardRate peer now = n.rates.forwardRate peer now ∧
      m.rates.reverseRate peer now = n.rates.reverseRate peer now := by
    obtain ⟨timer, made⟩ := paired.twins.rates
    rw [made]
    exact ⟨rfl, rfl⟩
  have size : (m.prober.reverseDelay peer now).2.packetSize =
      (n.prober.reverseDelay peer now).2.packetSize := by
    obtain ⟨_, _, made⟩ := looked.twins
    rw [made]
    rfl
  simp only [MeshNode.linkMetric, rates, same, size, paired.twins.metric]

theorem onAdvert {sender : EtherAddress} {advert : RouteAdvert}
    (paired : Paired alike n air m air') (composed : n.Composed) :
    Agree (PairedAgain alike) (n.onAdvert sender advert air) (m.onAdvert sender advert air') := by
  have now : air'.now = air.now := paired.now_eq
  have counts : m.routes.advertiser? sender advert = n.routes.advertiser? sender advert := by
    rw [RouteTable.advertiser?, RouteTable.advertiser?, paired.twins.routes.eth, paired.twins.routes.ip]
  obtain ⟨metric, measured⟩ := paired.linkMetric composed sender air.now
  rw [onAdvert_eq, onAdvert_eq, counts, now, metric]
  split
  · exact .ok paired
  · have whole : (n.linkMetric sender air.now).2.Composed :=
      ⟨composed.rates, composed.prober, composed.routes, composed.keyed⟩
    exact (measured.routes whole).handleAdvert.map fun _ _ next => measured.routed next

theorem reject (paired : Paired alike n air m air') (frame : Frame) :
    Paired alike n (air.reject n.id frame) m (air'.reject m.id frame) where
  tandem := paired.tandem
  twins := paired.twins
  desks := by
    rw [paired.twins.id]
    exact paired.tandem.perform paired.desks (.reject frame)

theorem onFrame (paired : Paired alike n air m air') (composed : n.Composed) :
    Agree (PairedAgain alike) (n.onFrame frame air) (m.onFrame frame air') := by
  have now : air'.now = air.now := paired.now_eq
  have probed := paired.probed ((paired.prober composed).onFrame frame)
  unfold MeshNode.onFrame
  rw [now]
  split
  · have heard := (paired.rates composed).onFrame frame air.now
    have rates : (n.rates.onFrame frame air.now).node = n.id := heard.mine
    have noted : MeshNode.Composed { n with rates := n.rates.onFrame frame air.now } :=
      ⟨rates, composed.prober, composed.routes, composed.keyed⟩
    have rated := paired.rated heard
    exact .ok (rated.probed ((rated.prober noted).onDiscovery frame.source air.now))
  · split
    · exact .ok probed
    · split
      · split
        · exact paired.onAdvert composed
        · exact .ok (paired.reject frame)
      · exact .ok (paired.reject frame)

theorem onTimer (paired : Paired alike n air m air') (composed : n.Composed) :
    Agree (PairedAgain alike) (n.onTimer kind air) (m.onTimer kind air') := by
  cases kind with
  | discovery => exact .ok (paired.rated (paired.rates composed).onTimer)
  | probeRound => exact .ok (paired.probed (paired.prober composed).onRoundTimer)
  | probeNext => exact .ok (paired.probed (paired.prober composed).probeNext)
  | advert => exact .ok (paired.routed (paired.routes composed).onAdvertTimer)
  | trigger => exact .ok (paired.routed (paired.routes composed).sendAdvert)
  | expiry ip =>
    have expired := (paired.routes composed).onExpiry (composed.keyed ip)
    exact expired.map fun _ _ next => paired.routed next
  | routeDump => exact .ok (paired.routed (paired.routes composed).onDumpTimer)

theorem start (paired : Paired alike n ⟨sim, medium⟩ m ⟨sim', medium'⟩) (composed : n.Composed) :
    PairedAgain alike ((n.start sim).1, ⟨(n.start sim).2, medium⟩)
      ((m.start sim').1, ⟨(m.start sim').2, medium'⟩) := by
  have rated := paired.rated (paired.rates composed).start
  have measuring : MeshNode.Composed { n with rates := (n.rates.start sim).1 } :=
    ⟨composed.rates, composed.prober, composed.routes, composed.keyed⟩
  have probed := rated.probed (rated.prober measuring).start
  have probing : MeshNode.Composed { n with
      rates := (n.rates.start sim).1
      prober := (n.prober.start (n.rates.start sim).2).1 } :=
    ⟨composed.rates, composed.prober, composed.routes, composed.keyed⟩
  exact probed.routed (probed.routes probing).start

end Paired

end MeshNode

end WirelessMesh
