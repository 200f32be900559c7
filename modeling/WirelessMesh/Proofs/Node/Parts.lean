import WirelessMesh.Proofs.Air.Arrivals
import WirelessMesh.Proofs.Node.Creation

namespace WirelessMesh

variable {μ : Type} [Medium μ] [LawfulMedium μ] {sim sim' : Simulator MeshEvent} {air : Air μ}

/-- What the parts of a node that measure links do to the simulator: their own timers of the node,
and arrivals. -/
def Measuring (node : NodeId) (event : MeshEvent) : Prop :=
  event = .timer node .discovery ∨ event = .timer node .probeRound ∨
    event = .timer node .probeNext ∨ event.IsArrival

theorem measuring_arrival {node : NodeId} {event : MeshEvent} (arrival : event.IsArrival) :
    Measuring node event := .inr (.inr (.inr arrival))

namespace DeliveryRates

def Sound (d : DeliveryRates) (node : NodeId) (sim : Simulator MeshEvent) : Prop :=
  d.node = node ∧ d.timer.Owns sim (.timer node .discovery)

variable {d : DeliveryRates} {node : NodeId}

theorem Sound.changes {owned : MeshEvent → Prop} (sound : d.Sound node sim)
    (valid : sim.WellFormed) (changes : sim.Changes owned sim') : d.Sound node sim' :=
  ⟨sound.1, sound.2.changes valid changes⟩

theorem create_sound {eth : EtherAddress} {config : DiscoveryConfig} {random : RandomSource}
    (done : create node eth config random = .ok d) (sim : Simulator MeshEvent) :
    d.Sound node sim := by
  rw [create_eq done]
  exact ⟨rfl, TimerSlot.owns_none⟩

/-- A part of a node that still has its own timers, after work on these and frames. -/
def Goes (node : NodeId) (sim : Simulator MeshEvent) (d : DeliveryRates)
    (sim' : Simulator MeshEvent) : Prop :=
  d.Sound node sim' ∧ sim.Changes (Measuring node) sim'

theorem Sound.arm (sound : d.Sound node sim) (valid : sim.WellFormed) (delay : Time) :
    Goes node sim (d.arm sim delay).1 (d.arm sim delay).2 := by
  obtain ⟨rfl, owns⟩ := sound
  exact ⟨⟨rfl, TimerSlot.owns_rearm valid _ _⟩, TimerSlot.changes_rearm owns (.inl rfl) _⟩

theorem Sound.start (sound : d.Sound node sim) (valid : sim.WellFormed) :
    Goes node sim (d.start sim).1 (d.start sim).2 := by
  have drawn : { d with random := (d.random.below d.config.periodMillis).2 }.Sound node sim := sound
  exact drawn.arm valid _

theorem Sound.stop (sound : d.Sound node sim) :
    Goes node sim (d.stop sim).1 (d.stop sim).2 := by
  obtain ⟨rfl, owns⟩ := sound
  exact ⟨⟨rfl, TimerSlot.owns_none⟩, TimerSlot.changes_disarm owns (.inl rfl)⟩

theorem Sound.onTimer (sound : d.Sound node air.sim) (valid : air.sim.WellFormed) :
    Goes node air.sim (d.onTimer air).1 (d.onTimer air).2.sim := by
  have sent : air.sim.Changes (Measuring node) (d.sendProbe air).2.sim :=
    (air.changes_announce d.node _).mono fun _ => measuring_arrival
  have kept : (d.sendProbe air).1.Sound node (d.sendProbe air).2.sim := sound.changes valid sent
  have drawn : { (d.sendProbe air).1 with
      random := (jitteredMillis (d.sendProbe air).1.config.periodMillis
        (d.sendProbe air).1.random).2 }.Sound node (d.sendProbe air).2.sim := kept
  obtain ⟨sound', changes⟩ := drawn.arm (sent.valid valid) _
  exact ⟨sound', sent.trans changes⟩

theorem Sound.onFrame (sound : d.Sound node sim) (frame : Frame) (now : Time) :
    (d.onFrame frame now).Sound node sim := by
  unfold DeliveryRates.onFrame
  split
  · exact sound
  · exact sound

end DeliveryRates

namespace Prober

structure Sound (p : Prober) (node : NodeId) (sim : Simulator MeshEvent) : Prop where
  belongs : p.node = node
  round : p.rounds.roundTimer.Owns sim (.timer node .probeRound)
  probe : p.rounds.probeTimer.Owns sim (.timer node .probeNext)

variable {p p' : Prober} {node : NodeId}

theorem Sound.changes {owned : MeshEvent → Prop} (sound : p.Sound node sim)
    (valid : sim.WellFormed) (changes : sim.Changes owned sim') : p.Sound node sim' :=
  ⟨sound.belongs, sound.round.changes valid changes, sound.probe.changes valid changes⟩

theorem create_sound {config : ProbingConfig} {random : RandomSource} {salt : UInt64}
    (done : create node config random salt = .ok p) (sim : Simulator MeshEvent) :
    p.Sound node sim := by
  obtain ⟨eth, -, made⟩ := create_eq done
  rw [made]
  exact ⟨rfl, TimerSlot.owns_none, TimerSlot.owns_none⟩

/-- A prober that still has its own timers, after work on these and frames. -/
structure Goes (node : NodeId) (sim : Simulator MeshEvent) (p : Prober)
    (sim' : Simulator MeshEvent) : Prop where
  sound : p.Sound node sim'
  changes : sim.Changes (Measuring node) sim'

theorem Sound.congr (sound : p.Sound node sim) (same : p'.node = p.node)
    (round : p'.rounds.roundTimer = p.rounds.roundTimer)
    (probe : p'.rounds.probeTimer = p.rounds.probeTimer) : p'.Sound node sim :=
  ⟨same.trans sound.belongs, round ▸ sound.round, probe ▸ sound.probe⟩

theorem Goes.trans {sim'' : Simulator MeshEvent} (first : sim.Changes (Measuring node) sim')
    (second : Goes node sim' p sim'') : Goes node sim p sim'' :=
  ⟨second.sound, first.trans second.changes⟩

theorem Sound.armRound (sound : p.Sound node sim) (valid : sim.WellFormed) (delay : Time) :
    Goes node sim { p with rounds := (p.rounds.armRound sim delay p.node).1 }
      (p.rounds.armRound sim delay p.node).2 := by
  obtain ⟨rfl, round, probe⟩ := sound
  have changes : sim.Changes (Measuring p.node) (p.rounds.armRound sim delay p.node).2 :=
    TimerSlot.changes_rearm round (.inr (.inl rfl)) delay
  exact ⟨⟨rfl, TimerSlot.owns_rearm valid _ _, probe.changes valid changes⟩, changes⟩

theorem Sound.armProbe (sound : p.Sound node sim) (valid : sim.WellFormed) :
    Goes node sim { p with rounds := (p.rounds.armProbe sim p.node).1 }
      (p.rounds.armProbe sim p.node).2 := by
  obtain ⟨rfl, round, probe⟩ := sound
  have changes : sim.Changes (Measuring p.node) (p.rounds.armProbe sim p.node).2 :=
    TimerSlot.changes_rearm probe (.inr (.inr (.inl rfl))) _
  exact ⟨⟨rfl, round.changes valid changes, TimerSlot.owns_rearm valid _ _⟩, changes⟩

theorem timers_startOffset (r : ProbeRounds) (address : EtherAddress) (now : Time) :
    (r.startOffset address now).2.roundTimer = r.roundTimer ∧
      (r.startOffset address now).2.probeTimer = r.probeTimer := by
  unfold ProbeRounds.startOffset
  split <;> exact ⟨rfl, rfl⟩

theorem timers_nextRoundDelay (r : ProbeRounds) (address : EtherAddress) (now : Time) :
    (r.nextRoundDelay address now).2.roundTimer = r.roundTimer ∧
      (r.nextRoundDelay address now).2.probeTimer = r.probeTimer := by
  unfold ProbeRounds.nextRoundDelay
  split
  · simp only
    split <;> exact ⟨rfl, rfl⟩
  · exact ⟨rfl, rfl⟩

theorem Sound.start (sound : p.Sound node sim) (valid : sim.WellFormed) :
    Goes node sim (p.start sim).1 (p.start sim).2 := by
  obtain ⟨round, probe⟩ := timers_startOffset p.rounds p.eth sim.now
  have drawn : { p with rounds := (p.rounds.startOffset p.eth sim.now).2 }.Sound node sim :=
    sound.congr rfl round probe
  exact drawn.armRound valid _

theorem Sound.stop (sound : p.Sound node sim) (valid : sim.WellFormed) :
    Goes node sim (p.stop sim).1 (p.stop sim).2 := by
  obtain ⟨rfl, round, probe⟩ := sound
  have first : sim.Changes (Measuring p.node) (p.rounds.roundTimer.disarm sim) :=
    TimerSlot.changes_disarm round (.inr (.inl rfl))
  have second : (p.rounds.roundTimer.disarm sim).Changes (Measuring p.node)
      (p.rounds.probeTimer.disarm (p.rounds.roundTimer.disarm sim)) :=
    TimerSlot.changes_disarm (probe.changes valid first) (.inr (.inr (.inl rfl)))
  exact ⟨⟨rfl, TimerSlot.owns_none, TimerSlot.owns_none⟩, first.trans second⟩

theorem changes_post (p : Prober) (air : Air μ) (node : NodeId) (draft : Draft) :
    air.sim.Changes (Measuring node) (air.post p.node draft).sim :=
  (air.changes_post p.node draft).mono fun _ => measuring_arrival

theorem pendingReport_same (p : Prober) (peer : EtherAddress) (now : Time) :
    (p.pendingReport peer now).2.node = p.node ∧ (p.pendingReport peer now).2.eth = p.eth ∧
      (p.pendingReport peer now).2.config = p.config ∧
      (p.pendingReport peer now).2.rounds = p.rounds := by
  unfold pendingReport
  split <;> exact ⟨rfl, rfl, rfl, rfl⟩

theorem Sound.sendPair (sound : p.Sound node air.sim) (valid : air.sim.WellFormed)
    (peer : EtherAddress) :
    Goes node air.sim (p.sendPair peer air).1 (p.sendPair peer air).2.sim := by
  obtain ⟨same, -, -, rounds⟩ := pendingReport_same p peer air.now
  have sent : air.sim.Changes (Measuring node) (p.sendPair peer air).2.sim :=
    (changes_post _ air node _).trans (changes_post _ _ node _)
  exact ⟨(sound.changes valid sent).congr same (congrArg _ rounds) (congrArg _ rounds), sent⟩

theorem Sound.probeNext (sound : p.Sound node air.sim) (valid : air.sim.WellFormed) :
    Goes node air.sim (p.probeNext air).1 (p.probeNext air).2.sim := by
  unfold Prober.probeNext
  simp only
  split
  · exact ⟨sound.congr rfl rfl rfl, .refl _⟩
  · next peer _ =>
    have swept : { p with neighbors := p.neighbors.sweep p.rounds.cutoff }.Sound node air.sim :=
      sound.congr rfl rfl rfl
    obtain ⟨sent, changes⟩ := swept.sendPair valid peer
    have armed := Goes.trans changes (sent.armProbe (changes.valid valid))
    exact ⟨armed.sound.congr rfl rfl rfl, armed.changes⟩

theorem Sound.probeAll (peers : List EtherAddress) :
    ∀ {p : Prober} {air : Air μ}, p.Sound node air.sim → air.sim.WellFormed →
      Goes node air.sim (p.probeAll peers air).1 (p.probeAll peers air).2.sim := by
  induction peers with
  | nil => exact fun sound _ => ⟨sound, .refl _⟩
  | cons peer rest ih =>
    intro p air sound valid
    obtain ⟨sent, changes⟩ := sound.sendPair valid peer
    exact .trans changes (ih sent (changes.valid valid))

theorem Goes.nextRound (went : Goes node sim p sim') (valid : sim.WellFormed) (now : Time) :
    let next := p.rounds.nextRoundDelay p.eth now
    Goes node sim { p with rounds := (next.2.armRound sim' next.1 p.node).1 }
      (next.2.armRound sim' next.1 p.node).2 := by
  obtain ⟨round, probe⟩ := timers_nextRoundDelay p.rounds p.eth now
  have drawn : { p with rounds := (p.rounds.nextRoundDelay p.eth now).2 }.Sound node sim' :=
    went.sound.congr rfl round probe
  exact .trans went.changes (drawn.armRound (went.changes.valid valid) _)

theorem Sound.onRoundTimer (sound : p.Sound node air.sim) (valid : air.sim.WellFormed) :
    Goes node air.sim (p.onRoundTimer air).1 (p.onRoundTimer air).2.sim := by
  unfold Prober.onRoundTimer
  cases schedule : p.rounds.schedule with
  | staggered =>
    simp only [ProbeRounds.beginRound, schedule]
    refine Goes.nextRound (Sound.probeNext ?_ valid) valid air.now
    exact sound.congr rfl rfl rfl
  | batch =>
    simp only [ProbeRounds.beginRound, schedule]
    refine Goes.nextRound (Sound.probeAll _ ?_ valid) valid air.now
    exact sound.congr rfl rfl rfl

theorem Sound.takeReport (sound : p.Sound node sim) (frame : Frame) (now : Time) :
    (p.takeReport frame now).Sound node sim := by
  unfold Prober.takeReport
  split
  · exact sound
  · split
    · exact sound.congr rfl rfl rfl
    · exact sound

theorem Sound.onProbe (sound : p.Sound node air.sim) (valid : air.sim.WellFormed) (frame : Frame)
    (probe : LinkProbe) :
    Goes node air.sim (p.onProbe frame probe air).1 (p.onProbe frame probe air).2.sim := by
  unfold Prober.onProbe
  simp only
  split
  · refine ⟨Sound.takeReport ?_ frame _, .refl _⟩
    exact sound.congr rfl rfl rfl
  · split
    · exact ⟨sound.congr rfl rfl rfl, .refl _⟩
    · exact ⟨(sound.changes valid (changes_post p air node _)).congr rfl rfl rfl,
        changes_post p air node _⟩

theorem Sound.onFrame (sound : p.Sound node air.sim) (valid : air.sim.WellFormed) (frame : Frame) :
    Goes node air.sim (p.onFrame frame air).2.1 (p.onFrame frame air).2.2.sim := by
  have still : Goes node air.sim p air.sim := ⟨sound, .refl _⟩
  unfold Prober.onFrame
  split
  · exact ⟨sound.congr rfl rfl rfl, .refl _⟩
  · split
    · split
      · exact still
      · split
        · split
          · exact still
          · split
            · exact sound.onProbe valid frame _
            · exact still
        · exact ⟨sound.takeReport frame _, .refl _⟩
    · exact still

end Prober

end WirelessMesh
