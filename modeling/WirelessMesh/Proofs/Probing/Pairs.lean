import WirelessMesh.Proofs.Node.Scripts
import WirelessMesh.Proofs.Probing.Replies

namespace WirelessMesh

namespace Prober

variable {μ : Type} [Medium μ] {p : Prober} {air : Air μ} (peer : EtherAddress)

/-- When the first frame of a pair came from a peer that still lacks its second. -/
def markOf (p : Prober) (peer : EtherAddress) : Option Time := p.sampler.markOf peer

theorem markOf_forwardDelay (p : Prober) (other : EtherAddress) (now : Time) :
    (p.forwardDelay other now).2.markOf peer = p.markOf peer :=
  DelaySampler.markOf_forwardDelay _ _ _ _

private theorem markOf_pendingReport (p : Prober) (other : EtherAddress) (now : Time) :
    (p.pendingReport other now).2.markOf peer = p.markOf peer := by
  unfold pendingReport
  split
  · exact markOf_forwardDelay peer p other now
  · rfl

theorem markOf_sendPair (p : Prober) (other : EtherAddress) (air : Air μ) :
    (p.sendPair other air).1.markOf peer = p.markOf peer :=
  markOf_pendingReport peer p other air.now

theorem markOf_probeNext (p : Prober) (air : Air μ) :
    (p.probeNext air).1.markOf peer = p.markOf peer := by
  unfold probeNext
  simp only
  split
  · rfl
  · exact markOf_sendPair peer _ _ air

private theorem markOf_probeAll (others : List EtherAddress) : ∀ (p : Prober) (air : Air μ),
    (p.probeAll others air).1.markOf peer = p.markOf peer := by
  induction others with
  | nil => exact fun _ _ => rfl
  | cons other rest ih => exact fun p air => (ih _ _).trans (markOf_sendPair peer p other air)

private theorem markOf_onRoundTimer (p : Prober) (air : Air μ) :
    (p.onRoundTimer air).1.markOf peer = p.markOf peer := by
  unfold onRoundTimer
  cases schedule : p.rounds.schedule with
  | staggered =>
    simp only [ProbeRounds.beginRound, schedule]
    exact markOf_probeNext peer _ air
  | batch =>
    simp only [ProbeRounds.beginRound, schedule]
    exact markOf_probeAll peer _ _ air

private theorem markOf_takeReport (p : Prober) (frame : Frame) (now : Time) :
    (p.takeReport frame now).markOf peer = p.markOf peer := by
  unfold takeReport
  split
  · rfl
  · split
    · rfl
    · rfl

private theorem markOf_onProbe (p : Prober) (frame : Frame) (probe : LinkProbe) (air : Air μ) :
    (p.onProbe frame probe air).1.markOf peer =
      (p.sampler.recordForward frame.source probe.seq air.now).2.markOf peer := by
  unfold onProbe
  simp only
  split
  · exact markOf_takeReport peer _ frame air.now
  · split
    · exact DelaySampler.markOf_forwardDelay _ _ _ _
    · exact (DelaySampler.markOf_takeForward _ _ _).trans (DelaySampler.markOf_forwardDelay _ _ _ _)

/-- A first frame is remembered until the next probe of its sender comes. -/
theorem markOf_onFrame (p : Prober) (frame : Frame) (air : Air μ) :
    (p.onFrame frame air).2.1.markOf peer =
      match frame.probeSeq? with
      | some seq =>
        if peer = frame.source then (if seq = 1 then some air.now else none) else p.markOf peer
      | none => p.markOf peer := by
  cases probe : frame.probeSeq? with
  | none =>
    obtain ⟨-, forward, -⟩ := p.onFrame_other air probe
    rw [markOf, DelaySampler.markOf, forward]
    rfl
  | some seq =>
    rw [p.onFrame_probe air probe, markOf_onProbe, DelaySampler.markOf_recordForward]
    rfl

end Prober

namespace MeshNode

variable {μ : Type} [Medium μ] {n : MeshNode} {air : Air μ} {next : MeshNode × Air μ}
  (peer : EtherAddress)

private theorem markOf_onTimer {kind : TimerKind} (done : n.onTimer kind air = .ok next) :
    next.1.prober.markOf peer = n.prober.markOf peer := by
  cases kind with
  | probeRound =>
    cases done
    exact Prober.markOf_onRoundTimer peer n.prober air
  | probeNext =>
    cases done
    exact Prober.markOf_probeNext peer n.prober air
  | expiry ip =>
    obtain ⟨⟨t, sim⟩, -, rfl⟩ := ok_of_map done
    rfl
  | discovery => cases done; rfl
  | advert => cases done; rfl
  | trigger => cases done; rfl
  | routeDump => cases done; rfl

theorem onFrame_probe (n : MeshNode) {frame : Frame} {seq : UInt16}
    (probe : frame.probeSeq? = some seq) : n.onFrame frame air =
      .ok ({ n with prober := (n.prober.onProbe frame ⟨seq⟩ air).1 },
        (n.prober.onProbe frame ⟨seq⟩ air).2) := by
  have type : frame.type = FrameType.probe := by
    unfold Frame.probeSeq? at probe
    split at probe
    · next valid => exact valid.1
    · cases probe
  have other : ¬ FrameType.probe = FrameType.discovery := by decide
  have measured := n.prober.onFrame_probe air probe
  simp only [onFrame, type, other, if_false, true_or, if_true, measured]

/-- A node remembers what its prober does of a probe, and what it did before of other frames. -/
private theorem markOf_onFrame {frame : Frame} (done : n.onFrame frame air = .ok next) :
    next.1.prober.markOf peer =
      match frame.probeSeq? with
      | some seq =>
        if peer = frame.source then (if seq = 1 then some air.now else none)
        else n.prober.markOf peer
      | none => n.prober.markOf peer := by
  have other (type : frame.type ≠ FrameType.probe) : frame.probeSeq? = none := by
    rw [Frame.probeSeq?, if_neg fun probe => type probe.1]
  cases takes_onFrame done with
  | discovery type =>
    rw [other (by rw [type]; decide)]
    rfl
  | probing => exact Prober.markOf_onFrame peer n.prober frame air
  | advert type =>
    rw [other (by rw [type]; decide)]
    rfl
  | ignored type => rw [other (by rw [type]; decide)]
  | rejected aside => rw [other aside]

/-- What a node remembers of a peer changes by an event only if this hands it a frame of the peer, and a
first frame it remembers then. -/
theorem markOf_onEvent {event : MeshEvent} (done : n.onEvent air event = .ok next) :
    ((∀ frame, event = .arrival n.id frame → frame.source ≠ peer) →
      next.1.prober.markOf peer = n.prober.markOf peer) ∧
    ∀ frame, event = .arrival n.id frame → frame.source = peer → frame.probeSeq? = some 1 →
      next.1.prober.markOf peer = some air.now := by
  cases handles_onEvent done with
  | timer done => exact ⟨fun _ => markOf_onTimer peer done, nofun⟩
  | @arrival frame _ done =>
    have marks := markOf_onFrame peer done
    refine ⟨fun aside => marks.trans ?_, fun other same mine first => marks.trans ?_⟩
    · have others : peer ≠ frame.source := (aside frame rfl).symm
      simp only [others, if_false]
      split <;> rfl
    · cases same
      simp [mine, first]
  | elsewhere _ frames => exact ⟨fun _ => rfl, fun frame same => absurd same (frames frame)⟩

end MeshNode

/-- A pair that is sent: the prober that sends it, to whom, and the air at that moment. -/
structure PairSending (μ : Type) where
  prober : Prober
  peer : EtherAddress
  air : Air μ

namespace Prober

variable {μ : Type} [Medium μ]

/-- The pair to the next neighbour of a round, if one is left. -/
def pairsNext (p : Prober) (air : Air μ) : List (PairSending μ) :=
  let p := { p with neighbors := p.neighbors.sweep p.rounds.cutoff }
  match p.neighbors.unprobed? with
  | none => []
  | some peer => [⟨p, peer, air⟩]

/-- The pairs to some neighbours, each after those before it. -/
def pairsAll (p : Prober) : List EtherAddress → Air μ → List (PairSending μ)
  | [], _ => []
  | peer :: rest, air =>
    ⟨p, peer, air⟩ :: pairsAll (p.sendPair peer air).1 rest (p.sendPair peer air).2

/-- The pairs that are sent when a timer fires. -/
def pairs (p : Prober) (kind : TimerKind) (air : Air μ) : List (PairSending μ) :=
  match kind with
  | .probeRound =>
    let p := { p with rounds := p.rounds.beginRound air.now }
    match p.rounds.schedule with
    | .staggered => { p with neighbors := p.neighbors.clearProbed }.pairsNext air
    | .batch =>
      let p := { p with neighbors := p.neighbors.sweep p.rounds.cutoff }
      p.pairsAll p.neighbors.keys air
  | .probeNext => p.pairsNext air
  | _ => []

structure Sends (allowed : Deed → Prop) (others : TimerKind → TimerSlot) (p : Prober) (air : Air μ)
    (s : PairSending μ) (p' : Prober) (air' : Air μ) : Prop where
  before : Acts allowed others p air s.prober s.air
  after : Acts allowed others (s.prober.sendPair s.peer s.air).1 (s.prober.sendPair s.peer s.air).2
    p' air'

variable {p p' : Prober} {air air' : Air μ} {s : PairSending μ} {others : TimerKind → TimerSlot}
  {allowed : Deed → Prop} {dumps : Prop} {signs : EtherAddress → Prop}

/-- What is not a timer may change before a pair is sent. -/
theorem Sends.resumed {q : Prober} (sends : Sends allowed others q air s p' air') (keeps : p.Keeps q)
    (rounds : q.slots others = p.slots others) : Sends allowed others p air s p' air' :=
  ⟨sends.before.resumed keeps rounds, sends.after⟩

theorem sends_pairsNext (member : s ∈ p.pairsNext air) :
    Sends (Deed.Ordinary dumps signs) others p air s (p.probeNext air).1 (p.probeNext air).2 := by
  cases found : (p.neighbors.sweep p.rounds.cutoff).unprobed? with
  | none =>
    simp only [pairsNext, found, List.not_mem_nil] at member
  | some peer =>
    have set (delay : Time) : Deed.Ordinary dumps signs (.arm .probeNext delay) := trivial
    simp only [pairsNext, found, List.mem_singleton] at member
    subst member
    simp only [probeNext, found]
    refine ⟨.quiet (.swept p _ _) rfl, ⟨rfl, rfl, rfl, fun _ known => ?_⟩, .arm (set _) rfl slots_probe⟩
    exact NeighborTable.keys_markProbed _ peer ▸ known

private theorem sends_pairsAll (peers : List EtherAddress) : ∀ {p : Prober} {air : Air μ}, signs p.eth →
    s ∈ p.pairsAll peers air → Sends (Deed.Ordinary dumps signs) others p air s
      (p.probeAll peers air).1 (p.probeAll peers air).2 := by
  induction peers with
  | nil => exact fun _ member => absurd member List.not_mem_nil
  | cons peer rest ih =>
    intro p air own member
    have first : Acts (Deed.Ordinary dumps signs) others p air _ _ :=
      (acts_sendPair (.signed own peer)).ordinary
    rcases List.mem_cons.mp member with rfl | later
    · have own' : signs (p.sendPair peer air).1.eth := first.eth ▸ own
      exact ⟨.refl _ p air, (acts_probeAll rest fun other _ => .signed own' other).ordinary⟩
    · have sends := ih (first.eth ▸ own) later
      exact ⟨first.trans sends.before, sends.after⟩

/-- The next round is set when the pairs of one have been sent. -/
theorem Sends.nextRound (sends : Sends (Deed.Ordinary dumps signs) others p air s p' air')
    (now : Time) :
    let next := p'.rounds.nextRoundDelay p'.eth now
    Sends (Deed.Ordinary dumps signs) others p air s
      { p' with rounds := (next.2.armRound air'.sim next.1 p'.node).1 }
      { air' with sim := (next.2.armRound air'.sim next.1 p'.node).2 } := by
  have set (delay : Time) : Deed.Ordinary dumps signs (.arm .probeRound delay) := trivial
  exact ⟨sends.before, sends.after.nextRound set now⟩

private theorem sends_round (own : signs p.eth) (member : s ∈ p.pairs .probeRound air) :
    Sends (Deed.Ordinary dumps signs) others p air s (p.onRoundTimer air).1
      (p.onRoundTimer air).2 := by
  unfold pairs at member
  unfold onRoundTimer
  cases schedule : p.rounds.schedule with
  | staggered =>
    simp only [ProbeRounds.beginRound, schedule] at member ⊢
    refine Sends.nextRound ?_ air.now
    exact (sends_pairsNext member).resumed (.cleared p _) rfl
  | batch =>
    simp only [ProbeRounds.beginRound, schedule] at member ⊢
    refine Sends.nextRound ?_ air.now
    refine Sends.resumed (sends_pairsAll _ ?_ member) (.swept p _ _) rfl
    exact own

end Prober

/-- A node that sends a pair gets to that moment by deeds, and from there to the end. -/
theorem MeshNode.sends {μ : Type} [Medium μ] {n : MeshNode} {air : Air μ} {kind : TimerKind}
    {s : PairSending μ} {next : MeshNode × Air μ} (member : s ∈ n.prober.pairs kind air)
    (done : n.onTimer kind air = .ok next) (others : TimerKind → TimerSlot) :
    Prober.Sends (Deed.Ordinary n.Dumps n.Signs) others n.prober air s next.1.prober next.2 := by
  cases kind with
  | probeRound =>
    cases done
    exact Prober.sends_round (by simp [Signs, addresses]) member
  | probeNext =>
    cases done
    exact Prober.sends_pairsNext member
  | discovery => cases member
  | advert => cases member
  | trigger => cases member
  | expiry ip => cases member
  | routeDump => cases member

namespace Prober

variable {seq : UInt16} {size : Nat} {report : Option DelayReport}

/-- A report goes along only where there is room for the whole of it. -/
theorem probePayload_eq (seq : UInt16) (report : Option DelayReport) (valid : minProbeFrame ≤ size) :
    ∃ reported : Bytes, LinkProbe.size + reported.length ≤ size - FrameHeader.size ∧
      probePayload seq size report =
        padTo (size - FrameHeader.size) ((LinkProbe.mk seq).encode ++ reported) := by
  have least : LinkProbe.size ≤ size - FrameHeader.size := Nat.le_sub_of_add_le' valid
  cases report with
  | none => exact ⟨[], least, rfl⟩
  | some report =>
    by_cases fits : 0 < LinkProbe.reportRoom (size - FrameHeader.size)
    · have length : report.encode.length = DelayReport.size := report.read_back.1
      refine ⟨report.encode, ?_, by simp only [probePayload, if_pos fits]⟩
      have := Nat.div_pos_iff.mp fits
      omega
    · exact ⟨[], least, by simp only [probePayload, if_neg fits]⟩

/-- A probe of valid size has just that size, and its number can be told. -/
theorem probe_sized {frame : Frame} (valid : minProbeFrame ≤ size)
    (type : frame.type = FrameType.probe) (payload : frame.payload = probePayload seq size report) :
    frame.size = size ∧ frame.probeSeq? = some seq := by
  have header : FrameHeader.size ≤ size := Nat.le_trans (by decide) valid
  have start : (LinkProbe.mk seq).encode.length = LinkProbe.size := rfl
  obtain ⟨reported, room, whole⟩ := probePayload_eq seq report valid
  rw [whole, padTo, List.append_assoc] at payload
  have sized : frame.size = size := by
    rw [Frame.size, payload]
    simp only [List.length_append, List.length_replicate, start]
    omega
  refine ⟨sized, ?_⟩
  rw [Frame.probeSeq?, if_pos ⟨type, sized.symm ▸ valid⟩, payload,
    (LinkProbe.mk seq).read_back.decode_append]

end Prober

end WirelessMesh
