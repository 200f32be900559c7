import WirelessMesh.Air.Medium
import WirelessMesh.Probing.Delay
import WirelessMesh.Probing.Rounds

/-!
Packet-pair probing. A node sends each neighbour two frames back to back; the receiver measures
the gap between them and reports it, in a reply or on its own probes. The gap is the time that the
link takes for the second frame.
-/
namespace WirelessMesh

/-- When a neighbour was last heard, and whether it has been probed in this round. -/
structure Neighbor where
  lastSeen : Time
  probed : Bool
  deriving DecidableEq

/-- Neighbours by address. -/
abbrev NeighborTable := Directory EtherAddress Neighbor

namespace NeighborTable

/-- A neighbour was heard; a new one has not been probed. -/
def hear (t : NeighborTable) (peer : EtherAddress) (now : Time) : NeighborTable :=
  t.insert peer ⟨now, ((t.get? peer).map (·.probed)).getD false⟩

/-- Drops the neighbours that have not been heard after a time. -/
def sweep (t : NeighborTable) (cutoff : Time) : NeighborTable :=
  t.filter fun _ neighbor => cutoff < neighbor.lastSeen

/-- The lowest neighbour that has not been probed. -/
def unprobed? (t : NeighborTable) : Option EtherAddress :=
  (t.entries.find? fun entry => !entry.2.probed).map (·.1)

/-- Forgets who has been probed. -/
def clearProbed (t : NeighborTable) : NeighborTable :=
  t.map fun _ neighbor => { neighbor with probed := false }

def markProbed (t : NeighborTable) (peer : EtherAddress) : NeighborTable :=
  t.modify peer fun neighbor => { neighbor with probed := true }

end NeighborTable

/-- The part of a node that probes its neighbours and answers their probes. -/
structure Prober where
  node : NodeId
  eth : EtherAddress
  config : ProbingConfig
  sampler : DelaySampler
  neighbors : NeighborTable
  rounds : ProbeRounds

namespace Prober

/-- A prober without neighbours. A gap is good for a period, a report for as many periods as there
are samples to keep, each with the margin on top. -/
def create (node : NodeId) (config : ProbingConfig) (random : RandomSource) (salt : UInt64) :
    Except ConfigError Prober := do
  config.validate
  match config.eth with
  | none => .error .missingLocalAddress
  | some eth =>
    let margin := config.period.scale config.sampleMargin
    return {
      node, eth, config
      sampler := .empty config.function (config.period + margin)
        (config.period.scaleNat config.samples + margin + margin)
      neighbors := .empty
      rounds := .ofConfig config random salt }

/-- The size of the frame whose time on the link is measured. -/
def packetSize (p : Prober) : Nat := p.config.secondSize

def start (p : Prober) (sim : Simulator MeshEvent) : Prober × Simulator MeshEvent :=
  let (offset, rounds) := p.rounds.startOffset p.eth sim.now
  let (rounds, sim) := rounds.armRound sim offset p.node
  ({ p with rounds }, sim)

def stop (p : Prober) (sim : Simulator MeshEvent) : Prober × Simulator MeshEvent :=
  let (rounds, sim) := p.rounds.stop sim
  ({ p with rounds }, sim)

/-- The latest gap between the frames of a peer's pairs. -/
def forwardDelay (p : Prober) (peer : EtherAddress) (now : Time) : DelaySample × Prober :=
  let (sample, sampler) := p.sampler.forwardDelay peer now
  (sample, { p with sampler })

/-- The gap that stands for what a peer has reported of this node's pairs. -/
def reverseDelay (p : Prober) (peer : EtherAddress) (now : Time) : DelaySample × Prober :=
  let (sample, sampler) := p.sampler.reverseDelay peer now
  (sample, { p with sampler })

/-- The payload of a probe: its sequence number, a report if there is one and room for it, and
zeros. -/
def probePayload (seq : UInt16) (size : Nat) (report : Option DelayReport) : Bytes :=
  let length := size - FrameHeader.size
  let reported :=
    match report with
    | some report => if 0 < LinkProbe.reportRoom length then report.encode else []
    | none => []
  padTo length ((LinkProbe.mk seq).encode ++ reported)

section Sending

variable {μ : Type} [Medium μ]

/-- The report that goes with the probes of a peer. -/
def pendingReport (p : Prober) (peer : EtherAddress) (now : Time) : Option DelayReport × Prober :=
  match p.config.reply with
  | .piggyback =>
    let (sample, p) := p.forwardDelay peer now
    (some ⟨peer, UInt16.ofNat (min sample.micros noDelay)⟩, p)
  | .direct => (none, p)

/-- Sends a neighbour the two frames of a pair. -/
def sendPair (p : Prober) (peer : EtherAddress) (air : Air μ) : Prober × Air μ :=
  let (report, p) := p.pendingReport peer air.now
  let first := probePayload 1 p.config.firstSize report
  let second := probePayload 2 p.config.secondSize report
  let air := air.post p.node ⟨peer, p.eth, FrameType.probe, first⟩
  (p, air.post p.node ⟨peer, p.eth, FrameType.probe, second⟩)

/-- Probes the next neighbour of the round, if one is left, and sets the time of the one after. -/
def probeNext (p : Prober) (air : Air μ) : Prober × Air μ :=
  let p := { p with neighbors := p.neighbors.sweep p.rounds.cutoff }
  match p.neighbors.unprobed? with
  | none => (p, air)
  | some peer =>
    let (p, air) := p.sendPair peer air
    let p := { p with neighbors := p.neighbors.markProbed peer }
    let (rounds, sim) := p.rounds.armProbe air.sim p.node
    ({ p with rounds }, { air with sim })

/-- Sends a pair to each of some neighbours. -/
def probeAll (p : Prober) (peers : List EtherAddress) (air : Air μ) : Prober × Air μ :=
  peers.foldl (fun (p, air) peer => p.sendPair peer air) (p, air)

/-- Starts a round and sets the time of the next. -/
def onRoundTimer (p : Prober) (air : Air μ) : Prober × Air μ :=
  let now := air.now
  let p := { p with rounds := p.rounds.beginRound now }
  let (p, air) :=
    match p.rounds.schedule with
    | .staggered => { p with neighbors := p.neighbors.clearProbed }.probeNext air
    | .batch =>
      let p := { p with neighbors := p.neighbors.sweep p.rounds.cutoff }
      p.probeAll p.neighbors.keys air
  let (delay, rounds) := p.rounds.nextRoundDelay p.eth now
  let (rounds, sim) := rounds.armRound air.sim delay p.node
  ({ p with rounds }, { air with sim })

/-- Goes on with a round. -/
def onProbeTimer (p : Prober) (air : Air μ) : Prober × Air μ := p.probeNext air

/-- A neighbour's discovery frame was heard. -/
def onDiscovery (p : Prober) (peer : EtherAddress) (now : Time) : Prober :=
  { p with neighbors := p.neighbors.hear peer now }

/-- Sends a gap to the peer whose pair it was. -/
def sendReply (p : Prober) (peer : EtherAddress) (micros : Nat) (air : Air μ) : Air μ :=
  let payload := padTo (replyFrameSize - FrameHeader.size)
    ((LinkProbe.mk 1).encode ++ (DelayReport.mk peer (UInt16.ofNat micros)).encode)
  air.post p.node ⟨peer, p.eth, FrameType.probeReply, payload⟩

/-- Takes in the report of a frame, if there is one and it concerns this node. -/
def takeReport (p : Prober) (frame : Frame) (now : Time) : Prober :=
  match DelayReport.decode (frame.payload.drop LinkProbe.size) with
  | .error _ => p
  | .ok report =>
    if report.peer = p.eth then
      { p with sampler := p.sampler.recordReverse frame.source report.micros.toNat now }
    else p

/-- Measures a probe of a peer and reports the gap, if it completes a pair. -/
def onProbe (p : Prober) (frame : Frame) (probe : LinkProbe) (air : Air μ) : Prober × Air μ :=
  let now := air.now
  let p := { p with sampler := (p.sampler.recordForward frame.source probe.seq now).2 }
  match p.config.reply with
  | .piggyback => (p.takeReport frame now, air)
  | .direct =>
    let (sample, p) := p.forwardDelay frame.source now
    if sample.isMissing then (p, air)
    else
      let p := { p with sampler := (p.sampler.takeForward frame.source).2 }
      (p, p.sendReply frame.source sample.micros air)

/-- Takes in a frame; tells whether it was of a type that concerns probing. -/
def onFrame (p : Prober) (frame : Frame) (air : Air μ) : Bool × Prober × Air μ :=
  if frame.type = FrameType.discovery then (true, p.onDiscovery frame.source air.now, air)
  else if frame.type = FrameType.probe ∨ frame.type = FrameType.probeReply then
    if frame.size < minProbeFrame then (true, p, air.reject p.node frame)
    else if frame.type = FrameType.probe then
      match LinkProbe.decode frame.payload with
      | .error _ => (true, p, air)
      | .ok probe =>
        if LinkProbe.checksumOk frame.payload then (true, p.onProbe frame probe air)
        else (true, p, air)
    else (true, p.takeReport frame air.now, air)
  else (false, p, air)

end Sending

end Prober

end WirelessMesh
