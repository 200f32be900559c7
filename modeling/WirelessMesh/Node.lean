import WirelessMesh.DeliveryRates
import WirelessMesh.Metric.Estimate
import WirelessMesh.Probing.Prober
import WirelessMesh.Route.Table

/-!
A node of the mesh: discovery, probing and routing side by side. A frame goes to the part that its
type names; one that no part can use is dropped and counted.
-/
namespace WirelessMesh

/-- What a node has measured of the link to a peer. -/
structure LinkReport where
  forwardDelay : DelaySample
  reverseDelay : DelaySample
  forwardRate : Option Nat
  reverseRate : Option Nat
  metric : Metric
  deriving DecidableEq

structure MeshNode where
  id : NodeId
  name : String
  ip : IPv4
  eth : EtherAddress
  metric : MetricConfig
  rates : DeliveryRates
  prober : Prober
  routes : RouteTable

namespace MeshNode

/-- The seed of one of the random sources of a node. -/
def partSeed (base : UInt64) (part : UInt64) : RandomSource := .ofSeed (mix64 (base ^^^ part))

/-- The word from which all random sources of a node are seeded. -/
def baseSeed (seed : UInt64) (eth : EtherAddress) : UInt64 := seed ^^^ mix64 eth.toWord

def create (id : NodeId) (config : NodeConfig) : Except ConfigError MeshNode := do
  config.validate
  let base := baseSeed config.seed config.eth
  let rates ← DeliveryRates.create id config.eth config.discovery (partSeed base 1)
  let prober ← Prober.create id config.probing (partSeed base 2) base
  let routes ← RouteTable.create id config.ip config.eth config.routing (partSeed base 3)
  return ⟨id, config.name, config.ip, config.eth, config.metric, rates, prober, routes⟩

/-- The node with a log of its routes. -/
def withRouteLog (n : MeshNode) : MeshNode := { n with routes := n.routes.setLog ⟨n.ip, []⟩ }

/-- The metric of the link to a peer. Looking for delays drops the ones that are too old. -/
def linkMetric (n : MeshNode) (peer : EtherAddress) (now : Time) : Metric × MeshNode :=
  let transmissions :=
    expectedTransmissions (n.rates.forwardRate peer now) (n.rates.reverseRate peer now)
  let (delay, prober) := n.prober.reverseDelay peer now
  (expectedTransmissionTime transmissions delay.micros prober.packetSize n.metric,
    { n with prober })

/-- All that is known of the link to a peer. Looking for delays drops the ones that are too old. -/
def linkReport (n : MeshNode) (peer : EtherAddress) (now : Time) : LinkReport × MeshNode :=
  let (forwardDelay, prober) := n.prober.forwardDelay peer now
  let (reverseDelay, prober) := prober.reverseDelay peer now
  let (metric, n) := { n with prober }.linkMetric peer now
  ({ forwardDelay, reverseDelay, metric
     forwardRate := n.rates.forwardRate peer now
     reverseRate := n.rates.reverseRate peer now }, n)

def start (n : MeshNode) (sim : Simulator MeshEvent) : MeshNode × Simulator MeshEvent :=
  let (rates, sim) := n.rates.start sim
  let (prober, sim) := n.prober.start sim
  let (routes, sim) := n.routes.start sim
  ({ n with rates, prober, routes }, sim)

def shutdown (n : MeshNode) (sim : Simulator MeshEvent) : MeshNode × Simulator MeshEvent :=
  let (rates, sim) := n.rates.stop sim
  let (prober, sim) := n.prober.stop sim
  let (routes, sim) := n.routes.stop sim
  ({ n with rates, prober, routes }, sim)

section Air

variable {μ : Type} [Medium μ]

/-- Takes in an advert. The metric of the link is looked for only if the advert counts. -/
def onAdvert (n : MeshNode) (sender : EtherAddress) (advert : RouteAdvert) (air : Air μ) :
    Except RouteViolation (MeshNode × Air μ) := do
  match n.routes.advertiser? sender advert with
  | none => return (n, air)
  | some _ =>
    let (link, n) := n.linkMetric sender air.now
    let after ← n.routes.handleAdvert sender advert link air.sim
    return ({ n with routes := after.table }, { air with sim := after.sim })

/-- Takes in a frame. -/
def onFrame (n : MeshNode) (frame : Frame) (air : Air μ) :
    Except RouteViolation (MeshNode × Air μ) :=
  if frame.type = FrameType.discovery then
    .ok ({ n with
      rates := n.rates.onFrame frame air.now
      prober := n.prober.onDiscovery frame.source air.now }, air)
  else if frame.type = FrameType.probe ∨ frame.type = FrameType.probeReply then
    let (_, prober, air) := n.prober.onFrame frame air
    .ok ({ n with prober }, air)
  else if frame.type = FrameType.advert then
    match RouteAdvert.decode frame.payload with
    | .ok advert => n.onAdvert frame.source advert air
    | .error _ => .ok (n, air.reject n.id frame)
  else .ok (n, air.reject n.id frame)

/-- A timer of the node has fired. -/
def onTimer (n : MeshNode) (kind : TimerKind) (air : Air μ) :
    Except RouteViolation (MeshNode × Air μ) :=
  match kind with
  | .discovery =>
    let (rates, air) := n.rates.onTimer air
    .ok ({ n with rates }, air)
  | .probeRound =>
    let (prober, air) := n.prober.onRoundTimer air
    .ok ({ n with prober }, air)
  | .probeNext =>
    let (prober, air) := n.prober.onProbeTimer air
    .ok ({ n with prober }, air)
  | .advert =>
    let (routes, air) := n.routes.onAdvertTimer air
    .ok ({ n with routes }, air)
  | .trigger =>
    let (routes, air) := n.routes.onTriggerTimer air
    .ok ({ n with routes }, air)
  | .expiry ip =>
    (n.routes.onExpiry ip air.sim).map fun (routes, sim) =>
      ({ n with routes }, { air with sim })
  | .routeDump =>
    let (routes, sim) := n.routes.onDumpTimer air.sim
    .ok ({ n with routes }, { air with sim })

end Air

end MeshNode

end WirelessMesh
