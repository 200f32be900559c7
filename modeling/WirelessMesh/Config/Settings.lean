import WirelessMesh.Address.IPv4
import WirelessMesh.Config.Error
import WirelessMesh.Time
import WirelessMesh.Wire.Discovery
import WirelessMesh.Wire.Probe

/-!
The settings of a node and of its parts, with the values they have unless stated, and the checks
that come before anything is built from them. The first check that fails is the one reported.
-/
namespace WirelessMesh

/-- How the delay samples of a window become one delay. -/
inductive SampleFunction where
  /-- The smallest one. -/
  | min
  /-- The newest one. -/
  | ewma
  deriving DecidableEq, Inhabited

def SampleFunction.name : SampleFunction → String
  | min => "min"
  | ewma => "ewma"

def SampleFunction.ofCode : Nat → Except ConfigError SampleFunction
  | 0 => .ok min
  | 1 => .ok ewma
  | code => .error (.unknownSampleFunction code)

/-- How a round of probing reaches the neighbours. -/
inductive ProbeSchedule where
  /-- One after another, a short delay apart. -/
  | staggered
  /-- All at once. -/
  | batch
  deriving DecidableEq, Inhabited

def ProbeSchedule.name : ProbeSchedule → String
  | staggered => "staggered"
  | batch => "batch"

/-- How a measured delay gets back to the node that probed. -/
inductive ReplyMode where
  /-- In a reply of its own. -/
  | direct
  /-- On the probes that go the other way. -/
  | piggyback
  deriving DecidableEq, Inhabited

def ReplyMode.name : ReplyMode → String
  | direct => "direct"
  | piggyback => "piggyback"

/-- Settings of packet-pair probing. -/
structure ProbingConfig where
  samples : Nat := 10
  periodMillis : Nat := 1000
  /-- The share of a period by which samples may be late. -/
  sampleMargin : Float := 0.1
  firstSize : Nat := 30
  secondSize : Nat := 30
  probeDelayMillis : Nat := 1
  function : SampleFunction := .min
  /-- The address that probes come from. -/
  eth : Option EtherAddress := none
  schedule : ProbeSchedule := .staggered
  reply : ReplyMode := .direct

namespace ProbingConfig

def period (c : ProbingConfig) : Time := .ofMillis c.periodMillis

def probeDelay (c : ProbingConfig) : Time := .ofMillis c.probeDelayMillis

def validate (c : ProbingConfig) : Except ConfigError Unit :=
  if c.firstSize < minProbeFrame then .error (.packetTooSmall .first c.firstSize minProbeFrame)
  else if c.secondSize < minProbeFrame then
    .error (.packetTooSmall .second c.secondSize minProbeFrame)
  else if c.samples = 0 then .error .zeroSamples
  else if c.periodMillis = 0 then .error (.zeroPeriod .probing)
  else if !(c.sampleMargin.isFinite && 0 ≤ c.sampleMargin) then
    .error (.invalid (.sampleMargin c.sampleMargin))
  else if c.eth.isNone then .error .missingLocalAddress
  else .ok ()

end ProbingConfig

/-- Settings of neighbour discovery. -/
structure DiscoveryConfig where
  periodMillis : Nat := 1000
  /-- The time over which delivery rates are taken. -/
  windowMillis : Nat := 10000
  probeSize : Nat := 134

namespace DiscoveryConfig

def period (c : DiscoveryConfig) : Time := .ofMillis c.periodMillis

def window (c : DiscoveryConfig) : Time := .ofMillis c.windowMillis

/-- The shortest discovery frame. -/
def minProbeSize : Nat := FrameHeader.size + DiscoveryProbe.headerSize

def validate (c : DiscoveryConfig) : Except ConfigError Unit :=
  if c.periodMillis = 0 then .error (.zeroPeriod .discovery)
  else if c.probeSize < minProbeSize then
    .error (.packetTooSmall .discovery c.probeSize minProbeSize)
  else if c.windowMillis < c.periodMillis then
    .error (.invalid (.windowBelowPeriod c.windowMillis c.periodMillis))
  else .ok ()

end DiscoveryConfig

/-- Settings of the link metric. -/
structure MetricConfig where
  /-- The size of the packets that the metric is to predict. -/
  packetSize : Nat := 1024
  /-- The part of every measured delay that is not due to the link. -/
  calibrationMicros : Nat := 100

/-- Settings of the route table. -/
structure RoutingConfig where
  periodMillis : Nat := 15000
  /-- The longest time that a route lasts without news of it. -/
  timeoutMillis : Nat := 60000
  /-- The time before a changed route is used. -/
  settleMillis : Nat := 3000
  useOldRoute : Bool := true
  ignoreInvalidRoutes : Bool := false
  /-- The least time between an advert and one that a change sets off. -/
  minTriggeredMillis : Nat := 1000
  logDumpMillis : Option Nat := none

namespace RoutingConfig

def period (c : RoutingConfig) : Time := .ofMillis c.periodMillis

def timeout (c : RoutingConfig) : Time := .ofMillis c.timeoutMillis

def settle (c : RoutingConfig) : Time := .ofMillis c.settleMillis

def minTriggered (c : RoutingConfig) : Time := .ofMillis c.minTriggeredMillis

def validate (c : RoutingConfig) : Except ConfigError Unit :=
  if c.periodMillis = 0 then .error (.zeroPeriod .adverts)
  else if c.timeoutMillis = 0 then .error (.zeroPeriod .routeTimeout)
  else if c.logDumpMillis = some 0 then .error (.zeroPeriod .routeDump)
  else .ok ()

end RoutingConfig

/-- Everything that makes a node. -/
structure NodeConfig where
  name : String
  ip : IPv4
  eth : EtherAddress
  probing : ProbingConfig
  discovery : DiscoveryConfig
  metric : MetricConfig
  routing : RoutingConfig
  seed : UInt64

namespace NodeConfig

/-- The node of a number: name and addresses come from the number. -/
def ofIndex (i : Nat) : NodeConfig where
  name := "n" ++ toString i
  ip := .ofIndex i
  eth := .ofIndex i
  probing := { eth := some (.ofIndex i) }
  discovery := {}
  metric := {}
  routing := {}
  seed := 1

def validate (c : NodeConfig) : Except ConfigError Unit := do
  c.probing.validate
  c.discovery.validate
  c.routing.validate
  if c.metric.packetSize = 0 then .error (.invalid .emptyPacket) else .ok ()

end NodeConfig

end WirelessMesh
