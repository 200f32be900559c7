import WirelessMesh.Config.Scenario
import WirelessMesh.Json.Number

namespace WirelessMesh

def EtherAddress.toJson (address : EtherAddress) : Json := .ofString address.render

def ProbingConfig.toJson (c : ProbingConfig) : Json :=
  .ofFields [
    ("samples", .ofNat c.samples),
    ("period_ms", .ofNat c.periodMillis),
    ("sample_margin", .ofFloat c.sampleMargin),
    ("first_size", .ofNat c.firstSize),
    ("second_size", .ofNat c.secondSize),
    ("probe_delay_ms", .ofNat c.probeDelayMillis),
    ("function", .ofString c.function.name),
    ("eth", .ofOption EtherAddress.toJson c.eth),
    ("schedule", .ofString c.schedule.name),
    ("reply", .ofString c.reply.name)]

def DiscoveryConfig.toJson (c : DiscoveryConfig) : Json :=
  .ofFields [
    ("period_ms", .ofNat c.periodMillis),
    ("tau_ms", .ofNat c.windowMillis),
    ("probe_size", .ofNat c.probeSize)]

def MetricConfig.toJson (c : MetricConfig) : Json :=
  .ofFields [("packet_size", .ofNat c.packetSize), ("calibration_us", .ofNat c.calibrationMicros)]

def RoutingConfig.toJson (c : RoutingConfig) : Json :=
  .ofFields [
    ("period_ms", .ofNat c.periodMillis),
    ("timeout_ms", .ofNat c.timeoutMillis),
    ("settle_ms", .ofNat c.settleMillis),
    ("use_old_route", .bool c.useOldRoute),
    ("ignore_invalid_routes", .bool c.ignoreInvalidRoutes),
    ("min_triggered_ms", .ofNat c.minTriggeredMillis),
    ("log_dump_ms", .ofOption Json.ofNat c.logDumpMillis)]

def LinkSpec.toJson (l : LinkSpec) : Json :=
  .ofFields [
    ("a", .ofNat l.a),
    ("b", .ofNat l.b),
    ("latency_us", .ofOption Json.ofNat l.latencyMicros),
    ("bandwidth_kbps", .ofOption Json.ofNat l.bandwidthKbps),
    ("loss_pct", .ofOption Json.ofNat l.lossPercent)]

def LinkDefaults.toJson (l : LinkDefaults) : Json :=
  .ofFields [
    ("latency_us", .ofNat l.latencyMicros),
    ("bandwidth_kbps", .ofNat l.bandwidthKbps),
    ("loss_pct", .ofNat l.lossPercent)]

/-- A shape: its kind and the fields of that kind. -/
def TopologySpec.toJson : TopologySpec → Json
  | line nodes => .ofFields [("kind", .ofString "line"), ("nodes", .ofNat nodes)]
  | grid rows cols =>
    .ofFields [("kind", .ofString "grid"), ("rows", .ofNat rows), ("cols", .ofNat cols)]
  | explicit nodes links =>
    .ofFields [("kind", .ofString "explicit"), ("nodes", .ofNat nodes),
      ("links", .array (links.map LinkSpec.toJson))]

def Scenario.toJson (s : Scenario) : Json :=
  .ofFields [
    ("schema_version", .ofNat s.schemaVersion),
    ("topology", s.topology.toJson),
    ("link", s.link.toJson),
    ("ett", s.probing.toJson),
    ("linkstat", s.discovery.toJson),
    ("metric", s.metric.toJson),
    ("routes", s.routing.toJson),
    ("seed", .ofNat s.seed.toNat),
    ("until_ms", .ofOption Json.ofNat s.untilMillis)]

end WirelessMesh
