import WirelessMesh.Config.Scenario
import WirelessMesh.Json.Reader
import WirelessMesh.Json.Record

/-!
Reading settings and scenarios from JSON. Numbers have to be whole and fit their field; what is
left out has its usual value, except the shape of a mesh and the version of the format.
-/
namespace WirelessMesh

/-- The bounds of the fields that are narrower than 64 bits. -/
def byteBound : Nat := UInt8.size

def word32Bound : Nat := UInt32.size

def EtherAddress.ofJson? (document : Json) : Option EtherAddress :=
  document.text?.bind EtherAddress.parse?

def SampleFunction.ofJson? : Json → Option SampleFunction :=
  Json.choice? [("min", .min), ("ewma", .ewma)]

def ProbeSchedule.ofJson? : Json → Option ProbeSchedule :=
  Json.choice? [("staggered", .staggered), ("batch", .batch)]

def ReplyMode.ofJson? : Json → Option ReplyMode :=
  Json.choice? [("direct", .direct), ("piggyback", .piggyback)]

namespace ProbingConfig

def fieldNames : List String :=
  ["samples", "period_ms", "sample_margin", "first_size", "second_size", "probe_delay_ms",
    "function", "eth", "schedule", "reply"]

def ofJson? (document : Json) : Option ProbingConfig := do
  let fields ← document.fields? fieldNames
  let usual : ProbingConfig := {}
  return {
    samples := ← fields.optional? "samples" usual.samples (Json.natBelow? byteBound)
    periodMillis := ← fields.optional? "period_ms" usual.periodMillis Json.word?
    sampleMargin := ← fields.optional? "sample_margin" usual.sampleMargin Json.float?
    firstSize := ← fields.optional? "first_size" usual.firstSize (Json.natBelow? word32Bound)
    secondSize := ← fields.optional? "second_size" usual.secondSize (Json.natBelow? word32Bound)
    probeDelayMillis := ← fields.optional? "probe_delay_ms" usual.probeDelayMillis Json.word?
    function := ← fields.optional? "function" usual.function SampleFunction.ofJson?
    eth := ← fields.optional? "eth" usual.eth (Json.nullable? EtherAddress.ofJson?)
    schedule := ← fields.optional? "schedule" usual.schedule ProbeSchedule.ofJson?
    reply := ← fields.optional? "reply" usual.reply ReplyMode.ofJson? }

end ProbingConfig

def DiscoveryConfig.ofJson? (document : Json) : Option DiscoveryConfig := do
  let fields ← document.fields? ["period_ms", "tau_ms", "probe_size"]
  let usual : DiscoveryConfig := {}
  return {
    periodMillis := ← fields.optional? "period_ms" usual.periodMillis Json.word?
    windowMillis := ← fields.optional? "tau_ms" usual.windowMillis Json.word?
    probeSize := ← fields.optional? "probe_size" usual.probeSize (Json.natBelow? word32Bound) }

def MetricConfig.ofJson? (document : Json) : Option MetricConfig := do
  let fields ← document.fields? ["packet_size", "calibration_us"]
  let usual : MetricConfig := {}
  return {
    packetSize := ← fields.optional? "packet_size" usual.packetSize (Json.natBelow? word32Bound)
    calibrationMicros :=
      ← fields.optional? "calibration_us" usual.calibrationMicros (Json.natBelow? word32Bound) }

def RoutingConfig.ofJson? (document : Json) : Option RoutingConfig := do
  let fields ← document.fields? ["period_ms", "timeout_ms", "settle_ms", "use_old_route",
    "ignore_invalid_routes", "min_triggered_ms", "log_dump_ms"]
  let usual : RoutingConfig := {}
  return {
    periodMillis := ← fields.optional? "period_ms" usual.periodMillis Json.word?
    timeoutMillis := ← fields.optional? "timeout_ms" usual.timeoutMillis Json.word?
    settleMillis := ← fields.optional? "settle_ms" usual.settleMillis Json.word?
    useOldRoute := ← fields.optional? "use_old_route" usual.useOldRoute Json.bool?
    ignoreInvalidRoutes :=
      ← fields.optional? "ignore_invalid_routes" usual.ignoreInvalidRoutes Json.bool?
    minTriggeredMillis := ← fields.optional? "min_triggered_ms" usual.minTriggeredMillis Json.word?
    logDumpMillis :=
      ← fields.optional? "log_dump_ms" usual.logDumpMillis (Json.nullable? Json.word?) }

def LinkSpec.ofJson? (document : Json) : Option LinkSpec := do
  let fields ← document.fields? ["a", "b", "latency_us", "bandwidth_kbps", "loss_pct"]
  return {
    a := ← fields.required? "a" Json.word?
    b := ← fields.required? "b" Json.word?
    latencyMicros := ← fields.optional? "latency_us" none (Json.nullable? Json.word?)
    bandwidthKbps := ← fields.optional? "bandwidth_kbps" none (Json.nullable? Json.word?)
    lossPercent :=
      ← fields.optional? "loss_pct" none (Json.nullable? (Json.natBelow? byteBound)) }

def LinkDefaults.ofJson? (document : Json) : Option LinkDefaults := do
  let fields ← document.fields? ["latency_us", "bandwidth_kbps", "loss_pct"]
  let usual : LinkDefaults := {}
  return {
    latencyMicros := ← fields.optional? "latency_us" usual.latencyMicros Json.word?
    bandwidthKbps := ← fields.optional? "bandwidth_kbps" usual.bandwidthKbps Json.word?
    lossPercent := ← fields.optional? "loss_pct" usual.lossPercent (Json.natBelow? byteBound) }

namespace TopologySpec

/-- The shape of the given kind, from its other fields. -/
def ofKind? (kind : String) (rest : Json) : Option TopologySpec :=
  match kind with
  | "line" => do
    let fields ← rest.fields? ["nodes"]
    return .line (← fields.required? "nodes" Json.word?)
  | "grid" => do
    let fields ← rest.fields? ["rows", "cols"]
    return .grid (← fields.required? "rows" Json.word?) (← fields.required? "cols" Json.word?)
  | "explicit" => do
    let fields ← rest.fields? ["nodes", "links"]
    return .explicit (← fields.required? "nodes" Json.word?)
      (← fields.optional? "links" [] (Json.list? LinkSpec.ofJson?))
  | _ => none

/-- How deep arrays and objects may nest inside a scenario's shape. -/
def maxDepth : Nat := 126

/-- A shape: an object whose `kind` says which, or an array that starts with the kind. The whole of
it has to be readable, also what is not used. -/
def ofJson? (document : Json) : Option TopologySpec :=
  if !document.isReadable maxDepth then none
  else
    match document with
    | .object entries =>
      match entries.partition fun entry => entry.1 == some "kind" with
      | ([(_, .string (some kind))], rest) => ofKind? kind (.object rest)
      | _ => none
    | .array (.string (some kind) :: rest) => ofKind? kind (.array rest)
    | _ => none

end TopologySpec

namespace Scenario

def fieldNames : List String :=
  ["schema_version", "topology", "link", "ett", "linkstat", "metric", "routes", "seed", "until_ms"]

def ofJson? (document : Json) : Option Scenario := do
  let fields ← document.fields? fieldNames
  return {
    schemaVersion := ← fields.required? "schema_version" (Json.natBelow? word32Bound)
    topology := ← fields.required? "topology" TopologySpec.ofJson?
    link := ← fields.optional? "link" {} LinkDefaults.ofJson?
    probing := ← fields.optional? "ett" {} ProbingConfig.ofJson?
    discovery := ← fields.optional? "linkstat" {} DiscoveryConfig.ofJson?
    metric := ← fields.optional? "metric" {} MetricConfig.ofJson?
    routing := ← fields.optional? "routes" {} RoutingConfig.ofJson?
    seed := UInt64.ofNat (← fields.optional? "seed" 1 Json.word?)
    untilMillis := ← fields.optional? "until_ms" none (Json.nullable? Json.word?) }

/-- Reads a scenario and checks it. -/
def parse (text : String) : Except ConfigError Scenario := do
  match (Json.parse? text).bind ofJson? with
  | none => .error .malformed
  | some scenario =>
    scenario.validate
    return scenario

end Scenario

end WirelessMesh
