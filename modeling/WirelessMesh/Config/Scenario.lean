import WirelessMesh.Config.Settings

namespace WirelessMesh

/-- A link between two nodes; what it leaves open comes from the scenario. -/
structure LinkSpec where
  a : Nat
  b : Nat
  latencyMicros : Option Nat := none
  bandwidthKbps : Option Nat := none
  lossPercent : Option Nat := none

/-- The shape of a mesh. -/
inductive TopologySpec where
  | line (nodes : Nat)
  | grid (rows cols : Nat)
  | explicit (nodes : Nat) (links : List LinkSpec)

/-- The number of nodes, kept to 64 bits. -/
def TopologySpec.nodeCount : TopologySpec → Nat
  | line nodes => nodes
  | grid rows cols => min (rows * cols) 0xffff_ffff_ffff_ffff
  | explicit nodes _ => nodes

/-- What a link is like unless it says otherwise. -/
structure LinkDefaults where
  latencyMicros : Nat := 2
  bandwidthKbps : Nat := 2000
  lossPercent : Nat := 0

/-- A mesh to build and how long to run it. -/
structure Scenario where
  schemaVersion : Nat
  topology : TopologySpec
  link : LinkDefaults := {}
  probing : ProbingConfig := {}
  discovery : DiscoveryConfig := {}
  metric : MetricConfig := {}
  routing : RoutingConfig := {}
  seed : UInt64 := 1
  untilMillis : Option Nat := none

namespace Scenario

/-- The most nodes that have addresses of their own. -/
def maxNodes : Nat := 65534

/-- The first link of a list that joins no two nodes of a mesh. -/
def badLink? (nodes : Nat) (links : List LinkSpec) : Option LinkSpec :=
  links.find? fun l => nodes ≤ l.a || nodes ≤ l.b || l.a == l.b

def checkLinks (nodes : Nat) : TopologySpec → Except ConfigError Unit
  | .explicit _ links =>
    match badLink? nodes links with
    | some l => .error (.invalid (.linkOutOfRange l.a l.b nodes))
    | none => .ok ()
  | _ => .ok ()

/-- Checks a scenario. Its probing settings need no address, as every node has its own. -/
def validate (s : Scenario) : Except ConfigError Unit := do
  let nodes := s.topology.nodeCount
  if nodes = 0 then .error (.invalid .noNodes)
  else if maxNodes < nodes then .error (.invalid (.tooManyNodes nodes))
  else .ok ()
  checkLinks nodes s.topology
  if s.link.bandwidthKbps = 0 then .error (.invalid .noBandwidth) else .ok ()
  { s.probing with eth := some (s.probing.eth.getD (.ofIndex 0)) : ProbingConfig }.validate
  s.discovery.validate
  s.routing.validate

/-- The settings of one node. -/
def nodeConfig (s : Scenario) (i : Nat) : NodeConfig :=
  let base := NodeConfig.ofIndex i
  { base with
    probing := { s.probing with eth := some base.eth }
    discovery := s.discovery
    metric := s.metric
    routing := s.routing
    seed := s.seed }

end Scenario

end WirelessMesh
