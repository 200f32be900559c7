import WirelessMesh.Command.Options
import WirelessMesh.Command.Outcome
import WirelessMesh.Config.Reader
import WirelessMesh.Network.World
import WirelessMesh.Topology

namespace WirelessMesh.Command

inductive BuiltinShape where
  | line
  | grid
  deriving DecidableEq

/-- What the command line of a mesh run says. -/
structure MeshRun where
  scenario : Option String := none
  shape : BuiltinShape := .line
  nodes : Nat := 3
  cols : Nat := 3
  bandwidthKbps : Nat := 2000
  lossPercent : Nat := 0
  metricPacketSize : Option Nat := none
  untilMillis : Option Nat := none
  seed : Option Nat := none
  routesFile : Option String := none
  reply : Option ReplyMode := none
  schedule : Option ProbeSchedule := none

namespace MeshRun

def options : OptionSet where
  valued := ["scenario", "topology", "nodes", "cols", "bandwidth-kbps", "loss-pct",
    "metric-packet-size", "until-ms", "seed", "routes-json", "variant", "schedule"]

/-- Reads a command line. -/
def parse? (args : List String) : Option MeshRun := do
  let given ← options.parse? args []
  let usual : MeshRun := {}
  return {
    scenario := ← given.find? "scenario" path?
    shape := ← given.findD? "topology" usual.shape (choice? [("line", .line), ("grid", .grid)])
    nodes := ← given.findD? "nodes" usual.nodes word?
    cols := ← given.findD? "cols" usual.cols word?
    bandwidthKbps := ← given.findD? "bandwidth-kbps" usual.bandwidthKbps word?
    lossPercent := ← given.findD? "loss-pct" usual.lossPercent (natBelow? UInt8.size)
    metricPacketSize := ← given.find? "metric-packet-size" (natBelow? UInt32.size)
    untilMillis := ← given.find? "until-ms" word?
    seed := ← given.find? "seed" word?
    routesFile := ← given.find? "routes-json" path?
    reply := ← given.find? "variant" (choice? [("direct", .direct), ("piggyback", .piggyback)])
    schedule :=
      ← given.find? "schedule" (choice? [("staggered", .staggered), ("batch", .batch)]) }

/-- The time of a run that says nothing of it. -/
def usualUntilMillis : Nat := 40000

/-- The shape of a mesh without a scenario file. -/
def topology (run : MeshRun) : Except ConfigError TopologySpec :=
  match run.shape with
  | .line => .ok (.line run.nodes)
  | .grid =>
    if run.cols = 0 ∨ run.nodes % run.cols ≠ 0 then
      .error (.invalid (.raggedGrid run.nodes run.cols))
    else .ok (.grid (run.nodes / run.cols) run.cols)

/-- The scenario before the command line changes it. -/
def baseScenario (run : MeshRun) (files : Files) : Except ConfigError Scenario :=
  match run.scenario with
  | some path =>
    match files.read path with
    | none => .error .unreadable
    | some text => Scenario.parse text
  | none => run.topology.map fun topology =>
    { schemaVersion := 1
      topology
      link := { bandwidthKbps := run.bandwidthKbps, lossPercent := run.lossPercent } }

/-- The scenario with what the command line sets. -/
def override (run : MeshRun) (s : Scenario) : Scenario :=
  { s with
    seed := match run.seed with
      | some seed => UInt64.ofNat seed
      | none => s.seed
    probing := { s.probing with
      reply := run.reply.getD s.probing.reply
      schedule := run.schedule.getD s.probing.schedule }
    metric := { s.metric with packetSize := run.metricPacketSize.getD s.metric.packetSize } }

/-- The line of a row in use. -/
def routeLine (node : MeshNode) (r : RouteRow) : String :=
  let cost := match r.metric.cost? with
    | some cost => toString cost.toNat
    | none => "bad"
  "route " ++ node.name ++ " " ++ r.ip.render ++ " via " ++ r.nextHopIp.render ++ " hops="
    ++ toString r.hops.toNat ++ " seq=" ++ toString r.seq.toNat ++ " metric=" ++ cost

/-- The lines of a node: itself, then its rows in use. -/
def nodeLines (node : MeshNode) (now : Time) : List String :=
  let rows := node.routes.servedRows now
  let head := "node " ++ node.name ++ " ip=" ++ node.ip.render ++ " eth=" ++ node.eth.render
    ++ " seq=" ++ toString node.routes.seq.toNat ++ " routes=" ++ toString rows.length
    ++ " good=" ++ toString (rows.countP (·.isGood))
    ++ " neighbors=" ++ toString node.prober.neighbors.size
    ++ " heard=" ++ toString (node.rates.neighbors now).length
  head :: rows.map (routeLine node)

/-- A time as the commands print it. -/
def renderTime (t : Time) : String := "SimTime(" ++ toString t.ns ++ ")"

def summaryLine (mesh : Mesh) : String :=
  let stats := mesh.medium.stats
  "done @ " ++ renderTime mesh.sim.now ++ ", sent_frames=" ++ toString stats.sentFrames
    ++ ", delivered_frames=" ++ toString stats.deliveredFrames
    ++ ", dropped_loss=" ++ toString stats.droppedLoss
    ++ ", dropped_no_link=" ++ toString stats.droppedNoLink
    ++ ", dropped_invalid=" ++ toString stats.droppedInvalid

/-- The logs of all nodes in the order of time; within one time, in the order of the nodes. -/
def mergedLog (nodes : List MeshNode) : List RouteLogRecord :=
  (nodes.flatMap fun node => node.routes.drainLog.1).mergeSort fun a b => a.time ≤ b.time

/-- The outcome of a run, once the mesh is built. -/
def finish (run : MeshRun) (files : Files) (ids : List NodeId) (net : Network) (limit : Time) :
    Outcome :=
  match (Mesh.startAll ⟨.empty, net⟩).runUntil limit with
  | .error halt => .crashed (.ofHalt halt)
  | .ok mesh =>
    let nodes := ids.filterMap mesh.medium.node?
    let output := nodes.flatMap (nodeLines · limit) ++ [summaryLine mesh]
    match run.routesFile with
    | none => .done output none
    | some path =>
      if files.writable path then .done output (some ⟨path, mergedLog nodes⟩)
      else .failed 1 output .unreadable

/-- Runs the command. -/
def execute (run : MeshRun) (files : Files) : Outcome :=
  match run.baseScenario files with
  | .error cause => .failed 1 [] cause
  | .ok base =>
    let s := run.override base
    let millis := (run.untilMillis.or s.untilMillis).getD usualUntilMillis
    match Topology.buildScenario s run.routesFile.isSome Network.empty with
    | (.error (.config cause), _) => .failed 1 [] cause
    | (.error (.network cause), _) => .crashed (.network cause)
    | (.ok ids, net) => run.finish files ids net (.ofMillis millis)

/-- Runs the command of a command line. -/
def ofArgs (args : List String) (files : Files) : Outcome :=
  match parse? args with
  | none => .misuse
  | some run => run.execute files

end MeshRun

end WirelessMesh.Command
