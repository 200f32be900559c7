import WirelessMesh.Command.MeshRun

namespace WirelessMesh.Command

/-- What the command line of a pair run says. -/
structure PairRun where
  bandwidthKbps : Nat := 2000
  latencyMicros : Nat := 2
  lossPercent : Nat := 0
  firstSize : Nat := 30
  secondSize : Nat := 30
  piggyback : Bool := false
  untilMillis : Nat := 12000

namespace PairRun

def options : OptionSet where
  valued := ["bandwidth-kbps", "latency-us", "loss-pct", "first-size", "second-size", "until-ms"]
  flags := ["piggyback"]

/-- Reads a command line. -/
def parse? (args : List String) : Option PairRun := do
  let given ← options.parse? args []
  let usual : PairRun := {}
  return {
    bandwidthKbps := ← given.findD? "bandwidth-kbps" usual.bandwidthKbps word?
    latencyMicros := ← given.findD? "latency-us" usual.latencyMicros word?
    lossPercent := ← given.findD? "loss-pct" usual.lossPercent (natBelow? UInt8.size)
    firstSize := ← given.findD? "first-size" usual.firstSize (natBelow? UInt32.size)
    secondSize := ← given.findD? "second-size" usual.secondSize (natBelow? UInt32.size)
    piggyback := (given.lookup "piggyback").isSome
    untilMillis := ← given.findD? "until-ms" usual.untilMillis word? }

/-- The settings of one of the two nodes. -/
def nodeConfig (run : PairRun) (i : Nat) : NodeConfig :=
  let base := NodeConfig.ofIndex i
  { base with
    probing := { base.probing with
      firstSize := run.firstSize
      secondSize := run.secondSize
      reply := if run.piggyback then .piggyback else base.probing.reply } }

def link (run : PairRun) : LinkOptions :=
  ⟨.ofMicros run.latencyMicros, Topology.bitsPerSecond run.bandwidthKbps, run.lossPercent⟩

def renderRate : Option Nat → String
  | some percent => "Some(" ++ toString percent ++ ")"
  | none => "None"

def renderMetric : Metric → String
  | .good cost => "Good(" ++ toString cost.toNat ++ ")"
  | .bad => "Bad"

/-- What a node has measured of the link to its peer. -/
def nodeLine (node : MeshNode) (peer : EtherAddress) (now : Time) : String :=
  let report := (node.linkReport peer now).1
  node.eth.render ++ " -> " ++ peer.render
    ++ ": forward_delay_us=" ++ toString report.forwardDelay.micros
    ++ " reverse_delay_us=" ++ toString report.reverseDelay.micros
    ++ " r_fwd=" ++ renderRate report.forwardRate
    ++ " r_rev=" ++ renderRate report.reverseRate
    ++ " metric=" ++ renderMetric report.metric

def summaryLine (mesh : Mesh) : String :=
  let stats := mesh.medium.stats
  "done @ " ++ MeshRun.renderTime mesh.sim.now ++ ", sent_frames=" ++ toString stats.sentFrames
    ++ ", delivered_frames=" ++ toString stats.deliveredFrames
    ++ ", dropped_loss=" ++ toString stats.droppedLoss

/-- The line of each of two nodes that are there. -/
def pairLines (net : Network) (now : Time) : List String :=
  match net.node? 0, net.node? 1 with
  | some a, some b => [nodeLine a b.eth now, nodeLine b a.eth now]
  | _, _ => []

/-- Runs the command. -/
def execute (run : PairRun) : Outcome :=
  match Topology.build 2 run.nodeConfig false [(0, 1, run.link)] Network.empty with
  | (.error (.config cause), _) => .failed 2 [] cause
  | (.error (.network cause), _) => .crashed (.network cause)
  | (.ok _, net) =>
    let limit := Time.ofMillis run.untilMillis
    match (Mesh.startAll ⟨.empty, net⟩).runUntil limit with
    | .error halt => .crashed (.ofHalt halt)
    | .ok mesh => .done (pairLines mesh.medium limit ++ [summaryLine mesh]) none

/-- Runs the command of a command line. -/
def ofArgs (args : List String) : Outcome :=
  match parse? args with
  | none => .misuse
  | some run => run.execute

end PairRun

end WirelessMesh.Command
