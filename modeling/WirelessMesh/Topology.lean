import WirelessMesh.Config.Scenario
import WirelessMesh.Network.Basic

/-!
Building networks: lines, grids and meshes with a list of links. Every link goes both ways. Nodes
come first and links after them, so that a network that cannot be built gains no links.
-/
namespace WirelessMesh

/-- What a link is like. -/
structure LinkOptions where
  latency : Time := .ofMicros 2
  /-- Bits per second. -/
  bandwidth : Nat := 2_000_000
  lossPercent : Nat := 0

/-- Why a mesh could not be built. -/
inductive BuildError where
  | config (cause : ConfigError)
  | network (cause : NetworkError)

/-- A network under construction. What has been built stays when a later step fails. -/
abbrev Builder := ExceptT BuildError (StateM Network)

namespace Topology

/-- A bandwidth in bits per second, kept to 64 bits. -/
def bitsPerSecond (kbps : Nat) : Nat := min (kbps * 1000) 0xffff_ffff_ffff_ffff

/-- Adds a node, with a log of its routes if asked for. -/
def addNode (config : NodeConfig) (routeLog : Bool) : Builder NodeId := do
  let build id := (MeshNode.create id config).map fun node =>
    if routeLog then node.withRouteLog else node
  match (← get).addNode build with
  | .error cause => throw (.config cause)
  | .ok (id, net) =>
    set net
    return id

/-- Makes a link in each direction. -/
def connect (a b : NodeId) (link : LinkOptions) : Builder Unit := do
  match (← get).connectPair a b link.latency link.bandwidth link.lossPercent with
  | .error cause => throw (.network cause)
  | .ok net => set net

/-- Adds nodes, then links between them. Links name the nodes by their place among the new ones. -/
def build (count : Nat) (config : Nat → NodeConfig) (routeLog : Bool)
    (links : List (Nat × Nat × LinkOptions)) : Builder (List NodeId) := do
  let first := (← get).nodeCount
  let ids ← (List.range count).mapM fun index => addNode (config index) routeLog
  links.forM fun (a, b, link) => connect (first + a) (first + b) link
  return ids

/-- Each node of a line with the next one. -/
def lineLinks (nodes : Nat) (link : LinkOptions) : List (Nat × Nat × LinkOptions) :=
  (List.range (nodes - 1)).map fun i => (i, i + 1, link)

/-- The place of a cell in a grid that is numbered row by row. -/
def gridIndex (cols row col : Nat) : Nat := row * cols + col

/-- A cell of a grid with the one to its right and the one below it. -/
def cellLinks (rows cols row col : Nat) (link : LinkOptions) : List (Nat × Nat × LinkOptions) :=
  let here := gridIndex cols row col
  (if col + 1 < cols then [(here, gridIndex cols row (col + 1), link)] else [])
    ++ (if row + 1 < rows then [(here, gridIndex cols (row + 1) col, link)] else [])

/-- All links of a grid, row by row. -/
def gridLinks (rows cols : Nat) (link : LinkOptions) : List (Nat × Nat × LinkOptions) :=
  (List.range rows).flatMap fun row =>
    (List.range cols).flatMap fun col => cellLinks rows cols row col link

/-- A line of nodes. -/
def buildLine (nodes : Nat) (link : LinkOptions) (routeLog : Bool) (config : Nat → NodeConfig) :
    Builder (List NodeId) :=
  if nodes = 0 then throw (.config (.invalid .emptyLine))
  else build nodes config routeLog (lineLinks nodes link)

/-- A grid of nodes. -/
def buildGrid (rows cols : Nat) (link : LinkOptions) (routeLog : Bool) (config : Nat → NodeConfig) :
    Builder (List NodeId) :=
  if rows = 0 ∨ cols = 0 then throw (.config (.invalid (.emptyGrid rows cols)))
  else build (rows * cols) config routeLog (gridLinks rows cols link)

/-- What a link of a list is like; the usual link fills in what it leaves open. -/
def explicitLink (l : LinkSpec) (usual : LinkOptions) : LinkOptions where
  latency := match l.latencyMicros with
    | some micros => .ofMicros micros
    | none => usual.latency
  bandwidth := match l.bandwidthKbps with
    | some kbps => bitsPerSecond kbps
    | none => usual.bandwidth
  lossPercent := l.lossPercent.getD usual.lossPercent

/-- The usual link of a scenario. -/
def scenarioLink (s : Scenario) : LinkOptions :=
  ⟨.ofMicros s.link.latencyMicros, bitsPerSecond s.link.bandwidthKbps, s.link.lossPercent⟩

/-- The mesh of a scenario. -/
def buildScenario (s : Scenario) (routeLog : Bool) : Builder (List NodeId) := do
  match s.validate with
  | .error cause => throw (.config cause)
  | .ok () =>
    let link := scenarioLink s
    match s.topology with
    | .line nodes => buildLine nodes link routeLog s.nodeConfig
    | .grid rows cols => buildGrid rows cols link routeLog s.nodeConfig
    | .explicit nodes links =>
      build nodes s.nodeConfig routeLog (links.map fun l => (l.a, l.b, explicitLink l link))

end Topology

end WirelessMesh
