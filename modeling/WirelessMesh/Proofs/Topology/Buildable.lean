import WirelessMesh.Proofs.Topology.Assembly

/-!
Which scenarios can be built. Main statement: a valid scenario gives a network with all its nodes, each made
from the settings of its number, unless it asks for the metric of empty packets, which nothing checks before
the first node is made. What cannot be built leaves the network as it was.
-/
namespace WirelessMesh

private theorem ProbingConfig.validate_eth (config : ProbingConfig) (eth eth' : EtherAddress) :
    { config with eth := some eth }.validate = { config with eth := some eth' }.validate := rfl

namespace Scenario

variable {s : Scenario}

structure Sound (s : Scenario) : Prop where
  inhabited : 0 < s.topology.nodeCount
  few : s.topology.nodeCount ≤ maxNodes
  linked : checkLinks s.topology.nodeCount s.topology = .ok ()
  probing : ∀ eth, { s.probing with eth := some eth }.validate = .ok ()
  discovery : s.discovery.validate = .ok ()
  routing : s.routing.validate = .ok ()

theorem sound_of_validate (valid : s.validate = .ok ()) : s.Sound := by
  have few := Topology.few_of_validate valid
  simp only [validate] at valid
  split at valid
  · cases valid
  next inhabited =>
  split at valid
  · cases valid
  obtain ⟨⟨⟩, -, rest⟩ := ok_of_bind valid
  obtain ⟨⟨⟩, linked, rest⟩ := ok_of_bind rest
  split at rest
  · cases rest
  obtain ⟨⟨⟩, -, rest⟩ := ok_of_bind rest
  obtain ⟨⟨⟩, probing, rest⟩ := ok_of_bind rest
  obtain ⟨⟨⟩, discovery, routing⟩ := ok_of_bind rest
  have probing (eth : EtherAddress) : { s.probing with eth := some eth }.validate = .ok () :=
    (ProbingConfig.validate_eth s.probing eth _).trans probing
  exact ⟨Nat.pos_of_ne_zero inhabited, few, linked, probing, discovery, routing⟩

/-- The settings of a node pass all checks but the one that a scenario is not checked for. -/
theorem Sound.validate_nodeConfig (sound : s.Sound) (i : Nat) :
    (s.nodeConfig i).validate =
      if s.metric.packetSize = 0 then .error (.invalid .emptyPacket) else .ok () := by
  have probing := sound.probing (.ofIndex i)
  simp only [nodeConfig, NodeConfig.validate, NodeConfig.ofIndex, probing, sound.discovery, sound.routing]
  rfl

end Scenario

namespace Topology

/-- The links that a scenario asks for, each to be made in both directions. -/
def scenarioLinks (s : Scenario) : List (Nat × Nat × LinkOptions) :=
  match s.topology with
  | .line nodes => lineLinks nodes (scenarioLink s)
  | .grid rows cols => gridLinks rows cols (scenarioLink s)
  | .explicit _ links => links.map fun l => (l.a, l.b, explicitLink l (scenarioLink s))

theorem lineLinks_within {nodes : Nat} {link : LinkOptions} :
    ∀ l ∈ lineLinks nodes link, l.1 < nodes ∧ l.2.1 < nodes := by
  intro l member
  obtain ⟨i, below, rfl⟩ := List.mem_map.mp member
  have below := List.mem_range.mp below
  exact ⟨by omega, by simp only; omega⟩

private theorem gridIndex_lt {rows cols row col : Nat} (row_lt : row < rows) (col_lt : col < cols) :
    gridIndex cols row col < rows * cols := by
  calc row * cols + col
    _ < row * cols + cols := Nat.add_lt_add_left col_lt _
    _ = (row + 1) * cols := (Nat.succ_mul row cols).symm
    _ ≤ rows * cols := Nat.mul_le_mul_right cols row_lt

theorem lineLinks_uniform {nodes : Nat} {link : LinkOptions} :
    ∀ l ∈ lineLinks nodes link, l.2.2 = link := by
  intro l member
  obtain ⟨i, -, rfl⟩ := List.mem_map.mp member
  rfl

/-- The links of a grid lead from its cells to the cells to the right of them and below them. -/
theorem mem_gridLinks {rows cols : Nat} {link : LinkOptions} {l : Nat × Nat × LinkOptions} :
    l ∈ gridLinks rows cols link ↔ ∃ row col, row < rows ∧ col < cols ∧
      (col + 1 < cols ∧ l = (gridIndex cols row col, gridIndex cols row (col + 1), link) ∨
        row + 1 < rows ∧ l = (gridIndex cols row col, gridIndex cols (row + 1) col, link)) := by
  have cell (row col : Nat) : l ∈ cellLinks rows cols row col link ↔
      (col + 1 < cols ∧ l = (gridIndex cols row col, gridIndex cols row (col + 1), link) ∨
        row + 1 < rows ∧ l = (gridIndex cols row col, gridIndex cols (row + 1) col, link)) := by
    simp [cellLinks]
  simp only [gridLinks, List.mem_flatMap, List.mem_range, cell]
  exact ⟨fun ⟨row, row_lt, col, col_lt, l⟩ => ⟨row, col, row_lt, col_lt, l⟩,
    fun ⟨row, col, row_lt, col_lt, l⟩ => ⟨row, row_lt, col, col_lt, l⟩⟩

theorem gridLinks_within {rows cols : Nat} {link : LinkOptions} :
    ∀ l ∈ gridLinks rows cols link, l.1 < rows * cols ∧ l.2.1 < rows * cols := by
  intro l member
  obtain ⟨row, col, row_lt, col_lt, ⟨inside, rfl⟩ | ⟨inside, rfl⟩⟩ := mem_gridLinks.mp member
  · exact ⟨gridIndex_lt row_lt col_lt, gridIndex_lt row_lt inside⟩
  · exact ⟨gridIndex_lt row_lt col_lt, gridIndex_lt inside col_lt⟩

theorem gridLinks_uniform {rows cols : Nat} {link : LinkOptions} :
    ∀ l ∈ gridLinks rows cols link, l.2.2 = link := by
  intro l member
  obtain ⟨row, col, -, -, ⟨-, rfl⟩ | ⟨-, rfl⟩⟩ := mem_gridLinks.mp member
  · rfl
  · rfl

variable {s : Scenario} {net : Network} {config : Nat → NodeConfig} {log : Bool}

/-- The number of cells of a valid grid is the product of its sides. -/
theorem nodeCount_grid {rows cols : Nat} (few : (TopologySpec.grid rows cols).nodeCount ≤ Scenario.maxNodes) :
    (TopologySpec.grid rows cols).nodeCount = rows * cols := by
  simp only [TopologySpec.nodeCount, Scenario.maxNodes] at few ⊢
  omega

/-- No link of a valid scenario leads to a node that is not there. -/
theorem scenarioLinks_within (sound : s.Sound) :
    ∀ l ∈ scenarioLinks s, l.1 < s.topology.nodeCount ∧ l.2.1 < s.topology.nodeCount := by
  have few := sound.few
  have linked := sound.linked
  unfold scenarioLinks
  cases shape : s.topology with
  | line nodes => exact lineLinks_within
  | grid rows cols =>
    rw [shape] at few
    rw [nodeCount_grid few]
    exact gridLinks_within
  | explicit nodes links =>
    rw [shape] at linked
    simp only [Scenario.checkLinks] at linked
    split at linked
    · cases linked
    · next none =>
      intro l member
      obtain ⟨spec, listed, rfl⟩ := List.mem_map.mp member
      have fits := List.find?_eq_none.mp none spec listed
      simp only [Bool.or_eq_true, decide_eq_true_eq, not_or, Nat.not_le] at fits
      exact fits.1

/-- A valid scenario is built node by node, then link by link. -/
theorem buildScenario_eq (valid : s.validate = .ok ()) (log : Bool) :
    buildScenario s log = build s.topology.nodeCount s.nodeConfig log (scenarioLinks s) := by
  have sound := Scenario.sound_of_validate valid
  have inhabited := sound.inhabited
  have few := sound.few
  simp only [buildScenario, valid, scenarioLinks]
  cases shape : s.topology with
  | line nodes =>
    rw [shape] at inhabited
    exact if_neg (Nat.ne_of_gt inhabited)
  | grid rows cols =>
    rw [shape] at inhabited few
    rw [nodeCount_grid few] at inhabited ⊢
    refine if_neg ?_
    rintro (rfl | rfl)
    · simp at inhabited
    · simp at inhabited
  | explicit nodes links => rfl

private theorem build_populates {count : Nat} {links : List (Nat × Nat × LinkOptions)}
    (makes : ∀ i, ∃ n, MeshNode.create i (config i) = .ok n)
    (within : ∀ l ∈ links, l.1 < count ∧ l.2.1 < count) : ∃ net,
      build count config log links .empty = (.ok (List.range count), net) ∧
        Populated net config log ∧ net.nodes.size = count := by
  have valid (i : Nat) (_ : i < count) : (config i).validate = .ok () :=
    (MeshNode.made_of_create (makes i).choose_spec).valid
  obtain ⟨newcomers, built, size, populated⟩ := build_empty valid within log
  exact ⟨_, built, populated, size⟩

/-- What a scenario is not checked for shows when its first node is made. -/
theorem buildScenario_of_empty_packets (valid : s.validate = .ok ()) (none : s.metric.packetSize = 0)
    (log : Bool) : buildScenario s log net = (.error (.config (.invalid .emptyPacket)), net) := by
  have sound := Scenario.sound_of_validate valid
  have refused := (sound.validate_nodeConfig 0).trans (if_pos none)
  rw [buildScenario_eq valid]
  exact build_error sound.inhabited refused log

/-- A valid scenario gives a network that has exactly its nodes, in the order of their numbers, each made
from the settings of its number and with a log of its routes if one was asked for, unless the scenario has
the metric predict empty packets. Then the first node is refused and nothing is built. -/
theorem valid_scenario_builds (s : Scenario) (log : Bool) (valid : s.validate = .ok ()) :
    (s.metric.packetSize ≠ 0 → ∃ net,
      buildScenario s log .empty = (.ok (List.range s.topology.nodeCount), net) ∧
        net.nodeCount = s.topology.nodeCount ∧
        ∀ i < s.topology.nodeCount, ∃ n, MeshNode.create i (s.nodeConfig i) = .ok n ∧
          net.node? i = some (if log then n.withRouteLog else n)) ∧
    (s.metric.packetSize = 0 →
      buildScenario s log .empty = (.error (.config (.invalid .emptyPacket)), .empty)) := by
  refine ⟨fun sized => ?_, fun none => buildScenario_of_empty_packets valid none log⟩
  have sound := Scenario.sound_of_validate valid
  have makes (i : NodeId) : ∃ n, MeshNode.create i (s.nodeConfig i) = .ok n :=
    MeshNode.exists_create ((sound.validate_nodeConfig i).trans (if_neg sized))
  obtain ⟨net, built, populated, size⟩ := build_populates makes (scenarioLinks_within sound)
  rw [buildScenario_eq valid]
  exact ⟨net, built, size, fun i below => populated.made i (size ▸ below)⟩

def twoByThree : Scenario := { schemaVersion := 1, topology := .grid 2 3 }

theorem two_by_three_builds : twoByThree.validate = .ok () ∧ twoByThree.metric.packetSize ≠ 0 ∧
    ∃ net, buildScenario twoByThree true .empty = (.ok [0, 1, 2, 3, 4, 5], net) ∧ net.nodeCount = 6 ∧
      ∃ n, MeshNode.create 5 (twoByThree.nodeConfig 5) = .ok n ∧ net.node? 5 = some n.withRouteLog := by
  have valid : twoByThree.validate = .ok () := by rfl
  have sized : twoByThree.metric.packetSize ≠ 0 := by decide
  obtain ⟨net, built, count, made⟩ := (valid_scenario_builds twoByThree true valid).1 sized
  exact ⟨valid, sized, net, built, count, made 5 (by decide)⟩

def emptyPackets : Scenario :=
  { schemaVersion := 1, topology := .line 2, metric := { packetSize := 0 } }

/-- So not every valid scenario can be built. -/
theorem not_every_valid_scenario_builds :
    ¬ ∀ (s : Scenario) (log : Bool), s.validate = .ok () → ∃ ids net,
      buildScenario s log .empty = (.ok ids, net) ∧ net.nodeCount = s.topology.nodeCount ∧
        ∀ i < s.topology.nodeCount, ∃ n, MeshNode.create i (s.nodeConfig i) = .ok n ∧
          net.node? i = some (if log then n.withRouteLog else n) := by
  intro builds
  have valid : emptyPackets.validate = .ok () := by rfl
  obtain ⟨ids, net, built, -⟩ := builds emptyPackets false valid
  rw [buildScenario_of_empty_packets valid rfl] at built
  cases built

/-- A scenario that is not valid, or has the metric predict empty packets, is refused before anything is
built. -/
theorem buildScenario_refuses (flawed : s.validate ≠ .ok () ∨ s.metric.packetSize = 0) (log : Bool)
    (net : Network) : ∃ cause, buildScenario s log net = (.error (.config cause), net) := by
  cases valid : s.validate with
  | error cause =>
    refine ⟨cause, ?_⟩
    rw [buildScenario, valid]
    rfl
  | ok _ =>
    obtain invalid | none := flawed
    · exact absurd valid invalid
    · exact ⟨_, buildScenario_of_empty_packets valid none log⟩

/-- All nodes of a scenario can be made, if the first one can. -/
theorem valid_nodes (valid : s.validate = .ok ()) (sized : s.metric.packetSize ≠ 0) (i : Nat) :
    (s.nodeConfig i).validate = .ok () :=
  ((Scenario.sound_of_validate valid).validate_nodeConfig i).trans (if_neg sized)

private theorem buildScenario_ne_config (valid : s.validate = .ok ()) (sized : s.metric.packetSize ≠ 0)
    (log : Bool) (net : Network) (cause : ConfigError) :
    (buildScenario s log net).1 ≠ .error (.config cause) := by
  rw [buildScenario_eq valid]
  exact build_ne_config (fun i _ => valid_nodes valid sized i) log cause

theorem buildScenario_succeeds (valid : s.validate = .ok ()) (sized : s.metric.packetSize ≠ 0) (log : Bool)
    (net : Network) (listed : net.outlets.size = net.nodes.size) :
    ∃ ids net', buildScenario s log net = (.ok ids, net') := by
  have within := scenarioLinks_within (Scenario.sound_of_validate valid)
  obtain ⟨newcomers, built, -⟩ := build_eq net listed (fun i _ => valid_nodes valid sized i) within log
  rw [buildScenario_eq valid]
  exact ⟨_, _, built⟩

/-- A build that fails leaves the network as it was, whatever the scenario and whatever network was there
before. In every network that has a list of links for each of its nodes, as all that can be reached have,
the settings are the only cause of failure, and a build fails exactly if the scenario is not valid or has
the metric predict empty packets. -/
theorem failed_build_changes_nothing (s : Scenario) (log : Bool) (net : Network) :
    (∀ cause net', buildScenario s log net = (.error (.config cause), net') → net' = net) ∧
    (net.outlets.size = net.nodes.size →
      (∀ cause net', buildScenario s log net ≠ (.error (.network cause), net')) ∧
      ((∃ cause, buildScenario s log net = (.error (.config cause), net)) ↔
        s.validate ≠ .ok () ∨ s.metric.packetSize = 0)) := by
  by_cases flawed : s.validate ≠ .ok () ∨ s.metric.packetSize = 0
  · obtain ⟨reason, refused⟩ := buildScenario_refuses flawed log net
    rw [refused]
    exact ⟨fun _ _ same => (Prod.mk.inj same).2.symm,
      fun _ => ⟨nofun, fun _ => flawed, fun _ => ⟨_, rfl⟩⟩⟩
  · obtain ⟨valid, sized⟩ := not_or.mp flawed
    have valid := not_not.mp valid
    refine ⟨fun cause net' failed => ?_, fun listed => ?_⟩
    · exact absurd (congrArg (·.1) failed) (buildScenario_ne_config valid sized log net cause)
    · obtain ⟨ids, net', built⟩ := buildScenario_succeeds valid sized log net listed
      rw [built]
      exact ⟨nofun, nofun, fun wrong => absurd wrong flawed⟩

/-- Two nodes that cannot be made, after six that are there. -/
theorem two_by_three_stays : ∃ net cause,
    buildScenario twoByThree false .empty = (.ok [0, 1, 2, 3, 4, 5], net) ∧ net.nodeCount = 6 ∧
      net.outlets.size = net.nodes.size ∧ emptyPackets.validate = .ok () ∧
      buildScenario emptyPackets false net = (.error (.config cause), net) := by
  have valid : twoByThree.validate = .ok () := by rfl
  have within := scenarioLinks_within (Scenario.sound_of_validate valid)
  obtain ⟨newcomers, built, size, populated⟩ :=
    build_empty (fun i _ => valid_nodes valid (by decide) i) within false
  obtain ⟨-, settings⟩ := (failed_build_changes_nothing emptyPackets false _).2 populated.outlets
  obtain ⟨cause, failed⟩ := settings.mpr (.inr rfl)
  rw [← buildScenario_eq valid] at built
  exact ⟨_, cause, built, size, populated.outlets, by rfl, failed⟩

end Topology

end WirelessMesh
