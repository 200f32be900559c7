import WirelessMesh.Proofs.Air.Line
import WirelessMesh.Proofs.Topology.Buildable

namespace WirelessMesh

namespace Link

variable {link : Link}

/-- A link over which every frame takes the time of its bits over the bandwidth, in nanoseconds rounded up,
and none the time that stands for no bandwidth. -/
structure Timely (link : Link) : Prop where
  positive : 0 < link.bandwidth
  exact : ∀ bytes : UInt32,
    (link.transmissionTime bytes).ns = (8 * bytes.toNat * 1_000_000_000) ⌈/⌉ link.bandwidth
  moving : ∀ bytes : UInt32, link.transmissionTime bytes ≠ stalled

/-- Even the longest frame takes a link of a kilobit per second less than forty million seconds. -/
private theorem timely_of_le (fast : 1000 ≤ link.bandwidth) : link.Timely := by
  have positive : 0 < link.bandwidth := Nat.lt_of_lt_of_le (by decide) fast
  have exact (bytes : UInt32) :
      (link.transmissionTime bytes).ns = (8 * bytes.toNat * 1_000_000_000) ⌈/⌉ link.bandwidth ∧
        (8 * bytes.toNat * 1_000_000_000) ⌈/⌉ link.bandwidth ≤ 2 ^ 32 * 8_000_000 := by
    have short : (8 * bytes.toNat * 1_000_000_000) ⌈/⌉ link.bandwidth ≤ 2 ^ 32 * 8_000_000 := by
      refine (ceilDiv_le_iff_le_mul positive).mpr ?_
      calc 8 * bytes.toNat * 1_000_000_000
        _ ≤ 1000 * (2 ^ 32 * 8_000_000) := by have := bytes.toNat_lt; omega
        _ ≤ link.bandwidth * (2 ^ 32 * 8_000_000) := Nat.mul_le_mul_right _ fast
    refine ⟨?_, short⟩
    have same := link.transmissionTime_eq positive bytes.toNat_lt
    rw [UInt32.ofNat_toNat] at same
    rw [same, Time.ns_ofNanos]
    exact Nat.min_eq_left (short.trans (by decide))
  refine ⟨positive, fun bytes => (exact bytes).1, fun bytes same => ?_⟩
  have time := (exact bytes).2
  rw [← (exact bytes).1, same] at time
  exact absurd time (by decide)

private theorem transmissionTime_of_none (none : link.bandwidth = 0) (bytes : UInt32) :
    link.transmissionTime bytes = stalled := if_pos none

end Link

/-- The links that a scenario lists. -/
def TopologySpec.linkSpecs : TopologySpec → List LinkSpec
  | .explicit _ links => links
  | _ => []

namespace Topology

variable {s : Scenario}

theorem bitsPerSecond_kilobits {kbps : Nat} (some : kbps ≠ 0) : 1000 ≤ bitsPerSecond kbps := by
  rw [bitsPerSecond]
  omega

private theorem bandwidth_of_validate (valid : s.validate = .ok ()) : 1000 ≤ (scenarioLink s).bandwidth := by
  refine bitsPerSecond_kilobits fun none => ?_
  simp only [Scenario.validate, none, ↓reduceIte] at valid
  split at valid
  · cases valid
  split at valid
  · cases valid
  obtain ⟨⟨⟩, -, rest⟩ := ok_of_bind valid
  obtain ⟨⟨⟩, -, refused⟩ := ok_of_bind rest
  cases refused

/-- What a link is like that a scenario asks for: as it says where it lists the link, and as usual where it
lists none. -/
private theorem getElem?_scenarioLinks {k : Nat} {l : Nat × Nat × LinkOptions}
    (asked : (scenarioLinks s)[k]? = some l) :
    l.2.2 = (s.topology.linkSpecs[k]?).elim (scenarioLink s) (explicitLink · (scenarioLink s)) := by
  unfold scenarioLinks at asked
  have member := List.mem_of_getElem? asked
  cases shape : s.topology with
  | line nodes =>
    rw [shape] at member
    exact lineLinks_uniform l member
  | grid rows cols =>
    rw [shape] at member
    exact gridLinks_uniform l member
  | explicit nodes links =>
    rw [shape] at asked
    obtain ⟨spec, listed, rfl⟩ := Option.map_eq_some_iff.mp ((List.getElem?_map ..).symm.trans asked)
    rw [TopologySpec.linkSpecs, listed]
    rfl

private theorem exists_asked {k : Nat} {spec : LinkSpec} (listed : s.topology.linkSpecs[k]? = some spec) :
    ∃ l, (scenarioLinks s)[k]? = some l := by
  unfold scenarioLinks
  cases shape : s.topology with
  | line nodes =>
    rw [shape] at listed
    cases listed
  | grid rows cols =>
    rw [shape] at listed
    cases listed
  | explicit nodes links =>
    rw [shape] at listed
    exact ⟨_, (List.getElem?_map ..).trans (congrArg (Option.map _) listed)⟩

/-- The bandwidth of a link is checked where it is the usual one, but not where the link has its own. -/
private theorem bandwidth_of_asked (valid : s.validate = .ok ()) {k : Nat} {l : Nat × Nat × LinkOptions}
    (asked : (scenarioLinks s)[k]? = some l) :
    (1000 ≤ l.2.2.bandwidth ∧
      ∀ spec, s.topology.linkSpecs[k]? = some spec → spec.bandwidthKbps ≠ some 0) ∨
    (l.2.2.bandwidth = 0 ∧
      ∃ spec, s.topology.linkSpecs[k]? = some spec ∧ spec.bandwidthKbps = some 0) := by
  have usual := bandwidth_of_validate valid
  rw [getElem?_scenarioLinks asked]
  cases listed : s.topology.linkSpecs[k]? with
  | none => exact .inl ⟨usual, nofun⟩
  | some spec =>
    simp only [Option.elim, explicitLink, Option.some.injEq, forall_eq', exists_eq_left']
    cases own : spec.bandwidthKbps with
    | none => exact .inl ⟨usual, nofun⟩
    | some kbps =>
      by_cases none : kbps = 0
      · exact .inr ⟨by simp [none, bitsPerSecond], congrArg some none⟩
      · exact .inl ⟨bitsPerSecond_kilobits none, fun same => none (Option.some.inj same)⟩

/-- Each link that was asked for is made there, and right after that back. -/
theorem getElem?_linksFor (first : Nat) (asked : List (Nat × Nat × LinkOptions)) (id : Nat) :
    (linksFor first asked)[id]? = asked[id / 2]?.map fun (a, b, link) =>
      if id % 2 = 0 then linkFrom (first + a) (first + b) link
      else linkFrom (first + b) (first + a) link := by
  induction asked generalizing id with
  | nil => rfl
  | cons l rest ih =>
    match id with
    | 0 => rfl
    | 1 => rfl
    | id + 2 =>
      have half : (id + 2) / 2 = id / 2 + 1 := by omega
      have parity : (id + 2) % 2 = id % 2 := by omega
      rw [half, parity, List.getElem?_cons_succ]
      exact ih id

variable {log : Bool} {ids : List NodeId} {net : Network}

/-- A network that is built from a scenario has the links that the scenario asks for. -/
theorem links_of_buildScenario (built : buildScenario s log .empty = (.ok ids, net)) :
    s.validate = .ok () ∧ net.links.toList = linksFor 0 (scenarioLinks s) := by
  by_cases flawed : s.validate ≠ .ok () ∨ s.metric.packetSize = 0
  · obtain ⟨cause, refused⟩ := buildScenario_refuses flawed log .empty
    rw [refused] at built
    cases built
  · obtain ⟨valid, sized⟩ := not_or.mp flawed
    have valid := not_not.mp valid
    have within := scenarioLinks_within (Scenario.sound_of_validate valid)
    obtain ⟨newcomers, made, -⟩ := build_empty (fun i _ => valid_nodes valid sized i) within log
    rw [buildScenario_eq valid, made] at built
    cases built
    refine ⟨valid, ?_⟩
    rw [Network.links_withLinks, Network.links_withNodes]
    rfl

/-- The link of a number is there or back for what the scenario asks for at half that number. -/
private theorem link_of_buildScenario (built : buildScenario s log .empty = (.ok ids, net)) {id : Nat}
    {link : Link} (present : net.links[id]? = some link) : ∃ l, (scenarioLinks s)[id / 2]? = some l ∧
      link.bandwidth = l.2.2.bandwidth ∧ link.lossPercent = min l.2.2.lossPercent 100 := by
  rw [← Array.getElem?_toList, (links_of_buildScenario built).2, getElem?_linksFor] at present
  obtain ⟨l, asked, rfl⟩ := Option.map_eq_some_iff.mp present
  refine ⟨l, asked, ?_⟩
  by_cases there : id % 2 = 0
  · simp [there, linkFrom, Link.create]
  · simp [there, linkFrom, Link.create]

private theorem mem_of_listed (built : buildScenario s log .empty = (.ok ids, net)) {k : Nat}
    {spec : LinkSpec} (listed : s.topology.linkSpecs[k]? = some spec) :
    ∃ link, net.links[2 * k]? = some link := by
  obtain ⟨l, asked⟩ := exists_asked listed
  have half : 2 * k / 2 = k := by omega
  rw [← Array.getElem?_toList, (links_of_buildScenario built).2, getElem?_linksFor, half, asked]
  exact ⟨_, rfl⟩

/-- The links of a network that is built from a scenario: none loses more than everything. A link takes each
frame the time of its bits over the bandwidth, in nanoseconds rounded up, unless the scenario lists it with a
bandwidth of zero; such a link, and the one back, take forever over any frame. So all links are timely
exactly if the scenario lists no link with a bandwidth of zero. -/
theorem built_links_are_timely (built : buildScenario s log .empty = (.ok ids, net)) :
    (∀ link ∈ net.links, link.lossPercent ≤ 100) ∧
    (∀ (id : LinkId) (link : Link), net.links[id]? = some link →
      (link.Timely ↔ ∀ spec, s.topology.linkSpecs[id / 2]? = some spec → spec.bandwidthKbps ≠ some 0) ∧
      (¬ link.Timely → ∀ bytes, link.transmissionTime bytes = Link.stalled)) ∧
    ((∀ link ∈ net.links, link.Timely) ↔ ∀ spec ∈ s.topology.linkSpecs, spec.bandwidthKbps ≠ some 0) := by
  obtain ⟨valid, -⟩ := links_of_buildScenario built
  have each (id : Nat) (link : Link) (present : net.links[id]? = some link) :
      (link.Timely ↔ ∀ spec, s.topology.linkSpecs[id / 2]? = some spec → spec.bandwidthKbps ≠ some 0) ∧
        (¬ link.Timely → ∀ bytes, link.transmissionTime bytes = Link.stalled) := by
    obtain ⟨l, asked, same, -⟩ := link_of_buildScenario built present
    obtain ⟨fast, checked⟩ | ⟨none, spec, listed, own⟩ := bandwidth_of_asked valid asked
    · have timely := Link.timely_of_le (same ▸ fast)
      exact ⟨⟨fun _ => checked, fun _ => timely⟩, fun late => absurd timely late⟩
    · have dead : link.bandwidth = 0 := same.trans none
      exact ⟨⟨fun timely => absurd dead (Nat.ne_of_gt timely.positive),
        fun checked => absurd own (checked spec listed)⟩, fun _ => Link.transmissionTime_of_none dead⟩
  refine ⟨fun link member => ?_, each, fun timely spec member => ?_, fun checked link member => ?_⟩
  · obtain ⟨id, present⟩ := Array.getElem?_of_mem member
    obtain ⟨l, -, -, capped⟩ := link_of_buildScenario built present
    exact capped ▸ Nat.min_le_right ..
  · obtain ⟨k, listed⟩ := List.getElem?_of_mem member
    obtain ⟨link, present⟩ := mem_of_listed built listed
    have half : 2 * k / 2 = k := by omega
    have checked := (each _ link present).1.mp (timely link (Array.mem_of_getElem? present))
    rw [half] at checked
    exact checked spec listed
  · obtain ⟨id, present⟩ := Array.getElem?_of_mem member
    exact (each id link present).1.mpr fun spec listed => checked spec (List.mem_of_getElem? listed)

/-- Three nodes in a line. The second link has no bandwidth and loses everything twice over. -/
def deadEnd : Scenario where
  schemaVersion := 1
  topology := .explicit 3
    [{ a := 0, b := 1 }, { a := 1, b := 2, bandwidthKbps := some 0, lossPercent := some 200 }]

theorem dead_end_is_half_timely : ∃ (ids : List NodeId) (net : Network) (link dead : Link),
    buildScenario deadEnd false .empty = (.ok ids, net) ∧
      net.links[0]? = some link ∧ link.Timely ∧
      net.links[3]? = some dead ∧ (dead.source, dead.target) = (2, 1) ∧ dead.lossPercent = 100 ∧
        ¬ dead.Timely ∧ ∀ bytes, dead.transmissionTime bytes = Link.stalled := by
  have valid : deadEnd.validate = .ok () := by rfl
  obtain ⟨ids, net, built⟩ := buildScenario_succeeds valid (by decide) false .empty rfl
  have links := (links_of_buildScenario built).2
  have first : net.links[0]? = some (linkFrom 0 1 (scenarioLink deadEnd)) := by
    rw [← Array.getElem?_toList, links]
    rfl
  have last : net.links[3]? = some (linkFrom 2 1 ⟨.ofMicros 2, 0, 200⟩) := by
    rw [← Array.getElem?_toList, links]
    rfl
  obtain ⟨-, each, -⟩ := built_links_are_timely built
  have timely := (each 0 _ first).1.mpr fun spec listed => by cases listed; nofun
  have late := fun timely => (each 3 _ last).1.mp timely _ rfl rfl
  exact ⟨ids, net, _, _, built, first, timely, last, rfl, rfl, late, (each 3 _ last).2 late⟩

def deadLink : Scenario :=
  { schemaVersion := 1, topology := .explicit 2 [{ a := 0, b := 1, bandwidthKbps := some 0 }] }

/-- So not every link that is built is timely. -/
theorem not_every_built_link_is_timely :
    ¬ ∀ (s : Scenario) (log : Bool) (ids : List NodeId) (net : Network),
      buildScenario s log .empty = (.ok ids, net) →
        ∀ link ∈ net.links, link.Timely ∧ link.lossPercent ≤ 100 := by
  intro timely
  have valid : deadLink.validate = .ok () := by rfl
  obtain ⟨ids, net, built⟩ := buildScenario_succeeds valid (by decide) false .empty rfl
  have first : net.links[0]? = some (linkFrom 0 1 ⟨.ofMicros 2, 0, 0⟩) := by
    rw [← Array.getElem?_toList, (links_of_buildScenario built).2]
    rfl
  have positive := (timely deadLink false ids net built _ (Array.mem_of_getElem? first)).1.positive
  exact absurd positive (Nat.lt_irrefl 0)

end Topology

end WirelessMesh
