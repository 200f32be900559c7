import WirelessMesh.Proofs.Metric.Rounding
import WirelessMesh.Proofs.Metric.Weight
import WirelessMesh.Proofs.Node.Honest
import WirelessMesh.Proofs.Node.Run

/-!
What the links of a node cost. A transmission that takes any time at all makes a link cost a hundred
or more, but the time is cut to whole units, and a fast link may be left with none. Main statement:
`MeshNode.links_cost_unless_cut`.
-/
namespace WirelessMesh

/-- A link that can be used takes one transmission or more, each counted as a hundred. -/
private theorem hundred_le_expectedTransmissions {forward reverse : Option Nat} {count : UInt32}
    (usable : expectedTransmissions forward reverse = .good count) : 100 ≤ count := by
  unfold expectedTransmissions at usable
  split at usable
  · next forward reverse =>
    split at usable
    · cases usable
    · next rated =>
      obtain ⟨some, both⟩ := not_or.mp rated
      have product : 0 < min forward 100 * min reverse 100 := Nat.mul_pos (by omega) (by omega)
      have few : min forward 100 * min reverse 100 ≤ 100 * 100 :=
        Nat.mul_le_mul (Nat.min_le_right ..) (Nat.min_le_right ..)
      have least : 100 ≤ 1000000 / (min forward 100 * min reverse 100) :=
        (Nat.le_div_iff_mul_le product).mpr (by omega)
      have most : 1000000 / (min forward 100 * min reverse 100) < 2 ^ 32 :=
        Nat.lt_of_le_of_lt (Nat.div_le_self ..) (by decide)
      cases usable
      rw [UInt32.le_iff_toNat_le, UInt32.toNat_ofNat', Nat.mod_eq_of_lt most]
      exact least
  · cases usable

/-- A time that is not nothing makes the cost a hundred or more, and nothing makes it nothing. -/
private theorem expectedTransmissionTime_cost {transmissions : Metric}
    (many : ∀ count, transmissions = .good count → 100 ≤ count) (delayMicros probeSize : Nat)
    (config : MetricConfig) :
    let link := expectedTransmissionTime transmissions delayMicros probeSize config
    (0 < transmissionTime delayMicros probeSize config →
        link = .bad ∨ ∃ cost, link = .good cost ∧ 100 ≤ cost) ∧
      (¬ 0 < transmissionTime delayMicros probeSize config → link = .bad ∨ link = .good 0) := by
  unfold expectedTransmissionTime
  cases transmissions with
  | bad => exact ⟨fun _ => .inl rfl, fun _ => .inl rfl⟩
  | good count =>
    have hundred : 100 ≤ count.toNat := UInt32.le_iff_toNat_le.mp (many count rfl)
    have product := Metric.toNat_mulCost count (transmissionTime delayMicros probeSize config)
    refine ⟨fun takes => .inr ⟨_, rfl, ?_⟩, fun none => .inr (congrArg Metric.good ?_)⟩
    · have some : 1 ≤ (transmissionTime delayMicros probeSize config).toNat :=
        UInt32.lt_iff_toNat_lt.mp takes
      rw [UInt32.le_iff_toNat_le, product]
      exact Nat.le_min.mpr ⟨Nat.mul_le_mul hundred some, by decide⟩
    · have nothing : (transmissionTime delayMicros probeSize config).toNat = 0 :=
        Nat.eq_zero_of_not_pos fun some => none (UInt32.lt_iff_toNat_lt.mpr some)
      rw [← UInt32.toNat_inj, product, nothing]
      rfl

namespace MeshNode

variable {μ : Type} [Medium μ] {n : MeshNode} {air : Air μ} {next : MeshNode × Air μ}

/-- The settings on which the metric of a link depends. -/
def settings (n : MeshNode) : MetricConfig × ProbingConfig := (n.metric, n.prober.config)

private theorem settings_onTimer {kind : TimerKind} (done : n.onTimer kind air = .ok next) :
    next.1.settings = n.settings := by
  have metric : next.1.metric = n.metric := by
    cases kind with
    | expiry ip =>
      obtain ⟨_, -, rfl⟩ := ok_of_map done
      rfl
    | _ =>
      cases done
      rfl
  exact congrArg₂ Prod.mk metric (keeps_onTimer done).config

theorem settings_onFrame {frame : Frame} (done : n.onFrame frame air = .ok next) :
    next.1.settings = n.settings := by
  cases takes_onFrame done with
  | probing _ other => exact congrArg (Prod.mk n.metric) (n.prober.keeps_onFrame other air).config
  | _ => rfl

private theorem settings_onEvent {event : MeshEvent} (done : n.onEvent air event = .ok next) :
    next.1.settings = n.settings := by
  cases handles_onEvent done with
  | timer done => exact settings_onTimer done
  | arrival done => exact settings_onFrame done
  | elsewhere => rfl

theorem create_settings {id : NodeId} {config : NodeConfig} (done : create id config = .ok n) :
    config.validate = .ok () ∧ n.settings = (config.metric, config.probing) := by
  have made := made_of_create done
  obtain ⟨eth, -, prober⟩ := Prober.create_eq made.prober
  refine ⟨made.valid, ?_⟩
  rw [settings, made.metric, prober]

/-- A node keeps the valid settings that it was made with. -/
theorem Reached.settings (reached : Reached n air) : ∃ config : NodeConfig,
    config.validate = .ok () ∧ n.settings = (config.metric, config.probing) := by
  induction reached with
  | created medium done => exact ⟨_, create_settings done⟩
  | logged _ ih => exact ih
  | drained _ ih => exact ih
  | measured _ peer now ih => exact ih
  | started _ ih => exact ih
  | shutDown _ ih => exact ih
  | received _ done ih => exact settings_onFrame done ▸ ih
  | waited _ _ ih => exact ih
  | fired _ _ done ih => exact settings_onEvent done ▸ ih
  | elsewhere _ _ _ ih => exact ih

/-- Valid settings have something to send and something to measure it by. -/
private theorem sizes_of_validate {config : NodeConfig} (valid : config.validate = .ok ()) :
    0 < config.metric.packetSize ∧ 0 < config.probing.secondSize := by
  obtain ⟨_, probing, rest⟩ := ok_of_bind valid
  obtain ⟨_, -, rest⟩ := ok_of_bind rest
  obtain ⟨_, -, rest⟩ := ok_of_bind rest
  split at rest
  · cases rest
  · next packet =>
    obtain ⟨-, second⟩ := Prober.sizes_of_validate probing
    exact ⟨Nat.pos_of_ne_zero packet, Nat.lt_of_lt_of_le (by decide) second⟩

/-- The delay by which a node reckons the bandwidth to a peer: what the peer has reported, less what
is not due to the link, but a microsecond at least. -/
def reckonedDelay (n : MeshNode) (peer : EtherAddress) (now : Time) : Nat :=
  max ((n.prober.reverseDelay peer now).1.micros - n.metric.calibrationMicros) 1

/-- The sizes by which a node reckons are positive counts of 32 bits. -/
structure Sized (n : MeshNode) : Prop where
  packet_pos : 0 < n.metric.packetSize
  packet_lt : n.metric.packetSize < 2 ^ 32
  probe_pos : 0 < n.prober.config.secondSize
  probe_lt : n.prober.config.secondSize < 2 ^ 32

/-- What a link costs is not nothing, unless the time of a transmission is cut. As long as the packet,
times the delay to the peer in microseconds, is no smaller than the second probe, a usable link costs ten
or more, and a route through the peer is worse than the peer's own. If it is smaller, a usable link costs
nothing. -/
def CostsUnlessCut (n : MeshNode) (peer : EtherAddress) (now : Time) : Prop :=
  let link := (n.linkMetric peer now).1
  (n.prober.config.secondSize ≤ n.metric.packetSize * n.reckonedDelay peer now →
    (link = .bad ∨ ∃ cost, link = .good cost ∧ 10 ≤ cost) ∧
      ∀ m : Metric, m.isGood = true → m.betterThan (link.told m) = true) ∧
  (n.metric.packetSize * n.reckonedDelay peer now < n.prober.config.secondSize →
    link = .bad ∨ link = .good 0)

/-- Sizes and delay tell whether the time of a transmission is cut to nothing. -/
private theorem Sized.time_pos_iff (sized : n.Sized) (peer : EtherAddress) (now : Time) :
    0 < transmissionTime (n.prober.reverseDelay peer now).1.micros n.prober.config.secondSize
        n.metric ↔
      n.prober.config.secondSize ≤ n.metric.packetSize * n.reckonedDelay peer now :=
  transmissionTime_pos_iff sized.packet_pos sized.packet_lt sized.probe_pos sized.probe_lt

theorem Sized.costs (sized : n.Sized) (peer : EtherAddress) (now : Time) :
    n.CostsUnlessCut peer now := by
  have times := sized.time_pos_iff peer now
  have many (count : UInt32) : expectedTransmissions (n.rates.forwardRate peer now)
      (n.rates.reverseRate peer now) = .good count → 100 ≤ count := hundred_le_expectedTransmissions
  obtain ⟨takes, none⟩ := expectedTransmissionTime_cost many
    (n.prober.reverseDelay peer now).1.micros n.prober.config.secondSize n.metric
  unfold CostsUnlessCut
  intro link
  refine ⟨fun enough => ?_, fun short => none fun some => ?_⟩
  · have costs : link = .bad ∨ ∃ cost, link = .good cost ∧ 100 ≤ cost := takes (times.mpr enough)
    have ten : ∀ cost, link = .good cost → 10 ≤ cost := by
      rintro cost same
      rcases costs with bad | ⟨other, good, hundred⟩
      · rw [bad] at same
        cases same
      · rw [good] at same
        cases same
        exact UInt32.le_trans (by decide) hundred
    refine ⟨costs.imp_right fun ⟨cost, good, _⟩ => ⟨cost, good, ten cost good⟩, ?_⟩
    intro m usable
    rw [Metric.betterThan_iff]
    by_cases told : (link.told m).weight < Metric.unusable
    · exact Metric.weight_lt_told ten told
    · exact Nat.lt_of_lt_of_le (Metric.isGood_iff_weight.mp usable) (Nat.le_of_not_lt told)
  · exact Nat.not_le_of_lt short (times.mp some)

/-- Valid settings give sizes to reckon by, if they are counts of 32 bits. -/
theorem sized_of_settings {config : NodeConfig} (valid : config.validate = .ok ())
    (settings : n.settings = (config.metric, config.probing))
    (packet : config.metric.packetSize < 2 ^ 32) (probe : config.probing.secondSize < 2 ^ 32) :
    n.Sized := by
  obtain ⟨metric, probing⟩ := Prod.mk.inj settings
  obtain ⟨some, measure⟩ := sizes_of_validate valid
  rw [← metric] at some packet
  rw [← probing] at measure probe
  exact ⟨some, packet, measure, probe⟩

/-- In every state that a node can be in, its links cost something unless the time of a transmission is
cut. -/
theorem Reached.costs (reached : Reached n air) (packet : n.metric.packetSize < 2 ^ 32)
    (probe : n.prober.config.secondSize < 2 ^ 32) (peer : EtherAddress) (now : Time) :
    n.CostsUnlessCut peer now := by
  obtain ⟨config, valid, settings⟩ := reached.settings
  obtain ⟨metric, probing⟩ := Prod.mk.inj settings
  have sized := sized_of_settings valid settings (metric ▸ packet) (probing ▸ probe)
  exact sized.costs peer now

/-- What a link costs a node of valid settings whose sizes are counts of 32 bits; `Reached.costs` says the
same of every node that can be reached. As long as the packet, times the delay to the
peer in microseconds, is no smaller than the second probe, a usable link costs ten or more, and a
route through the peer is worse than the peer's own. If it is smaller, the time of a transmission is
cut to nothing, and a usable link costs nothing. -/
theorem links_cost_unless_cut {config : NodeConfig} (valid : config.validate = .ok ())
    (settings : n.settings = (config.metric, config.probing))
    (packet : config.metric.packetSize < 2 ^ 32) (probe : config.probing.secondSize < 2 ^ 32)
    (peer : EtherAddress) (now : Time) :
    let link := (n.linkMetric peer now).1
    (config.probing.secondSize ≤ config.metric.packetSize * n.reckonedDelay peer now →
      (link = .bad ∨ ∃ cost, link = .good cost ∧ 10 ≤ cost) ∧
        ∀ m : Metric, m.isGood = true → m.betterThan (link.told m) = true) ∧
    (config.metric.packetSize * n.reckonedDelay peer now < config.probing.secondSize →
      link = .bad ∨ link = .good 0) := by
  have costs := (sized_of_settings valid settings packet probe).costs peer now
  obtain ⟨metric, probing⟩ := Prod.mk.inj settings
  rwa [CostsUnlessCut, metric, probing] at costs

def sizedConfig (size : Nat) : NodeConfig :=
  { NodeConfig.ofIndex 0 with probing := { eth := some (.ofIndex 0), secondSize := size } }

def allHeard : Frame :=
  ⟨1, .broadcast, .ofIndex 1, FrameType.discovery,
    (DiscoveryProbe.mk 1 1000 [⟨.ofIndex 0, 100⟩]).encode⟩

/-- The second node measured 101 microseconds between two frames of the first. -/
def quickReply : Frame :=
  ⟨2, .ofIndex 0, .ofIndex 1, FrameType.probeReply,
    (LinkProbe.mk 1).encode ++ (DelayReport.mk (.ofIndex 0) 101).encode⟩

def acquainted (size : Nat) : Option (MeshNode × Mesh) :=
  (create 0 (sizedConfig size)).toOption.bind fun n =>
    (n.onFrame allHeard Mesh.empty).toOption.bind fun s => (s.1.onFrame quickReply s.2).toOption

private theorem acquainted_settings {size : Nat} {s : MeshNode × Mesh}
    (found : acquainted size = some s) : (sizedConfig size).validate = .ok () ∧
      s.1.settings = ((sizedConfig size).metric, (sizedConfig size).probing) := by
  obtain ⟨n, made, rest⟩ := Option.bind_eq_some_iff.mp found
  obtain ⟨mid, first, second⟩ := Option.bind_eq_some_iff.mp rest
  obtain ⟨valid, settings⟩ := create_settings (ok_of_toOption made)
  refine ⟨valid, (settings_onFrame (ok_of_toOption second)).trans ?_⟩
  exact (settings_onFrame (ok_of_toOption first)).trans settings

private theorem acquainted_reached {size : Nat} {s : MeshNode × Mesh} (found : acquainted size = some s) :
    Reached s.1 s.2 := by
  obtain ⟨n, made, rest⟩ := Option.bind_eq_some_iff.mp found
  obtain ⟨mid, first, second⟩ := Option.bind_eq_some_iff.mp rest
  have created : Reached n Mesh.empty := .created Network.empty (ok_of_toOption made)
  have heard : Reached mid.1 mid.2 := .received created (ok_of_toOption first)
  exact .received heard (ok_of_toOption second)

/-- With probes of the usual size the link costs something, and with larger ones nothing. -/
theorem larger_probes_make_link_free :
    ∃ n mesh n' mesh', acquainted 30 = some (n, mesh) ∧ acquainted 1500 = some (n', mesh') ∧
      (n.linkMetric (.ofIndex 1) .zero).1 = .good 34000 ∧
      (∀ m : Metric, m.isGood = true →
        m.betterThan ((n.linkMetric (.ofIndex 1) .zero).1.told m) = true) ∧
      (n'.linkMetric (.ofIndex 1) .zero).1 = .good 0 := by
  have usual : (acquainted 30).map (fun s => (s.1.reckonedDelay (.ofIndex 1) .zero,
      (s.1.linkMetric (.ofIndex 1) .zero).1)) = some (1, .good 34000) := by decide +kernel
  have large : (acquainted 1500).map (fun s => (s.1.reckonedDelay (.ofIndex 1) .zero,
      (s.1.linkMetric (.ofIndex 1) .zero).1.isGood)) = some (1, true) := by decide +kernel
  obtain ⟨⟨n, mesh⟩, found, seen⟩ := Option.map_eq_some_iff.mp usual
  obtain ⟨⟨n', mesh'⟩, found', seen'⟩ := Option.map_eq_some_iff.mp large
  obtain ⟨delay, cost⟩ := Prod.mk.inj seen
  obtain ⟨delay', good⟩ := Prod.mk.inj seen'
  obtain ⟨valid, settings⟩ := acquainted_settings found
  obtain ⟨valid', settings'⟩ := acquainted_settings found'
  have costs := links_cost_unless_cut valid settings (by decide) (by decide) (.ofIndex 1) .zero
  have free := links_cost_unless_cut valid' settings' (by decide) (by decide) (.ofIndex 1) .zero
  rw [delay] at costs
  rw [delay'] at free
  refine ⟨n, mesh, n', mesh', found, found', cost, (costs.1 (by decide)).2, ?_⟩
  rcases free.2 (by decide) with bad | nothing
  · rw [bad] at good
    cases good
  · exact nothing

/-- So not every usable link costs ten or more. -/
theorem not_every_usable_link_costs :
    ¬ ∀ (n : MeshNode) (mesh : Mesh), Reached n mesh → ∀ (peer : EtherAddress) (now : Time),
      (n.linkMetric peer now).1 = .bad ∨
        ∃ cost, (n.linkMetric peer now).1 = .good cost ∧ 10 ≤ cost := by
  intro costs
  have large : (acquainted 1500).map (fun s => (s.1.linkMetric (.ofIndex 1) .zero).1) =
      some (.good 0) := by decide +kernel
  obtain ⟨⟨n, mesh⟩, found, free⟩ := Option.map_eq_some_iff.mp large
  rcases costs n mesh (acquainted_reached found) (.ofIndex 1) .zero with bad | ⟨cost, good, ten⟩
  · cases free.symm.trans bad
  · cases free.symm.trans good
    exact absurd ten (by decide)

end MeshNode

end WirelessMesh
