import WirelessMesh.Node
import WirelessMesh.Proofs.Route.Steps
import WirelessMesh.Proofs.Route.Timers

namespace WirelessMesh

theorem DeliveryRates.create_eq {node : NodeId} {eth : EtherAddress} {config : DiscoveryConfig}
    {random : RandomSource} {d : DeliveryRates} (done : create node eth config random = .ok d) :
    d = ⟨node, eth, config, 0, .empty, random, none⟩ := by
  obtain ⟨-, -, made⟩ := ok_of_bind done
  exact (Except.ok.inj made).symm

theorem Prober.create_eq {node : NodeId} {config : ProbingConfig} {random : RandomSource}
    {salt : UInt64} {p : Prober} (done : create node config random salt = .ok p) :
    let margin := config.period.scale config.sampleMargin
    ∃ eth, config.eth = some eth ∧ p = {
      node, eth, config
      sampler := .empty config.function (config.period + margin)
        (config.period.scaleNat config.samples + margin + margin)
      neighbors := .empty
      rounds := .ofConfig config random salt } := by
  obtain ⟨-, -, made⟩ := ok_of_bind done
  split at made
  · cases made
  · next eth given => exact ⟨eth, given, (Except.ok.inj made).symm⟩

namespace MeshNode

structure Made (id : NodeId) (config : NodeConfig) (n : MeshNode) : Prop where
  valid : config.validate = .ok ()
  number : n.id = id
  ip : n.ip = config.ip
  eth : n.eth = config.eth
  metric : n.metric = config.metric
  rates : DeliveryRates.create id config.eth config.discovery
    (partSeed (baseSeed config.seed config.eth) 1) = .ok n.rates
  prober : Prober.create id config.probing (partSeed (baseSeed config.seed config.eth) 2)
    (baseSeed config.seed config.eth) = .ok n.prober
  routes : RouteTable.create id config.ip config.eth config.routing
    (partSeed (baseSeed config.seed config.eth) 3) = .ok n.routes

theorem made_of_create {id : NodeId} {config : NodeConfig} {n : MeshNode}
    (done : create id config = .ok n) : Made id config n := by
  obtain ⟨_, valid, rest⟩ := ok_of_bind done
  obtain ⟨rates, rated, rest⟩ := ok_of_bind rest
  obtain ⟨prober, probed, rest⟩ := ok_of_bind rest
  obtain ⟨routes, routed, rest⟩ := ok_of_bind rest
  cases rest
  exact ⟨valid, rfl, rfl, rfl, rfl, rated, probed, routed⟩

end MeshNode

end WirelessMesh
