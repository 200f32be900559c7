import WirelessMesh.Network.World
import WirelessMesh.Proofs.Node.Parts
import WirelessMesh.Proofs.Route.Refusal
import WirelessMesh.Proofs.Route.Timers

/-!
A node in use: created, started and shut down, handed frames, with timers that fire in the order of
the simulator. Main statement: a received frame makes it fail exactly if the route table refuses an
advert, for a row under the broadcast address.
-/
namespace WirelessMesh

namespace MeshNode

/-- Every part of the node knows its number and has its own timers. -/
structure Sound (n : MeshNode) (sim : Simulator MeshEvent) : Prop where
  rates : n.rates.Sound n.id sim
  prober : n.prober.Sound n.id sim
  routes : n.routes.Sound sim
  node : n.routes.node = n.id

variable {n : MeshNode} {sim sim' : Simulator MeshEvent}

theorem Sound.valid (sound : n.Sound sim) : sim.WellFormed := sound.routes.valid

theorem Measuring.apart {t : RouteTable} {event : MeshEvent} (mine : Measuring t.node event) :
    ¬ t.Owned event := by
  rcases mine with rfl | rfl | rfl | arrival
  · simp [RouteTable.Owned, RouteTable.Scheduling, expiryEvent]
  · simp [RouteTable.Owned, RouteTable.Scheduling, expiryEvent]
  · simp [RouteTable.Owned, RouteTable.Scheduling, expiryEvent]
  · exact RouteTable.not_owned_arrival arrival

theorem Sound.measured (sound : n.Sound sim) (changes : sim.Changes (Measuring n.id) sim') :
    n.Sound sim' where
  rates := sound.rates.changes sound.valid changes
  prober := sound.prober.changes sound.valid changes
  routes := sound.routes.elsewhere changes fun _ mine => Measuring.apart (sound.node ▸ mine)
  node := sound.node

theorem Sound.routed (sound : n.Sound sim) {t : RouteTable}
    (went : n.routes.Goes sim t sim') : { n with routes := t }.Sound sim' where
  rates := sound.rates.changes sound.valid went.changes
  prober := sound.prober.changes sound.valid went.changes
  routes := went.sound
  node := went.node.trans sound.node

theorem Sound.rated (sound : n.Sound sim) {d : DeliveryRates}
    (went : DeliveryRates.Goes n.id sim d sim') : { n with rates := d }.Sound sim' := by
  obtain ⟨rates, prober, routes, node⟩ := sound.measured went.2
  exact ⟨went.1, prober, routes, node⟩

theorem Sound.probed (sound : n.Sound sim) {p : Prober}
    (went : Prober.Goes n.id sim p sim') : { n with prober := p }.Sound sim' := by
  obtain ⟨rates, prober, routes, node⟩ := sound.measured went.changes
  exact ⟨rates, went.sound, routes, node⟩

theorem Sound.start (sound : n.Sound sim) : (n.start sim).1.Sound (n.start sim).2 := by
  have first := sound.rated (sound.rates.start sound.valid)
  have second := first.probed (first.prober.start first.valid)
  exact second.routed second.routes.start

theorem Sound.shutdown (sound : n.Sound sim) : (n.shutdown sim).1.Sound (n.shutdown sim).2 := by
  have first := sound.rated sound.rates.stop
  have second := first.probed (first.prober.stop first.valid)
  exact second.routed second.routes.stop

/-- Looking for the metric of a link changes samples only. -/
theorem Sound.linkMetric (sound : n.Sound sim) (peer : EtherAddress) (now : Time) :
    (n.linkMetric peer now).2.Sound sim :=
  ⟨sound.rates, sound.prober.congr rfl rfl rfl, sound.routes, sound.node⟩

theorem Sound.linkReport (sound : n.Sound sim) (peer : EtherAddress) (now : Time) :
    (n.linkReport peer now).2.Sound sim :=
  ⟨sound.rates, sound.prober.congr rfl rfl rfl, sound.routes, sound.node⟩

section Adverts

variable {μ : Type} {air : Air μ}

/-- Taking in an advert, when it comes from a node to listen to. -/
theorem onAdvert_eq (n : MeshNode) (sender : EtherAddress) (advert : RouteAdvert) (air : Air μ) :
    n.onAdvert sender advert air =
      match n.routes.advertiser? sender advert with
      | none => .ok (n, air)
      | some _ =>
        (n.routes.handleAdvert sender advert (n.linkMetric sender air.now).1 air.sim).map
          fun after => ({ (n.linkMetric sender air.now).2 with routes := after.table },
            { air with sim := after.sim }) := by
  unfold onAdvert
  cases n.routes.advertiser? sender advert with
  | none => rfl
  | some me =>
    simp only [bind, Except.bind]
    have same : (n.linkMetric sender air.now).2.routes = n.routes := rfl
    rw [same]
    cases n.routes.handleAdvert sender advert (n.linkMetric sender air.now).1 air.sim <;> rfl

/-- An advert is taken in and leaves the node sound, unless the route table refuses it. -/
theorem Sound.onAdvert (sound : n.Sound air.sim) (sender : EtherAddress) (advert : RouteAdvert) :
    (∃ next, n.onAdvert sender advert air = .ok next ∧ next.1.Sound next.2.sim) ∨
      n.routes.Refuses sender advert (n.linkMetric sender air.now).1 air.sim := by
  rw [onAdvert_eq]
  cases counts : n.routes.advertiser? sender advert with
  | none => exact .inl ⟨_, rfl, sound⟩
  | some me =>
    apply (sound.routes.handleAdvert_or_refuses sender advert _).imp_left
    intro answers
    obtain ⟨after, done, kept, whole, changes⟩ := answers
    refine ⟨_, congrArg (Except.map _) done, ?_⟩
    exact (sound.linkMetric sender air.now).routed
      ⟨kept.node, kept.ip, kept.eth, kept.config, whole, changes.mono fun _ => .inl⟩

private theorem Sound.onAdvert_refused (sound : n.Sound air.sim) {sender : EtherAddress}
    {advert : RouteAdvert}
    (refuses : n.routes.Refuses sender advert (n.linkMetric sender air.now).1 air.sim) :
    n.onAdvert sender advert air = .error .broadcastDestination := by
  have whole := refuses
  obtain ⟨me, counts, -⟩ := whole
  rw [onAdvert_eq, counts]
  exact congrArg (Except.map _) (sound.routes.handleAdvert_refused refuses)

end Adverts

section Frames

variable {μ : Type} [Medium μ] {air : Air μ}

/-- When a node cannot go on with a frame: it is an advert that the route table refuses. -/
def Refuses (n : MeshNode) (frame : Frame) (air : Air μ) : Prop :=
  frame.type = FrameType.advert ∧ ∃ advert, RouteAdvert.decode frame.payload = .ok advert ∧
    n.routes.Refuses frame.source advert (n.linkMetric frame.source air.now).1 air.sim

theorem Sound.onFrame_refused (sound : n.Sound air.sim) {frame : Frame}
    (refuses : n.Refuses frame air) : n.onFrame frame air = .error .broadcastDestination := by
  obtain ⟨advertised, advert, read, refuses⟩ := refuses
  have other : ¬ frame.type = FrameType.discovery ∧
      ¬ (frame.type = FrameType.probe ∨ frame.type = FrameType.probeReply) := by
    rw [advertised]
    decide
  rw [MeshNode.onFrame, if_neg other.1, if_neg other.2, if_pos advertised, read]
  exact sound.onAdvert_refused refuses

variable [LawfulMedium μ]

/-- A timer that stands for no route leaves a node sound. -/
theorem Sound.onTimer (sound : n.Sound air.sim) {kind : TimerKind}
    (other : ∀ ip, kind ≠ .expiry ip) :
    ∃ next, n.onTimer kind air = .ok next ∧ next.1.Sound next.2.sim := by
  cases kind with
  | discovery => exact ⟨_, rfl, sound.rated (sound.rates.onTimer sound.valid)⟩
  | probeRound => exact ⟨_, rfl, sound.probed (sound.prober.onRoundTimer sound.valid)⟩
  | probeNext => exact ⟨_, rfl, sound.probed (sound.prober.probeNext sound.valid)⟩
  | advert => exact ⟨_, rfl, sound.routed sound.routes.onAdvertTimer⟩
  | trigger => exact ⟨_, rfl, sound.routed sound.routes.onTriggerTimer⟩
  | expiry ip => exact absurd rfl (other ip)
  | routeDump => exact ⟨_, rfl, sound.routed sound.routes.onDumpTimer⟩

/-- A frame is taken in or dropped, and leaves the node sound, unless it is refused. -/
theorem Sound.onFrame_or_refuses (sound : n.Sound air.sim) (frame : Frame) :
    (∃ next, n.onFrame frame air = .ok next ∧ next.1.Sound next.2.sim) ∨ n.Refuses frame air := by
  unfold MeshNode.onFrame
  split
  · left
    refine ⟨_, rfl, sound.rates.onFrame frame air.now, ?_, sound.routes, sound.node⟩
    exact sound.prober.congr rfl rfl rfl
  · split
    · exact .inl ⟨_, rfl, sound.probed (sound.prober.onFrame sound.valid frame)⟩
    · split
      · next advertised =>
        cases read : RouteAdvert.decode frame.payload with
        | error _ => exact .inl ⟨_, rfl, sound⟩
        | ok advert =>
          exact (sound.onAdvert frame.source advert).imp_right
            fun refuses => ⟨advertised, advert, read, refuses⟩
      · exact .inl ⟨_, rfl, sound⟩

end Frames

variable {μ : Type} [Medium μ] {air : Air μ}

/-- What a node does when an event begins: its timers and the frames that arrive at it are for it. -/
def onEvent (n : MeshNode) (air : Air μ) : MeshEvent → Except RouteViolation (MeshNode × Air μ)
  | .timer node kind => if node = n.id then n.onTimer kind air else .ok (n, air)
  | .arrival node frame => if node = n.id then n.onFrame frame air else .ok (n, air)

/-- What an event makes of a node: a timer of it fires, a frame arrives at it, or it has no part in it. -/
inductive Handles (n : MeshNode) (air : Air μ) : MeshEvent → MeshNode × Air μ → Prop
  | timer {kind : TimerKind} {next : MeshNode × Air μ} (done : n.onTimer kind air = .ok next) :
      Handles n air (.timer n.id kind) next
  | arrival {frame : Frame} {next : MeshNode × Air μ} (done : n.onFrame frame air = .ok next) :
      Handles n air (.arrival n.id frame) next
  | elsewhere {event : MeshEvent} (timers : ∀ kind, event ≠ .timer n.id kind)
      (frames : ∀ frame, event ≠ .arrival n.id frame) : Handles n air event (n, air)

theorem handles_onEvent {event : MeshEvent} {next : MeshNode × Air μ}
    (done : n.onEvent air event = .ok next) : n.Handles air event next := by
  cases event with
  | timer node kind =>
    rw [onEvent] at done
    split at done
    · next mine =>
      rw [mine]
      exact .timer done
    · next other =>
      cases done
      exact .elsewhere (fun _ same => other (MeshEvent.timer.inj same).1) nofun
  | arrival node frame =>
    rw [onEvent] at done
    split at done
    · next mine =>
      rw [mine]
      exact .arrival done
    · next other =>
      cases done
      exact .elsewhere nofun fun _ same => other (MeshEvent.arrival.inj same).1

/-- The nodes that can be reached, with the medium and the simulator that they are on. Others may
use both as they like, except for the timers of this node's routes. -/
inductive Reached : MeshNode → Air μ → Prop
  | created {id : NodeId} {config : NodeConfig} {n : MeshNode} (medium : μ)
      (done : create id config = .ok n) : Reached n ⟨.empty, medium⟩
  | logged {n : MeshNode} {air : Air μ} (reached : Reached n air) : Reached n.withRouteLog air
  | drained {n : MeshNode} {air : Air μ} (reached : Reached n air) :
      Reached { n with routes := n.routes.drainLog.2 } air
  | measured {n : MeshNode} {air : Air μ} (reached : Reached n air) (peer : EtherAddress)
      (now : Time) : Reached (n.linkReport peer now).2 air
  | started {n : MeshNode} {air : Air μ} (reached : Reached n air) :
      Reached (n.start air.sim).1 { air with sim := (n.start air.sim).2 }
  | shutDown {n : MeshNode} {air : Air μ} (reached : Reached n air) :
      Reached (n.shutdown air.sim).1 { air with sim := (n.shutdown air.sim).2 }
  | received {n : MeshNode} {air : Air μ} {frame : Frame} {next : MeshNode × Air μ}
      (reached : Reached n air) (done : n.onFrame frame air = .ok next) : Reached next.1 next.2
  | waited {n : MeshNode} {air : Air μ} {limit : Time} (reached : Reached n air)
      (idle : air.sim.next? (some limit) = none) :
      Reached n { air with sim := { air.sim with now := max air.sim.now limit } }
  | fired {n : MeshNode} {air : Air μ} {limit : Option Time} {item : Scheduled MeshEvent}
      {sim : Simulator MeshEvent} {next : MeshNode × Air μ} (reached : Reached n air)
      (taken : air.sim.next? limit = some (item, sim))
      (done : n.onEvent { air with sim } item.event = .ok next) : Reached next.1 next.2
  | elsewhere {n : MeshNode} {air : Air μ} {sim : Simulator MeshEvent} (medium : μ)
      (reached : Reached n air)
      (spares : air.sim.Spares (fun event => ∃ ip, event = expiryEvent n.id ip) sim) :
      Reached n ⟨sim, medium⟩

theorem create_sound {id : NodeId} {config : NodeConfig} (done : create id config = .ok n) :
    n.Sound .empty := by
  have made := made_of_create done
  obtain rfl := made.number
  exact ⟨DeliveryRates.create_sound made.rates _, Prober.create_sound made.prober _,
    RouteTable.create_sound made.routes, RouteTable.create_node made.routes⟩

theorem Sound.spares (sound : n.Sound sim)
    (spares : sim.Spares (fun event => ∃ ip, event = expiryEvent n.id ip) sim') :
    n.Sound sim' where
  rates := ⟨sound.rates.1, sound.rates.2.spares sound.valid spares⟩
  prober := ⟨sound.prober.belongs, sound.prober.round.spares sound.valid spares,
    sound.prober.probe.spares sound.valid spares⟩
  routes := sound.routes.spares (sound.node ▸ spares)
  node := sound.node

/-- Whatever event begins, a node that has carried it out is sound. -/
theorem Sound.onEvent [LawfulMedium μ] (sound : n.Sound air.sim) {limit : Option Time}
    {item : Scheduled MeshEvent} (taken : air.sim.next? limit = some (item, sim'))
    {next : MeshNode × Air μ} (done : n.onEvent { air with sim := sim' } item.event = .ok next) :
    next.1.Sound next.2.sim := by
  by_cases route : ∃ ip, item.event = expiryEvent n.id ip
  · obtain ⟨ip, event⟩ := route
    obtain ⟨t, after, expired, kept, whole, changes⟩ :=
      sound.routes.onExpiry taken (sound.node ▸ event)
    rw [event, expiryEvent, MeshNode.onEvent, if_pos rfl, MeshNode.onTimer] at done
    simp only [expired] at done
    cases done
    have spares : air.sim.Spares (fun _ => False) sim' := .next? taken False.elim
    have valid := spares.valid sound.valid
    refine ⟨⟨sound.rates.1, ?_⟩, ⟨sound.prober.belongs, ?_, ?_⟩, whole, kept.node.trans sound.node⟩
    · exact (sound.rates.2.spares sound.valid spares).changes valid changes
    · exact (sound.prober.round.spares sound.valid spares).changes valid changes
    · exact (sound.prober.probe.spares sound.valid spares).changes valid changes
  · have kept : n.Sound ({ air with sim := sim' } : Air μ).sim :=
      sound.spares (.next? taken route)
    generalize event : item.event = begins at done
    cases handles_onEvent done with
    | @arrival frame _ done =>
      rcases kept.onFrame_or_refuses frame with ⟨after, taken, whole⟩ | refuses
      · cases done.symm.trans taken
        exact whole
      · rw [kept.onFrame_refused refuses] at done
        cases done
    | @timer kind _ done =>
      have other (ip : IPv4) : kind ≠ .expiry ip := fun same => route ⟨ip, by
        rw [event, same]
        rfl⟩
      obtain ⟨after, carried, whole⟩ := kept.onTimer other
      cases done.symm.trans carried
      exact whole
    | elsewhere => exact kept

/-- Every node that can be reached is sound. -/
theorem Reached.sound [LawfulMedium μ] (reached : Reached n air) : n.Sound air.sim := by
  induction reached with
  | created medium done => exact create_sound done
  | logged _ ih =>
    have routes := ih.routes
    exact ⟨ih.rates, ih.prober, routes.congr rfl rfl routes.advert routes.trigger routes.dump,
      ih.node⟩
  | drained _ ih => exact ih.routed (.of_drainLog ih.routes)
  | measured _ peer now ih => exact ih.linkReport peer now
  | started _ ih => exact ih.start
  | shutDown _ ih => exact ih.shutdown
  | @received n air frame next _ done ih =>
    rcases ih.onFrame_or_refuses frame with ⟨after, taken, whole⟩ | refuses
    · cases done.symm.trans taken
      exact whole
    · rw [ih.onFrame_refused refuses] at done
      cases done
  | waited _ _ ih => exact ih.spares (.wait _ _)
  | fired _ taken done ih => exact ih.onEvent taken done
  | elsewhere _ _ spares ih => exact ih.spares spares

/-- A frame makes a node fail exactly if it is an advert that the route table refuses: a row under
the broadcast address is accepted at its turn. Without that address in the frame, the node takes the
frame in or drops it. -/
theorem frame_fails_iff_refused [LawfulMedium μ] (reached : Reached n air) (frame : Frame) :
    (∀ violation, n.onFrame frame air = .error violation ↔
      violation = .broadcastDestination ∧ n.Refuses frame air) ∧
    ((∀ advert, RouteAdvert.decode frame.payload = .ok advert →
        ∀ e ∈ advert.entries, e.eth.isBroadcast = false) →
      ∃ next, n.onFrame frame air = .ok next) := by
  have sound := reached.sound
  refine ⟨fun violation => ⟨?_, ?_⟩, ?_⟩
  · intro failed
    rcases sound.onFrame_or_refuses frame with ⟨next, done, -⟩ | refuses
    · rw [failed] at done
      cases done
    · rw [sound.onFrame_refused refuses] at failed
      exact ⟨(Except.error.inj failed).symm, refuses⟩
  · rintro ⟨rfl, refuses⟩
    exact sound.onFrame_refused refuses
  · intro unicast
    rcases sound.onFrame_or_refuses frame with ⟨next, done, -⟩ | refuses
    · exact ⟨next, done⟩
    · obtain ⟨-, advert, read, refuses⟩ := refuses
      exact absurd refuses (RouteTable.not_refuses_unicast (unicast advert read))

/-- An advert whose one entry is that of its sender, under the broadcast address. -/
def advertOfAll : Frame :=
  ⟨0, .broadcast, .broadcast, FrameType.advert,
    (RouteAdvert.mk [⟨.ofIndex 4, .broadcast, 2, 0, 0, 60000⟩]).encode⟩

/-- An advert of a neighbour that offers a way to the broadcast address. -/
def advertToAll : Frame :=
  ⟨0, .broadcast, .ofIndex 1, FrameType.advert,
    (RouteAdvert.mk [⟨.ofIndex 1, .ofIndex 1, 2, 0, 0, 60000⟩,
      ⟨.ofIndex 4, .broadcast, 2, 1, 0, 60000⟩]).encode⟩

/-- A new node refuses a way to the broadcast address, and takes in an empty advert. -/
theorem way_to_all_refused :
    ∃ n : MeshNode, create 0 (.ofIndex 0) = .ok n ∧
      n.onFrame advertToAll Mesh.empty = .error .broadcastDestination ∧
      n.Refuses advertToAll Mesh.empty ∧
      ∃ next, n.onFrame { advertToAll with payload := (RouteAdvert.mk []).encode } Mesh.empty =
        .ok next := by
  have created : (create 0 (.ofIndex 0)).isOk = true := by rfl
  have failed : (create 0 (.ofIndex 0)).toOption.map (fun n =>
      (n.onFrame advertToAll Mesh.empty).toOption.isNone) = some true := by rfl
  cases done : create 0 (.ofIndex 0) with
  | error _ =>
    rw [done] at created
    cases created
  | ok n =>
    rw [done] at failed
    have reached : Reached n Mesh.empty := .created Network.empty done
    have fails := frame_fails_iff_refused reached advertToAll
    have survives := frame_fails_iff_refused reached
      { advertToAll with payload := (RouteAdvert.mk []).encode }
    cases outcome : n.onFrame advertToAll Mesh.empty with
    | ok next =>
      simp only [Except.toOption, Option.map_some, outcome] at failed
      cases failed
    | error violation =>
      obtain ⟨rfl, refuses⟩ := (fails.1 violation).mp outcome
      refine ⟨n, rfl, outcome, refuses, survives.2 fun advert read => ?_⟩
      cases read
      exact nofun

/-- A frame with the broadcast address as its source makes a new node fail, though the node's own
address and settings are in order. -/
theorem not_every_frame_survived :
    ¬ ∀ (id : NodeId) (config : NodeConfig) (n : MeshNode) (mesh : Mesh),
      config.eth.isBroadcast = false → create id config = .ok n → Reached n mesh →
      ∀ frame, ∃ next, n.onFrame frame mesh = .ok next := by
  intro survives
  have failed : (create 0 (.ofIndex 0)).toOption.map (fun n =>
      (n.onFrame advertOfAll Mesh.empty).toOption.isNone) = some true := by rfl
  cases done : create 0 (.ofIndex 0) with
  | error _ =>
    rw [done] at failed
    cases failed
  | ok n =>
    rw [done] at failed
    obtain ⟨next, taken⟩ :=
      survives 0 (.ofIndex 0) n Mesh.empty (by decide) done (.created Network.empty done) advertOfAll
    simp only [Except.toOption, Option.map_some, taken] at failed
    cases failed

end MeshNode

end WirelessMesh
