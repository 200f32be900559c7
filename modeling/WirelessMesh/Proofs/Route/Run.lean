import WirelessMesh.Proofs.Route.Refusal
import WirelessMesh.Proofs.Route.Timers
import WirelessMesh.Proofs.Simulation.Holding

/-!
A route table in use: created, started and stopped, handed adverts, with timers that fire in the
order of the simulator, while others use the same simulator. Main statement: whatever happens, no
check ever fails, and the timers of routes are those of the usable rows, one for each.
-/
namespace WirelessMesh

namespace RouteTable

variable {μ : Type} [Medium μ]

/-- What a table does when one of its timers fires. -/
def onTimer (t : RouteTable) (air : Air μ) : TimerKind → Except RouteViolation (RouteTable × Air μ)
  | .advert => .ok (t.onAdvertTimer air)
  | .trigger => .ok (t.onTriggerTimer air)
  | .routeDump => .ok ((t.onDumpTimer air.sim).1, { air with sim := (t.onDumpTimer air.sim).2 })
  | .expiry ip => (t.onExpiry ip air.sim).map fun (t, sim) => (t, { air with sim })
  | .discovery | .probeRound | .probeNext => .ok (t, air)

/-- What a table does when an event begins: only its own timers concern it. -/
def onEvent (t : RouteTable) (air : Air μ) (event : MeshEvent) :
    Except RouteViolation (RouteTable × Air μ) :=
  match event with
  | .arrival _ _ => .ok (t, air)
  | .timer node kind => if node = t.node then t.onTimer air kind else .ok (t, air)

/-- What an event makes of a table: a timer of its node fires, or the table has no part in it. -/
inductive Handles (t : RouteTable) (air : Air μ) : MeshEvent → RouteTable × Air μ → Prop
  | timer {kind : TimerKind} {next : RouteTable × Air μ} (done : t.onTimer air kind = .ok next) :
      Handles t air (.timer t.node kind) next
  | elsewhere {event : MeshEvent} (other : ∀ kind, event ≠ .timer t.node kind) :
      Handles t air event (t, air)

theorem handles_onEvent {t : RouteTable} {air : Air μ} {event : MeshEvent}
    {next : RouteTable × Air μ} (done : t.onEvent air event = .ok next) : t.Handles air event next := by
  cases event with
  | arrival node frame =>
    cases done
    exact .elsewhere nofun
  | timer node kind =>
    simp only [onEvent] at done
    split at done
    · next mine =>
      rw [mine]
      exact .timer done
    · next other =>
      cases done
      exact .elsewhere fun _ same => other (MeshEvent.timer.inj same).1

/-- The tables that can be reached, with the medium and the simulator that they are on. Others may
use the simulator as they like, except for the timers of this table's routes. -/
inductive Reached : RouteTable → Air μ → Prop
  | created {node : NodeId} {ip : IPv4} {eth : EtherAddress} {config : RoutingConfig}
      {random : RandomSource} {t : RouteTable} (medium : μ)
      (done : create node ip eth config random = .ok t) : Reached t ⟨.empty, medium⟩
  | logged {t : RouteTable} {air : Air μ} (reached : Reached t air) (log : RouteLog) :
      Reached (t.setLog log) air
  | drained {t : RouteTable} {air : Air μ} (reached : Reached t air) : Reached t.drainLog.2 air
  | heard {t : RouteTable} {air : Air μ} {sender : EtherAddress} {advert : RouteAdvert}
      {link : Metric} {after : Considered} (reached : Reached t air)
      (unicast : ∀ e ∈ advert.entries, e.eth.isBroadcast = false)
      (done : t.handleAdvert sender advert link air.sim = .ok after) :
      Reached after.table { air with sim := after.sim }
  | started {t : RouteTable} {air : Air μ} (reached : Reached t air) :
      Reached (t.start air.sim).1 { air with sim := (t.start air.sim).2 }
  | stopped {t : RouteTable} {air : Air μ} (reached : Reached t air) :
      Reached (t.stop air.sim).1 { air with sim := (t.stop air.sim).2 }
  | advertised {t : RouteTable} {air : Air μ} (reached : Reached t air) :
      Reached (t.onAdvertTimer air).1 (t.onAdvertTimer air).2
  | triggered {t : RouteTable} {air : Air μ} (reached : Reached t air) :
      Reached (t.onTriggerTimer air).1 (t.onTriggerTimer air).2
  | dumped {t : RouteTable} {air : Air μ} (reached : Reached t air) :
      Reached (t.onDumpTimer air.sim).1 { air with sim := (t.onDumpTimer air.sim).2 }
  | waited {t : RouteTable} {air : Air μ} {limit : Time} (reached : Reached t air)
      (idle : air.sim.next? (some limit) = none) :
      Reached t { air with sim := { air.sim with now := max air.sim.now limit } }
  | fired {t : RouteTable} {air : Air μ} {limit : Option Time} {item : Scheduled MeshEvent}
      {sim : Simulator MeshEvent} {next : RouteTable × Air μ} (reached : Reached t air)
      (taken : air.sim.next? limit = some (item, sim))
      (done : t.onEvent { air with sim } item.event = .ok next) : Reached next.1 next.2
  | elsewhere {t : RouteTable} {air : Air μ} {sim : Simulator MeshEvent} (medium : μ)
      (reached : Reached t air)
      (spares : air.sim.Spares (fun event => ∃ ip, event = expiryEvent t.node ip) sim) :
      Reached t ⟨sim, medium⟩

variable {t : RouteTable} {sim sim' : Simulator MeshEvent} {air : Air μ}

/-- A timer that stands for no route leaves a table sound. -/
theorem Sound.onTimer [LawfulMedium μ] (sound : t.Sound air.sim) {kind : TimerKind}
    (other : ∀ ip, kind ≠ .expiry ip) :
    ∃ next, t.onTimer air kind = .ok next ∧ t.Goes air.sim next.1 next.2.sim := by
  cases kind with
  | advert => exact ⟨_, rfl, sound.onAdvertTimer⟩
  | trigger => exact ⟨_, rfl, sound.onTriggerTimer⟩
  | routeDump => exact ⟨_, rfl, sound.onDumpTimer⟩
  | expiry ip => exact absurd rfl (other ip)
  | discovery => exact ⟨_, rfl, .refl sound⟩
  | probeRound => exact ⟨_, rfl, .refl sound⟩
  | probeNext => exact ⟨_, rfl, .refl sound⟩

/-- A sound table carries out whatever event begins, and is sound after it. -/
theorem Sound.onEvent [LawfulMedium μ] (sound : t.Sound air.sim) {limit : Option Time}
    {item : Scheduled MeshEvent} (taken : air.sim.next? limit = some (item, sim')) :
    ∃ next, t.onEvent { air with sim := sim' } item.event = .ok next ∧ next.1.Sound next.2.sim := by
  -- An event of a route takes the route with it, so the table is sound only when that is done.
  by_cases route : ∃ ip, item.event = expiryEvent t.node ip
  · obtain ⟨ip, event⟩ := route
    obtain ⟨t', after, done, -, sound', -⟩ := sound.onExpiry taken event
    refine ⟨(t', { air with sim := after }), ?_, sound'⟩
    simp only [event, expiryEvent, RouteTable.onEvent, if_true, RouteTable.onTimer, done]
    rfl
  · have kept : t.Sound ({ air with sim := sim' } : Air μ).sim :=
      sound.spares (.next? taken route)
    cases event : item.event with
    | arrival node frame => exact ⟨_, rfl, kept⟩
    | timer node kind =>
      simp only [RouteTable.onEvent]
      split
      · next mine =>
        have other : ∀ ip, kind ≠ .expiry ip := fun ip same => route ⟨ip, by
          rw [event, mine, same]
          rfl⟩
        obtain ⟨next, done, goes⟩ := kept.onTimer other
        exact ⟨next, done, goes.sound⟩
      · exact ⟨_, rfl, kept⟩

/-- Every table that can be reached is sound. -/
theorem Reached.sound [LawfulMedium μ] (reached : Reached t air) : t.Sound air.sim := by
  induction reached with
  | created medium done => exact create_sound done
  | logged _ log ih => exact ih.congr rfl rfl ih.advert ih.trigger ih.dump
  | drained _ ih => exact (Goes.of_drainLog ih).sound
  | heard _ unicast done ih =>
    obtain ⟨after, done', -, sound, -⟩ := ih.handleAdvert _ unicast
    cases done.symm.trans done'
    exact sound
  | started _ ih => exact ih.start.sound
  | stopped _ ih => exact ih.stop.sound
  | advertised _ ih => exact ih.onAdvertTimer.sound
  | triggered _ ih => exact ih.onTriggerTimer.sound
  | dumped _ ih => exact ih.onDumpTimer.sound
  | waited _ _ ih => exact ih.spares (.wait _ _)
  | fired _ taken done ih =>
    obtain ⟨next, done', sound⟩ := ih.onEvent taken
    cases done.symm.trans done'
    exact sound
  | elsewhere _ _ spares ih => exact ih.spares spares

private theorem Sound.armedDestinations_eq (sound : t.Sound sim) :
    t.armedDestinations sim = t.goodDestinations := by
  unfold armedDestinations goodDestinations
  congr 1
  apply List.filter_congr
  intro entry member
  exact sound.isArmed_eq (Directory.get?_eq_some_iff.mpr member)

private theorem mem_goodDestinations {ip : IPv4} : ip ∈ t.goodDestinations ↔
    ∃ route, t.routes.get? ip = some route ∧ route.row.isGood = true := by
  simp only [goodDestinations, List.mem_map, List.mem_filter, Directory.get?_eq_some_iff]
  constructor
  · rintro ⟨⟨_, route⟩, ⟨member, good⟩, rfl⟩
    exact ⟨route, member, good⟩
  · rintro ⟨route, member, good⟩
    exact ⟨(ip, route), ⟨member, good⟩, rfl⟩

/-- A usable row has one event that ends it, and a destination without one has none. -/
theorem Sound.count_expiry (sound : t.Sound sim) (ip : IPv4) :
    sim.live.countP (fun x => x.event = expiryEvent t.node ip) =
      if ip ∈ t.goodDestinations then 1 else 0 := by
  split
  · next good =>
    obtain ⟨route, found, usable⟩ := mem_goodDestinations.mp good
    obtain ⟨timer, held, x, member, number, event⟩ := (sound.routes ip route found).armed usable
    have distinct : sim.live.Nodup := .of_map _ sound.valid.live_ids_nodup
    apply countP_eq_one distinct member
    intro y live
    rw [decide_eq_true_eq]
    refine ⟨fun same => ?_, fun same => same ▸ event⟩
    obtain ⟨route', timer', found', held', number'⟩ := sound.held y live ip same
    cases found.symm.trans found'
    cases held.symm.trans held'
    exact sound.valid.live_unique live member (number'.symm.trans number.symm)
  · next bad =>
    refine List.countP_eq_zero.mpr fun x member hit => bad ?_
    obtain ⟨route, timer, found, held, -⟩ := sound.held x member ip (of_decide_eq_true hit)
    refine mem_goodDestinations.mpr ⟨route, found, ?_⟩
    by_contra idle
    have gone := (sound.routes ip route found).idle (Bool.eq_false_iff.mpr idle)
    rw [held] at gone
    cases gone

/-- In every state that can be reached all checks pass, exactly the usable rows have a timer, each
one event, rows stand under their own destination and old rows are older; and whatever comes next,
an advert without the broadcast address or the next event, is carried out without a violation. -/
theorem timers_match_usable_routes [LawfulMedium μ] (reached : Reached t air) :
    t.check air.sim = .ok () ∧
      t.armedDestinations air.sim = t.goodDestinations ∧
      (∀ ip, air.sim.live.countP (fun x => x.event = expiryEvent t.node ip) =
        if ip ∈ t.goodDestinations then 1 else 0) ∧
      (∀ ip row, t.row? ip = some row → row.ip = ip ∧ row.check = .ok ()) ∧
      (∀ ip row old, t.row? ip = some row → t.old? ip = some old → old.seq < row.seq) ∧
      (∀ sender advert link, (∀ e ∈ advert.entries, e.eth.isBroadcast = false) →
        ∃ after, t.handleAdvert sender advert link air.sim = .ok after) ∧
      ∀ limit item sim, air.sim.next? limit = some (item, sim) →
        ∃ next, t.onEvent { air with sim } item.event = .ok next := by
  have sound := reached.sound
  refine ⟨sound.check, sound.armedDestinations_eq, sound.count_expiry, ?_, ?_, ?_, ?_⟩
  · intro ip row present
    obtain ⟨route, found, rfl⟩ := Option.map_eq_some_iff.mp present
    exact ⟨(sound.routes ip route found).keyed, (sound.routes ip route found).row⟩
  · intro ip row old present kept
    obtain ⟨route, found, rfl⟩ := Option.map_eq_some_iff.mp present
    rw [old?, found] at kept
    exact ((sound.routes ip route found).older old kept).2.2
  · intro sender advert link unicast
    obtain ⟨after, done, -⟩ := sound.handleAdvert link unicast
    exact ⟨after, done⟩
  · intro limit item sim taken
    obtain ⟨next, done, -⟩ := sound.onEvent taken
    exact ⟨next, done⟩

/-- A neighbour and a destination behind it, heard of in one advert: both routes have their timer. -/
theorem heard_routes_have_timers :
    ∃ (t : RouteTable) (air : Air Transcript), Reached t air ∧
      t.goodDestinations = [.ofIndex 1, .ofIndex 2] ∧ t.check air.sim = .ok () ∧
      t.armedDestinations air.sim = t.goodDestinations := by
  let fresh : RouteTable := ⟨0, .ofIndex 0, .ofIndex 0, {}, 0, .empty, .ofSeed 1, none, none, none,
    none, none⟩
  let advert : RouteAdvert :=
    ⟨[⟨.ofIndex 1, .ofIndex 1, 2, 0, 0, 60000⟩, ⟨.ofIndex 2, .ofIndex 2, 4, 1, 1, 60000⟩]⟩
  have created : Reached fresh ⟨.empty, (⟨[], 0⟩ : Transcript)⟩ :=
    .created _ (rfl : create 0 (.ofIndex 0) (.ofIndex 0) {} (.ofSeed 1) = .ok fresh)
  have unicast : ∀ e ∈ advert.entries, e.eth.isBroadcast = false := by decide
  have good : (fresh.handleAdvert (.ofIndex 1) advert (.good 10) .empty).map
      (·.table.goodDestinations) = .ok [.ofIndex 1, .ofIndex 2] := by decide
  obtain ⟨after, done⟩ := (timers_match_usable_routes created).2.2.2.2.2.1 (.ofIndex 1) advert
    (.good 10) unicast
  have heard := created.heard unicast done
  obtain ⟨checked, armed, -⟩ := timers_match_usable_routes heard
  refine ⟨after.table, _, heard, ?_, checked, armed⟩
  have done' : fresh.handleAdvert (.ofIndex 1) advert (.good 10) .empty = .ok after := done
  rw [done'] at good
  exact Except.ok.inj good

end RouteTable

end WirelessMesh
