import WirelessMesh.Proofs.Forwarding.Hearing
import WirelessMesh.Proofs.Forwarding.Telling

/-!
Networks of route tables on one clock. Tables advertise at any time, periodically or because
something has changed; adverts arrive in the order in which they were sent, after any delay, or
are lost, all of them where there is no link; the clock moves and routes run out. Main statement:
packets never go round in a circle.
-/
namespace WirelessMesh

/-- The tables of a network with the clock that they share and the frames on their way. -/
structure Fabric (n : Nat) where
  tables : Fin n → RouteTable
  air : Air (Channels n)

variable {n : Nat}

namespace Fabric

/-- One table has acted. -/
def put (f : Fabric n) (i : Fin n) (next : RouteTable × Air (Channels n)) : Fabric n :=
  ⟨Function.update f.tables i next.1, next.2⟩

/-- Whether packets for a destination go from one node to another. -/
def Forwards (f : Fabric n) (d : IPv4) (i j : Fin n) : Prop :=
  ∃ r, (f.tables i).lookup? d f.air.now = some r ∧ r.nextHopIp = (f.tables j).ip

end Fabric

namespace Layout

/-- The networks that can be reached while no table is stopped. -/
inductive Reached (L : Layout n) : Fabric n → Prop
  | created {tables : Fin n → RouteTable} {random : Fin n → RandomSource}
      (done : ∀ i : Fin n, RouteTable.create i (L.ip i) (L.eth i) (L.config i) (random i) =
        .ok (tables i)) : L.Reached ⟨tables, ⟨.empty, {}⟩⟩
  | started {f : Fabric n} (reached : L.Reached f) (i : Fin n) :
      L.Reached (f.put i (((f.tables i).start f.air.sim).1,
        { f.air with sim := ((f.tables i).start f.air.sim).2 }))
  | advertised {f : Fabric n} (reached : L.Reached f) (i : Fin n) :
      L.Reached (f.put i ((f.tables i).onAdvertTimer f.air))
  | triggered {f : Fabric n} (reached : L.Reached f) (i : Fin n) :
      L.Reached (f.put i ((f.tables i).onTriggerTimer f.air))
  | heard {f : Fabric n} {j i : Fin n} {frame : Frame} {rest : List Frame} {advert : RouteAdvert}
      {after : RouteTable.Considered} (reached : L.Reached f)
      (first : f.air.medium.queue j i = frame :: rest)
      (read : RouteAdvert.decode frame.payload = .ok advert)
      (done : (f.tables i).handleAdvert frame.source advert (L.metric i frame.source) f.air.sim =
        .ok after) :
      L.Reached (f.put i (after.table, ⟨after.sim, f.air.medium.leave j i rest⟩))
  | lost {f : Fabric n} {j i : Fin n} {frames : List Frame} (reached : L.Reached f)
      (fewer : frames.Sublist (f.air.medium.queue j i)) :
      L.Reached { f with air := { f.air with medium := f.air.medium.leave j i frames } }
  | waited {f : Fabric n} {limit : Time} (reached : L.Reached f)
      (idle : f.air.sim.next? (some limit) = none) :
      L.Reached { f with air := { f.air with
        sim := { f.air.sim with now := max f.air.sim.now limit } } }
  | fired {f : Fabric n} {i : Fin n} {limit : Option Time} {item : Scheduled MeshEvent}
      {sim : Simulator MeshEvent} {kind : TimerKind} {next : RouteTable × Air (Channels n)}
      (reached : L.Reached f) (taken : f.air.sim.next? limit = some (item, sim))
      (mine : item.event = .timer i kind)
      (done : (f.tables i).onTimer { f.air with sim } kind = .ok next) : L.Reached (f.put i next)

structure Orderly (L : Layout n) (f : Fabric n) : Prop where
  valid : f.air.sim.WellFormed
  timely : f.air.sim.Timely
  sound : ∀ i, (f.tables i).Sound f.air.sim
  flowing : L.Flowing f.air.sim.now f.tables f.air.medium

variable {L : Layout n} {f : Fabric n} {i j : Fin n} {t t' : RouteTable} {sim : Simulator MeshEvent}
  {next : RouteTable × Air (Channels n)}

/-- The events of one node's table are not those of another's. -/
theorem Sited.apart (site : L.Sited i t) (site' : L.Sited j t') (other : j ≠ i) {event : MeshEvent}
    (mine : t.OwnedOrArrival event) : ¬ t'.Owned event := by
  have nodes : t.node ≠ t'.node := by
    rw [site.node, site'.node]
    exact fun same => other (Fin.ext same.symm)
  rcases mine with mine | arrival
  · intro theirs
    rcases mine with (rfl | rfl | rfl) | ⟨ip, rfl⟩ <;>
      rcases theirs with (same | same | same) | ⟨ip', same⟩ <;>
        simp [expiryEvent, nodes] at same
  · exact RouteTable.not_owned_arrival arrival

theorem Orderly.sited (orderly : L.Orderly f) (i : Fin n) : L.Sited i (f.tables i) :=
  orderly.flowing.steady.sited i

theorem Orderly.table_replaced (sited : ∀ k, L.Sited k (f.tables k)) (valid : sim.WellFormed)
    (timely : sim.Timely) (others : ∀ k, k ≠ i → (f.tables k).Sound sim)
    (goes : (f.tables i).Goes sim next.1 next.2.sim)
    (flowing : L.Flowing sim.now (Function.update f.tables i next.1) next.2.medium) :
    L.Orderly (f.put i next) := by
  refine ⟨goes.sound.valid, goes.changes.timely valid timely, ?_, ?_⟩
  · intro k
    show (Function.update f.tables i next.1 k).Sound next.2.sim
    by_cases mine : k = i
    · subst mine
      rw [Function.update_self]
      exact goes.sound
    · rw [Function.update_of_ne mine]
      exact (others k mine).elsewhere goes.changes fun _ owned =>
        (sited i).apart (sited k) mine owned
  · show L.Flowing next.2.sim.now _ _
    rw [goes.changes.now]
    exact flowing

theorem Orderly.act (orderly : L.Orderly f) (goes : (f.tables i).Goes f.air.sim next.1 next.2.sim)
    (flowing : L.Flowing f.air.sim.now (Function.update f.tables i next.1) next.2.medium) :
    L.Orderly (f.put i next) :=
  .table_replaced orderly.sited orderly.valid orderly.timely (fun k _ => orderly.sound k) goes flowing

theorem Orderly.created {tables : Fin n → RouteTable} {random : Fin n → RandomSource}
    (done : ∀ i : Fin n, RouteTable.create i (L.ip i) (L.eth i) (L.config i) (random i) =
      .ok (tables i)) : L.Orderly ⟨tables, ⟨.empty, {}⟩⟩ := by
  have fresh (i : Fin n) := RouteTable.create_eq (done i)
  refine ⟨Simulator.empty_wellFormed, .empty, fun i => RouteTable.create_sound (done i),
    ⟨⟨?_, nofun, ?_⟩, nofun⟩⟩
  · intro i
    show L.Sited i (tables i)
    rw [fresh i]
    exact ⟨rfl, rfl, rfl, rfl, nofun⟩
  · intro d
    have none : routesTo tables d = fun _ => none := funext fun i => by
      rw [routesTo, fresh i]
      rfl
    rw [none]
    exact .empty

theorem Flowing.leave {now : Time} {tables : Fin n → RouteTable} {c : Channels n}
    {frames : List Frame} (flowing : L.Flowing now tables c)
    (steady : L.Steady now tables (c.leave j i frames).entries)
    (fewer : frames.Sublist (c.queue j i)) : L.Flowing now tables (c.leave j i frames) := by
  refine ⟨steady, ?_⟩
  intro a b frame member
  simp only [Channels.leave] at member
  split at member
  · next same =>
    obtain ⟨rfl, rfl⟩ := same
    exact flowing.source a b frame (fewer.subset member)
  · exact flowing.source a b frame member

theorem entries_leave (c : Channels n) (j i : Fin n) (frames : List Frame) :
    (c.leave j i frames).entries =
      Steady.rerouted c.entries j i (frames.flatMap Frame.advertised) := by
  funext a b
  simp only [Channels.entries, Channels.leave, Steady.rerouted]
  split <;> rfl

theorem Orderly.lost (orderly : L.Orderly f) {frames : List Frame}
    (fewer : frames.Sublist (f.air.medium.queue j i)) :
    L.Orderly { f with air := { f.air with medium := f.air.medium.leave j i frames } } := by
  have steady : L.Steady f.air.sim.now f.tables (f.air.medium.leave j i frames).entries := by
    rw [entries_leave]
    refine orderly.flowing.steady.entries_shrunk (Steady.rerouted_sublist ?_)
    exact fewer.flatMap _
  exact ⟨orderly.valid, orderly.timely, orderly.sound, orderly.flowing.leave steady fewer⟩

/-- The first advert on a channel arrives and is taken in. -/
theorem Orderly.heard (orderly : L.Orderly f) {frame : Frame} {rest : List Frame}
    {advert : RouteAdvert} (first : f.air.medium.queue j i = frame :: rest)
    (read : RouteAdvert.decode frame.payload = .ok advert) :
    ∃ after, (f.tables i).handleAdvert frame.source advert (L.metric i frame.source) f.air.sim =
        .ok after ∧
      L.Orderly (f.put i (after.table, ⟨after.sim, f.air.medium.leave j i rest⟩)) := by
  have steady := orderly.flowing.steady
  have source : frame.source = L.eth j :=
    orderly.flowing.source j i frame (first ▸ List.mem_cons_self)
  have next : f.air.medium.entries j i = advert.entries ++ rest.flatMap Frame.advertised := by
    rw [Channels.entries, first, List.flatMap_cons, Frame.advertised, read]
  have unicast : ∀ e ∈ advert.entries, e.eth.isBroadcast = false := by
    intro e member
    obtain ⟨⟨k, -, same⟩, -⟩ := steady.sent j i e (next ▸ List.mem_append_left _ member)
    exact same ▸ L.unicast k
  rw [source]
  obtain ⟨after, done, kept, sound, changes⟩ :=
    (orderly.sound i).handleAdvert (L.metric i (L.eth j)) unicast
  have taken := steady.handleAdvert next done
  refine ⟨after, done, orderly.act
    ⟨kept.node, kept.ip, kept.eth, kept.config, sound, changes.mono fun _ => .inl⟩
    ⟨?_, (orderly.flowing.leave ?_ (first ▸ List.sublist_cons_self frame rest)).source⟩⟩
  · rw [entries_leave]
    exact taken
  · rw [entries_leave]
    exact steady.entries_shrunk (Steady.rerouted_sublist (next ▸ List.sublist_append_right _ _))

theorem Flowing.later {now now' : Time} {tables : Fin n → RouteTable} {c : Channels n}
    (flowing : L.Flowing now tables c) (later : now ≤ now') : L.Flowing now' tables c :=
  ⟨flowing.steady.later later, flowing.source⟩

theorem Orderly.waited (orderly : L.Orderly f) {limit : Time}
    (idle : f.air.sim.next? (some limit) = none) :
    L.Orderly { f with air := { f.air with
      sim := { f.air.sim with now := max f.air.sim.now limit } } } := by
  have later : f.air.sim.now ≤ max f.air.sim.now limit := by
    rw [Time.le_def, Time.ns_max]
    exact Nat.le_max_left _ _
  have spares : f.air.sim.Spares (fun _ => False)
      { f.air.sim with now := max f.air.sim.now limit } := .wait _ _
  exact ⟨spares.valid orderly.valid, orderly.timely.wait orderly.valid idle,
    fun i => (orderly.sound i).spares (.wait _ _), orderly.flowing.later later⟩

/-- An event begins, and the table that it is for carries it out. -/
theorem Orderly.fired (orderly : L.Orderly f) {limit : Option Time} {item : Scheduled MeshEvent}
    {kind : TimerKind} (taken : f.air.sim.next? limit = some (item, sim))
    (mine : item.event = .timer i kind) :
    ∃ next, (f.tables i).onTimer { f.air with sim } kind = .ok next ∧ L.Orderly (f.put i next) := by
  have valid := orderly.valid.next? taken
  obtain ⟨timely, later⟩ := orderly.timely.next? orderly.valid taken
  have flowing := orderly.flowing.later later
  have node := (orderly.sited i).node
  have spared {k : Fin n} (foreign : ∀ ip, item.event ≠ expiryEvent (f.tables k).node ip) :
      (f.tables k).Sound sim :=
    (orderly.sound k).spares (.next? taken fun ⟨ip, same⟩ => foreign ip same)
  have others : ∀ k, k ≠ i → (f.tables k).Sound sim := by
    intro k other
    apply spared
    intro ip same
    apply other
    apply Fin.ext
    rw [mine, (orderly.sited k).node] at same
    exact (MeshEvent.timer.inj same).1.symm
  by_cases route : ∃ ip, kind = .expiry ip
  · obtain ⟨ip, rfl⟩ := route
    have event : item.event = expiryEvent (f.tables i).node ip := by
      rw [mine, node]
      rfl
    obtain ⟨t', after, expired, kept, sound, changes⟩ := (orderly.sound i).onExpiry taken event
    obtain ⟨ρ, present, good, held, fired, without⟩ := (orderly.sound i).fired taken event
    have keyed := ((orderly.sound i).routes ip ρ present).keyed
    have row : (f.tables i).onExpiry ip sim = (f.tables i).expireRow ρ sim :=
      RouteTable.onExpiry_eq present good held fired
    have done : (f.tables i).onTimer { f.air with sim } (.expiry ip) =
        .ok (t', { f.air with sim := after }) := by
      rw [RouteTable.onTimer, expired]
      rfl
    rw [row] at expired
    subst keyed
    exact ⟨_, done, .table_replaced orderly.sited valid timely others
      ⟨kept.node, kept.ip, kept.eth, kept.config, sound, changes.mono fun _ => .inl⟩
      ⟨flowing.steady.expireRow present good without expired, flowing.source⟩⟩
  · have other : ∀ ip, kind ≠ .expiry ip := not_exists.mp route
    have sound : (f.tables i).Sound sim := spared fun ip same => by
      rw [mine] at same
      exact other ip (MeshEvent.timer.inj same).2
    have moved : (f.tables i).Sound ({ f.air with sim } : Air (Channels n)).sim := sound
    obtain ⟨next, done, goes⟩ := moved.onTimer other
    have after : L.Flowing sim.now (Function.update f.tables i next.1) next.2.medium :=
      flowing.onTimer rfl other done
    exact ⟨next, done, .table_replaced orderly.sited valid timely others goes after⟩

/-- Every network that can be reached is orderly. -/
theorem Reached.orderly (reached : L.Reached f) : L.Orderly f := by
  induction reached with
  | created done => exact .created done
  | started _ i ih => exact ih.act (ih.sound i).start (ih.flowing.start rfl _)
  | advertised _ i ih => exact ih.act (ih.sound i).onAdvertTimer (ih.flowing.onAdvertTimer rfl)
  | triggered _ i ih => exact ih.act (ih.sound i).onTriggerTimer (ih.flowing.sendAdvert rfl)
  | heard _ first read done ih =>
    obtain ⟨after, done', orderly⟩ := ih.heard first read
    cases done.symm.trans done'
    exact orderly
  | lost _ fewer ih => exact ih.lost fewer
  | waited _ idle ih => exact ih.waited idle
  | fired _ taken mine done ih =>
    obtain ⟨next, done', orderly⟩ := ih.fired taken mine
    cases done.symm.trans done'
    exact orderly

/-- Where a node stands that can send packets for a destination on their way; at the top if it
cannot. -/
def height (f : Fabric n) (d : IPv4) (i : Fin n) : WithTop Standing :=
  ((f.tables i).lookup? d f.air.now).elim ⊤ fun r => (r.standing : WithTop Standing)

private theorem lookup?_some {now : Time} {d : IPv4} {r : RouteRow} (found : t.lookup? d now = some r) :
    ∃ ρ, t.routes.get? d = some ρ ∧ t.served now ρ = r ∧ r.isGood = true := by
  obtain ⟨served, good⟩ := Option.filter_eq_some_iff.mp found
  obtain ⟨ρ, present, rfl⟩ := Option.map_eq_some_iff.mp served
  exact ⟨ρ, present, rfl, good⟩

private theorem Orderly.height_lt (orderly : L.Orderly f) {d : IPv4} (forwards : f.Forwards d i j) :
    height f d i < height f d j := by
  obtain ⟨r, found, via⟩ := forwards
  obtain ⟨ρ, present, served, good⟩ := lookup?_some found
  have ordered := orderly.flowing.steady.ordered d
  have member : r ∈ ρ.rows := served ▸ ρ.served_mem _
  rw [(orderly.sited j).ip] at via
  rw [height, found, height]
  cases onward : (f.tables j).lookup? d f.air.now with
  | none => exact WithTop.coe_lt_top _
  | some r' =>
    obtain ⟨ρ', present', rfl, good'⟩ := lookup?_some onward
    have far : L.ip j ≠ d := ((orderly.sited j).known d ρ' present').1.symm
    have floor := (ordered.regular j ρ' present').served_eq_floor good'
    have lt := ordered.forwards present member good via present' far
    rw [Option.elim_some, Option.elim_some, WithTop.coe_lt_coe, floor, (orderly.sited j).config]
    exact lt

/-- Whoever follows the way of packets for a destination visits no node twice. -/
theorem routes_loop_free (reached : L.Reached f) (d : IPv4) (path : List (Fin n))
    (chain : path.IsChain (f.Forwards d)) : path.Nodup := by
  have orderly := reached.orderly
  have rising : path.IsChain fun i j => height f d i < height f d j :=
    chain.imp fun _ _ forwards => orderly.height_lt forwards
  refine (List.isChain_iff_pairwise.mp rising).imp fun lt same => ?_
  rw [same] at lt
  exact lt_irrefl _ lt

def three : Layout 3 where
  ip i := .ofIndex i
  eth i := .ofIndex i
  config _ := {}
  metric _ _ := .good 10
  ip_injective := three_ips
  eth_injective := three_eths
  unicast := by decide
  keepsBroken _ := rfl
  step _ _ _ same := by cases same; decide

def threeTables (i : Fin 3) : RouteTable :=
  ⟨i, three.ip i, three.eth i, {}, 0, .empty, .ofSeed 1, none, none, none, none, none⟩

/-- The last of three nodes is heard by the second, and the second by the first: packets go along
the line. -/
theorem line_of_three_loop_free :
    ∃ f, three.Reached f ∧ f.Forwards (three.ip 2) 0 1 ∧ f.Forwards (three.ip 2) 1 2 ∧
      [(0 : Fin 3), 1, 2].Nodup := by
  have created : three.Reached ⟨threeTables, ⟨.empty, {}⟩⟩ :=
    .created fun i => (rfl : RouteTable.create i _ _ {} (.ofSeed 1) = .ok (threeTables i))
  have near := (created.advertised 2).heard (j := 2) (i := 1) rfl rfl rfl
  have far := (near.triggered 1).heard (j := 1) (i := 0) rfl rfl rfl
  refine ⟨_, far, ⟨_, rfl, rfl⟩, ⟨_, rfl, rfl⟩, routes_loop_free far (three.ip 2) [0, 1, 2] ?_⟩
  exact .cons_cons ⟨_, rfl, rfl⟩ (.cons_cons ⟨_, rfl, rfl⟩ (.singleton 2))

end Layout

end WirelessMesh
