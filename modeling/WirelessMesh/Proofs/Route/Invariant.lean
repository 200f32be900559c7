import WirelessMesh.Proofs.Route.Writing

/-!
What a route table and the simulator keep true of each other between any two events, and that
writing rows keeps it. A row that runs out breaks this for one destination; the table without that
destination is then the one to look at.
-/
namespace WirelessMesh

/-- The event that ends the route of a node to a destination. -/
def expiryEvent (node : NodeId) (ip : IPv4) : MeshEvent := .timer node (.expiry ip)

theorem expiryEvent_inj {node : NodeId} {ip d : IPv4} :
    expiryEvent node ip = expiryEvent node d ↔ ip = d := by
  simp [expiryEvent]

/-- What is true of a route: its row and the old one are sound and in order, and a timer stands for
it exactly if it is usable. -/
structure Route.Sound (route : Route) (node : NodeId) (ip : IPv4) (sim : Simulator MeshEvent) :
    Prop where
  keyed : route.row.ip = ip
  row : route.row.check = .ok ()
  armed : route.row.isGood = true → ∃ timer, route.expiry = some timer ∧
    ∃ x ∈ sim.live, x.id = timer.id ∧ x.event = expiryEvent node ip
  idle : route.row.isGood = false → route.expiry = none
  older : ∀ old, route.old = some old →
    old.ip = ip ∧ old.check = .ok () ∧ old.seq < route.row.seq

private theorem forM_eq_ok_iff {α : Type} {check : α → Except RouteViolation Unit} {l : List α} :
    l.forM check = .ok () ↔ ∀ x ∈ l, check x = .ok () := by
  induction l with
  | nil => exact ⟨fun _ => nofun, fun _ => rfl⟩
  | cons x rest ih =>
    show (check x >>= fun _ => rest.forM check) = .ok () ↔ _
    rw [List.forall_mem_cons, ← ih]
    cases check x with
    | error _ => simp [bind, Except.bind]
    | ok _ => simp [bind, Except.bind]

namespace Route

variable {route : Route} {sim : Simulator MeshEvent}

theorem check_eq_ok_iff : route.check sim = .ok () ↔ route.row.check = .ok () ∧
    (route.row.isGood = true → route.expiry.isArmed sim = true) ∧
    (route.row.isGood = false → route.expiry = none) := by
  unfold check
  cases route.row.check with
  | error _ => simp [bind, Except.bind]
  | ok _ =>
    cases route.row.isGood with
    | true => simp [bind, Except.bind]
    | false => cases route.expiry <;> simp [bind, Except.bind]

theorem checkOld_eq_ok_iff :
    route.checkOld = .ok () ↔ ∀ old, route.old = some old → old.seq < route.row.seq := by
  unfold checkOld
  cases route.old with
  | none => simp
  | some old => simp

end Route

namespace RouteTable

/-- The events of the timers of a table that stand for no route. -/
def Scheduling (t : RouteTable) (event : MeshEvent) : Prop :=
  event = .timer t.node .advert ∨ event = .timer t.node .trigger ∨ event = .timer t.node .routeDump

/-- The events of a route table: those of the timers that it sets. -/
def Owned (t : RouteTable) (event : MeshEvent) : Prop :=
  t.Scheduling event ∨ ∃ ip, event = expiryEvent t.node ip

/-- Every route is sound, no event stands for a route that is not there, and the other timers are
the table's own. -/
structure Sound (t : RouteTable) (sim : Simulator MeshEvent) : Prop where
  valid : sim.WellFormed
  routes : ∀ ip route, t.routes.get? ip = some route → route.Sound t.node ip sim
  held : ∀ x ∈ sim.live, ∀ ip, x.event = expiryEvent t.node ip →
    ∃ route timer, t.routes.get? ip = some route ∧ route.expiry = some timer ∧ timer.id = x.id
  advert : t.advertTimer.Owns sim (.timer t.node .advert)
  trigger : t.triggerTimer.Owns sim (.timer t.node .trigger)
  dump : t.dumpTimer.Owns sim (.timer t.node .routeDump)

variable {t t' : RouteTable} {sim sim' : Simulator MeshEvent} {ip : IPv4} {route : Route}

theorem owned_expiry (t : RouteTable) (ip : IPv4) : t.Owned (expiryEvent t.node ip) :=
  .inr ⟨ip, rfl⟩

private theorem Scheduling.not_expiry {event : MeshEvent} (mine : t.Scheduling event) (ip : IPv4) :
    event ≠ expiryEvent t.node ip := by
  rcases mine with rfl | rfl | rfl <;> simp [expiryEvent]

theorem owned_congr (node : t'.node = t.node) : t'.Owned = t.Owned := by
  funext event
  simp only [Owned, Scheduling, node]

namespace Sound

/-- A table with the same routes is sound if its other timers are its own. -/
theorem congr (sound : t.Sound sim) (node : t'.node = t.node) (routes : t'.routes = t.routes)
    (advert : t'.advertTimer.Owns sim (.timer t.node .advert))
    (trigger : t'.triggerTimer.Owns sim (.timer t.node .trigger))
    (dump : t'.dumpTimer.Owns sim (.timer t.node .routeDump)) : t'.Sound sim := by
  refine ⟨sound.valid, ?_, ?_, node ▸ advert, node ▸ trigger, node ▸ dump⟩
  · rw [node, routes]
    exact sound.routes
  · rw [node, routes]
    exact sound.held

/-- What does not touch the timers of routes leaves a table sound. -/
theorem spares (sound : t.Sound sim)
    (spares : sim.Spares (fun event => ∃ ip, event = expiryEvent t.node ip) sim') :
    t.Sound sim' where
  valid := spares.valid sound.valid
  routes ip route present := by
    obtain ⟨keyed, row, armed, idle, older⟩ := sound.routes ip route present
    refine ⟨keyed, row, fun good => ?_, idle, older⟩
    obtain ⟨timer, held, x, member, same, event⟩ := armed good
    exact ⟨timer, held, x, (spares.same sound.valid x ⟨ip, event⟩).mpr member, same, event⟩
  held x member ip event :=
    sound.held x ((spares.same sound.valid x ⟨ip, event⟩).mp member) ip event
  advert := sound.advert.spares sound.valid spares
  trigger := sound.trigger.spares sound.valid spares
  dump := sound.dump.spares sound.valid spares

/-- Work on the timers that stand for no route leaves a table sound. -/
theorem scheduling (sound : t.Sound sim) (changes : sim.Changes t.Scheduling sim') :
    t.Sound sim' :=
  sound.spares (changes.spares fun _ mine route => by
    obtain ⟨ip, same⟩ := route
    exact mine.not_expiry ip same)

theorem owns_expiry (sound : t.Sound sim) (present : t.routes.get? ip = some route) :
    route.expiry.Owns sim (expiryEvent t.node ip) := by
  intro timer held
  have whole := sound.routes ip route present
  cases good : route.row.isGood with
  | false =>
    rw [whole.idle good] at held
    cases held
  | true =>
    obtain ⟨other, same, x, member, number, event⟩ := whole.armed good
    obtain rfl := Option.some.inj (same.symm.trans held)
    refine ⟨number ▸ sound.valid.live_given member, fun y live twin => ?_⟩
    rw [sound.valid.live_unique live member (twin.trans number.symm)]
    exact event

/-- A usable row has a timer that is still to fire, another row has none. -/
theorem isArmed_eq (sound : t.Sound sim) (present : t.routes.get? ip = some route) :
    route.expiry.isArmed sim = route.row.isGood := by
  have whole := sound.routes ip route present
  cases good : route.row.isGood with
  | false => rw [whole.idle good]; rfl
  | true =>
    obtain ⟨timer, held, x, member, number, -⟩ := whole.armed good
    rw [held]
    exact sound.valid.isPending_iff.mpr ⟨x, member, number⟩

theorem mem_values {route : Route} (member : route ∈ t.routes.values) :
    ∃ ip, t.routes.get? ip = some route := by
  obtain ⟨⟨ip, _⟩, entry, rfl⟩ := List.mem_map.mp member
  exact ⟨ip, Directory.get?_eq_some_iff.mpr entry⟩

end Sound

theorem value_of_get? (present : t.routes.get? ip = some route) : route ∈ t.routes.values :=
  List.mem_map.mpr ⟨(ip, route), Directory.get?_eq_some_iff.mp present, rfl⟩

theorem check_eq_ok_iff : t.check sim = .ok () ↔ ∀ ip route, t.routes.get? ip = some route →
    route.check sim = .ok () ∧ route.checkOld = .ok () := by
  have both : t.check sim = .ok () ↔ t.routes.values.forM (·.check sim) = .ok () ∧
      t.routes.values.forM (·.checkOld) = .ok () := by
    unfold RouteTable.check
    cases t.routes.values.forM (·.check sim) with
    | error _ => simp [bind, Except.bind]
    | ok _ => simp [bind, Except.bind]
  rw [both, forM_eq_ok_iff, forM_eq_ok_iff]
  constructor
  · rintro ⟨rows, older⟩ ip route present
    have value := value_of_get? present
    exact ⟨rows route value, older route value⟩
  · intro each
    constructor
    · intro route value
      obtain ⟨ip, present⟩ := Sound.mem_values value
      exact (each ip route present).1
    · intro route value
      obtain ⟨ip, present⟩ := Sound.mem_values value
      exact (each ip route present).2

namespace Sound

/-- A sound table passes every check. -/
theorem check (sound : t.Sound sim) : t.check sim = .ok () := by
  refine check_eq_ok_iff.mpr fun ip route present => ⟨?_, ?_⟩
  · have whole := sound.routes ip route present
    have armed := sound.isArmed_eq present
    exact Route.check_eq_ok_iff.mpr ⟨whole.row, armed.trans, whole.idle⟩
  · have older := (sound.routes ip route present).older
    exact Route.checkOld_eq_ok_iff.mpr fun old kept => (older old kept).2.2

/-- Work on a table that leaves a destination as it is leaves its deadline as well. -/
theorem live_iff (sound : t.Sound sim) (sound' : t'.Sound sim')
    (changes : sim.Changes t.Owned sim') (node : t'.node = t.node)
    (same : t'.routes.get? ip = t.routes.get? ip) {x : Scheduled MeshEvent}
    (event : x.event = expiryEvent t.node ip) : x ∈ sim'.live ↔ x ∈ sim.live := by
  constructor
  · intro member
    obtain ⟨route, timer, present, held, number⟩ := sound'.held x member ip (node ▸ event)
    rw [same] at present
    have given := (sound.owns_expiry present timer held).1
    exact changes.old sound.valid member (number ▸ given)
  · intro member
    obtain ⟨route, timer, present, held, number⟩ := sound.held x member ip event
    rw [← same] at present
    have armed := sound'.isArmed_eq present
    cases good : route.row.isGood with
    | false =>
      rw [(sound'.routes ip route present).idle good] at held
      cases held
    | true =>
      rw [good, held] at armed
      obtain ⟨y, still, twin⟩ := sound'.valid.isPending_iff.mp armed
      have given := sound.valid.live_given member
      rw [← number, ← twin] at given
      have before := changes.old sound.valid still given
      rwa [sound.valid.live_unique member before (number.symm.trans twin.symm)]

end Sound

end RouteTable

end WirelessMesh
