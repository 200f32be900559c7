import WirelessMesh.Proofs.Route.Invariant

namespace WirelessMesh

namespace RouteTable

variable {t t' : RouteTable} {before : Predecessor} {r : RouteRow} {why : RouteReason}
  {sim sim' : Simulator MeshEvent} {ip : IPv4} {route : Route}

def Older (old : Option RouteRow) (r : RouteRow) : Prop :=
  ∀ row, old = some row → row.ip = r.ip ∧ row.check = .ok () ∧ row.seq < r.seq

/-- The timer that a destination has, if it has one. -/
def expiryOf (t : RouteTable) (ip : IPv4) : TimerSlot := (t.routes.get? ip).bind (·.expiry)

theorem expiry_ofRoute (ip : IPv4) :
    (Predecessor.ofRoute (t.routes.get? ip)).expiry = t.expiryOf ip := by
  unfold expiryOf
  cases t.routes.get? ip <;> rfl

theorem Sound.expiryOf_owns (sound : t.Sound sim) (ip : IPv4) :
    (t.expiryOf ip).Owns sim (expiryEvent t.node ip) := by
  unfold expiryOf
  cases present : t.routes.get? ip with
  | none => exact TimerSlot.owns_none
  | some route => exact sound.owns_expiry present

/-- The events that stand for other destinations are not those of this one's timer. -/
private theorem Sound.foreign_timer (sound : t.Sound sim) {x : Scheduled MeshEvent}
    (member : x ∈ sim.live) {d : IPv4} (event : x.event = expiryEvent t.node d) (other : d ≠ ip)
    {timer : Timer} (held : t.expiryOf ip = some timer) : x.id ≠ timer.id := by
  intro same
  have mine := (sound.expiryOf_owns ip timer held).2 x member same
  exact other (expiryEvent_inj.mp (event.symm.trans mine))

private theorem Sound.own_timer (sound : t.Sound sim) {x : Scheduled MeshEvent} (member : x ∈ sim.live)
    (event : x.event = expiryEvent t.node ip) : ∃ timer, t.expiryOf ip = some timer ∧
      x.id = timer.id := by
  obtain ⟨route, timer, present, held, same⟩ := sound.held x member ip event
  refine ⟨timer, ?_, same.symm⟩
  rw [expiryOf, present]
  exact held

theorem Sound.changes_disarm (sound : t.Sound sim) (ip : IPv4) :
    sim.Changes t.Owned ((t.expiryOf ip).disarm sim) :=
  TimerSlot.changes_disarm (sound.expiryOf_owns ip) (owned_expiry t ip)

/-- A route stays sound when the timer of another destination is taken back. -/
theorem Sound.disarm_other (sound : t.Sound sim) {d : IPv4} (other : d ≠ ip)
    (present : t.routes.get? d = some route) :
    route.Sound t.node d ((t.expiryOf ip).disarm sim) := by
  obtain ⟨keyed, row, armed, idle, older⟩ := sound.routes d route present
  refine ⟨keyed, row, fun good => ?_, idle, older⟩
  obtain ⟨timer, held, x, member, same, event⟩ := armed good
  refine ⟨timer, held, x, TimerSlot.live_disarm.mpr ⟨member, fun timer' held' => ?_⟩, same, event⟩
  exact sound.foreign_timer member event other held'

theorem Sound.erase (sound : t.Sound sim) (ip : IPv4) :
    { t with routes := t.routes.erase ip }.Sound ((t.expiryOf ip).disarm sim) := by
  have changes := sound.changes_disarm ip
  refine ⟨changes.valid sound.valid, ?_, ?_,
    sound.advert.changes sound.valid changes, sound.trigger.changes sound.valid changes,
    sound.dump.changes sound.valid changes⟩
  · intro d route present
    rw [get?_erase_route] at present
    split at present
    · cases present
    · next other => exact sound.disarm_other other present
  · intro x member d event
    obtain ⟨live, apart⟩ := TimerSlot.live_disarm.mp member
    have other : d ≠ ip := by
      rintro rfl
      obtain ⟨timer, held, same⟩ := sound.own_timer live event
      exact apart timer held same
    rw [get?_erase_route, if_neg other]
    exact sound.held x live d event

theorem placedSim_eq (held : before.expiry = t.expiryOf r.ip) :
    t.placedSim before r sim =
      if r.isGood then
        (((t.expiryOf r.ip).disarm sim).schedule (sim.now + min r.ttl t.config.timeout)
          (expiryEvent t.node r.ip)).2
      else (t.expiryOf r.ip).disarm sim := by
  rw [placedSim, held]
  rfl

/-- A row is put in place with work on the timer of its destination only. -/
theorem changes_placedSim (owns : (t.expiryOf r.ip).Owns sim (expiryEvent t.node r.ip))
    (held : before.expiry = t.expiryOf r.ip) :
    sim.Changes (· = expiryEvent t.node r.ip) (t.placedSim before r sim) := by
  have changes : sim.Changes (· = expiryEvent t.node r.ip) ((t.expiryOf r.ip).disarm sim) := by
    refine TimerSlot.changes_disarm owns ?_
    rfl
  rw [placedSim_eq held]
  split
  · refine changes.trans (Simulator.changes_schedule ?_ rfl)
    rw [changes.now]
    exact Time.le_add_right _ _
  · exact changes

theorem live_placedSim (valid : sim.WellFormed) (held : before.expiry = t.expiryOf r.ip)
    (x : Scheduled MeshEvent) : x ∈ (t.placedSim before r sim).live ↔
      (r.isGood = true ∧
        x = ⟨sim.now + min r.ttl t.config.timeout, sim.nextId, expiryEvent t.node r.ip⟩) ∨
      x ∈ ((t.expiryOf r.ip).disarm sim).live := by
  have valid' : ((t.expiryOf r.ip).disarm sim).WellFormed := TimerSlot.disarm_wellFormed valid
  rw [placedSim_eq held]
  cases good : r.isGood with
  | false => simp
  | true =>
    rw [if_pos rfl, valid'.mem_schedule, TimerSlot.nextId_disarm]
    simp

theorem Sound.changes_place (sound : t.Sound sim) (held : before.expiry = t.expiryOf r.ip) :
    sim.Changes t.Owned (t.placedSim before r sim) :=
  (changes_placedSim (sound.expiryOf_owns r.ip) held).mono fun event same => by
    rw [same]
    exact owned_expiry t r.ip

/-- A sound row in place of what was there leaves the table sound. -/
theorem Sound.place (sound : t.Sound sim) (held : before.expiry = t.expiryOf r.ip)
    (row : r.check = .ok ()) (older : Older (before.kept t.config.useOldRoute r.seq) r) :
    (t.place before r why sim).1.Sound (t.place before r why sim).2 := by
  have rewrites := place_rewrites t before r why sim
  have changes := sound.changes_place held
  have live := live_placedSim (t := t) sound.valid held
  have erased := sound.erase r.ip
  rw [place_sim]
  have node : (t.place before r why sim).1.node = t.node := rewrites.kept.node
  constructor
  · exact changes.valid sound.valid
  · intro d route present
    rw [node]
    rw [rewrites.get?] at present
    split at present
    · next same =>
      cases present
      refine ⟨same.symm, row, ?_, ?_, fun old kept => same ▸ older old kept⟩
      · intro good
        exact ⟨_, if_pos good, _, (live _).mpr (.inl ⟨good, rfl⟩), rfl, same ▸ rfl⟩
      · intro idle
        rw [placedExpiry, idle]
        rfl
    · next other =>
      obtain ⟨keyed, row, armed, idle, older⟩ := sound.disarm_other other present
      refine ⟨keyed, row, fun good => ?_, idle, older⟩
      obtain ⟨timer, held, x, member, same⟩ := armed good
      exact ⟨timer, held, x, (live x).mpr (.inr member), same⟩
  · intro x member d event
    rw [node] at event
    rcases (live x).mp member with ⟨good, rfl⟩ | rest
    · obtain rfl := expiryEvent_inj.mp event
      exact ⟨_, _, rewrites.get?_self, if_pos good, rfl⟩
    · obtain ⟨route, timer, present, held, same⟩ := erased.held x rest d event
      rw [get?_erase_route] at present
      split at present
      · cases present
      · next other => exact ⟨route, timer, (rewrites.get?_other other).trans present, held, same⟩
  · exact sound.advert.changes sound.valid changes
  · exact sound.trigger.changes sound.valid changes
  · exact sound.dump.changes sound.valid changes

/-- An operation that succeeds, keeps the table sound and leaves the events of others alone. -/
def Upkeep (t : RouteTable) (sim : Simulator MeshEvent)
    (answer : Except RouteViolation (RouteTable × Simulator MeshEvent)) : Prop :=
  ∃ t' sim', answer = .ok (t', sim') ∧ t.Kept t' ∧ t'.Sound sim' ∧ sim.Changes t.Owned sim'

theorem Sound.write (sound : t.Sound sim) (why : RouteReason)
    (held : before.expiry = t.expiryOf r.ip)
    (row : r.check = .ok ()) (welcome : t.passesOver r = false)
    (older : Older (before.kept t.config.useOldRoute r.seq) r) :
    t.Upkeep sim (t.write before r why sim) := by
  have placed : (t.place before r why sim).1.Sound (t.place before r why sim).2 :=
    sound.place held row older
  refine ⟨(t.place before r why sim).1, (t.place before r why sim).2, ?_,
    (place_rewrites t before r why sim).kept, placed, ?_⟩
  · have refused : (t.config.ignoreInvalidRoutes && !r.metric.isGood) = false := welcome
    simp only [RouteTable.write, sound.check, row, refused, bind, Except.bind, Bool.false_eq_true,
      if_false, placed.check]
    rfl
  · rw [place_sim]
    exact sound.changes_place held

theorem Sound.removeRoute (sound : t.Sound sim) (ip : IPv4) :
    t.Upkeep sim (t.removeRoute ip sim) := by
  have erased := sound.erase ip
  refine ⟨_, _, ?_, (erase_rewrites t ip).kept, erased, sound.changes_disarm ip⟩
  simp only [RouteTable.removeRoute, expiry_ofRoute, erased.check, bind, Except.bind]
  rfl

theorem Sound.writeBroken (sound : t.Sound sim) (why : RouteReason)
    (held : before.expiry = t.expiryOf r.ip) (row : r.check = .ok ())
    (older : Older (before.kept t.config.useOldRoute r.seq) r) :
    t.Upkeep sim (t.writeBroken before r why sim) := by
  unfold RouteTable.writeBroken
  cases ignored : t.config.ignoreInvalidRoutes with
  | true => exact sound.removeRoute r.ip
  | false =>
    refine sound.write why held row ?_ older
    rw [passesOver, ignored]
    rfl

/-- What is kept beside a row that is no older than the current one is older than it. -/
theorem Sound.older_ofRoute (sound : t.Sound sim)
    (later : ∀ cur, t.row? r.ip = some cur → cur.seq ≤ r.seq) :
    Older ((Predecessor.ofRoute (t.routes.get? r.ip)).kept t.config.useOldRoute r.seq) r := by
  intro row kept
  cases present : t.routes.get? r.ip with
  | none =>
    rw [present] at kept
    cases kept
  | some route =>
    have whole := sound.routes r.ip route present
    have le : route.row.seq ≤ r.seq := later route.row (by rw [row?, present]; rfl)
    simp only [present, Predecessor.ofRoute, Predecessor.kept] at kept
    split at kept
    · next newer =>
      cases kept
      exact ⟨whole.keyed, whole.row, of_decide_eq_true (Bool.and_eq_true_iff.mp newer).2⟩
    · obtain ⟨keyed, row, lt⟩ := whole.older row kept
      exact ⟨keyed, row, UInt32.lt_of_lt_of_le lt le⟩

theorem Sound.insertRoute (sound : t.Sound sim) (why : RouteReason)
    (row : r.check = .ok ()) (welcome : t.passesOver r = false)
    (later : ∀ cur, t.row? r.ip = some cur → cur.seq ≤ r.seq) :
    t.Upkeep sim (t.insertRoute r why sim) :=
  sound.write why (expiry_ofRoute r.ip) row welcome (sound.older_ofRoute later)

theorem Sound.breakRoute (sound : t.Sound sim) (why : RouteReason)
    (row : r.check = .ok ()) (later : ∀ cur, t.row? r.ip = some cur → cur.seq ≤ r.seq) :
    t.Upkeep sim (t.breakRoute r why sim) :=
  sound.writeBroken why (expiry_ofRoute r.ip) row (sound.older_ofRoute later)

theorem Sound.rearm (sound : t.Sound sim) {slot : TimerSlot} {event : MeshEvent}
    (owns : slot.Owns sim event) (mine : t.Scheduling event) (delay : Time) :
    t.Sound (slot.rearm sim delay event).2 ∧ sim.Changes t.Owned (slot.rearm sim delay event).2 := by
  have changes := TimerSlot.changes_rearm owns mine delay
  exact ⟨sound.scheduling changes, changes.mono fun _ => .inl⟩

theorem Sound.rearmTrigger (sound : t.Sound sim) (delay : Time) :
    let armed := t.triggerTimer.rearm sim delay (.timer t.node .trigger)
    { t with triggerTimer := armed.1 }.Sound armed.2 ∧ sim.Changes t.Owned armed.2 := by
  obtain ⟨kept, changes⟩ := sound.rearm sound.trigger (.inr (.inl rfl)) delay
  exact ⟨kept.congr rfl rfl kept.advert (TimerSlot.owns_rearm sound.valid _ _) kept.dump, changes⟩

theorem Sound.requestTrigger (sound : t.Sound sim) :
    (t.requestTrigger sim).1.Sound (t.requestTrigger sim).2 ∧
      sim.Changes t.Owned (t.requestTrigger sim).2 := by
  unfold RouteTable.requestTrigger
  split
  · exact ⟨sound, .refl sim⟩
  · exact sound.rearmTrigger _

/-- A request for a trigger may follow whatever else is done. -/
theorem Upkeep.requestTrigger {answer : Except RouteViolation (RouteTable × Simulator MeshEvent)}
    (upkeep : t.Upkeep sim answer) :
    t.Upkeep sim (answer.map fun next => next.1.requestTrigger next.2) := by
  obtain ⟨t', sim', rfl, kept, sound, changes⟩ := upkeep
  obtain ⟨after, more⟩ := sound.requestTrigger
  rw [owned_congr kept.node] at more
  exact ⟨_, _, rfl, kept.trans (requestTrigger_kept t' sim'), after, changes.trans more⟩

end RouteTable

end WirelessMesh
