import WirelessMesh.Proofs.Air.Arrivals
import WirelessMesh.Proofs.Route.Expiry

namespace WirelessMesh

namespace RouteTable

variable {t t' : RouteTable} {sim sim' : Simulator MeshEvent}

/-- What others do with their own events leaves a table sound. -/
theorem Sound.elsewhere (sound : t.Sound sim) {other : MeshEvent → Prop}
    (changes : sim.Changes other sim') (apart : ∀ event, other event → ¬ t.Owned event) :
    t.Sound sim' :=
  sound.spares (changes.spares fun event theirs mine => apart event theirs (.inr mine))

theorem not_owned_arrival {event : MeshEvent} (arrival : event.IsArrival) : ¬ t.Owned event := by
  rintro ((rfl | rfl | rfl) | ⟨ip, rfl⟩) <;> exact arrival

def OwnedOrArrival (t : RouteTable) (event : MeshEvent) : Prop :=
  t.Owned event ∨ event.IsArrival

/-- A table after a timer or a start: it is sound and has left the events of others alone. -/
structure Goes (t : RouteTable) (sim : Simulator MeshEvent) (t' : RouteTable)
    (sim' : Simulator MeshEvent) : Prop where
  node : t'.node = t.node
  ip : t'.ip = t.ip
  eth : t'.eth = t.eth
  config : t'.config = t.config
  sound : t'.Sound sim'
  changes : sim.Changes t.OwnedOrArrival sim'

theorem Goes.refl (sound : t.Sound sim) : t.Goes sim t sim :=
  ⟨rfl, rfl, rfl, rfl, sound, .refl sim⟩

theorem Goes.trans {t'' : RouteTable} {sim'' : Simulator MeshEvent} (first : t.Goes sim t' sim')
    (second : t'.Goes sim' t'' sim'') : t.Goes sim t'' sim'' where
  node := second.node.trans first.node
  ip := second.ip.trans first.ip
  eth := second.eth.trans first.eth
  config := second.config.trans first.config
  sound := second.sound
  changes := first.changes.trans (second.changes.mono fun event => by
    rw [OwnedOrArrival, owned_congr first.node]
    exact id)

theorem Sound.disarm (sound : t.Sound sim) {slot : TimerSlot} {event : MeshEvent}
    (owns : slot.Owns sim event) (mine : t.Scheduling event) :
    t.Sound (slot.disarm sim) ∧ sim.Changes t.OwnedOrArrival (slot.disarm sim) := by
  have changes : sim.Changes t.Scheduling (slot.disarm sim) := TimerSlot.changes_disarm owns mine
  exact ⟨sound.scheduling changes, changes.mono fun _ here => .inl (.inl here)⟩

theorem Sound.rearmAdvert (sound : t.Sound sim) (delay : Time) (random : RandomSource) :
    let armed := t.advertTimer.rearm sim delay (.timer t.node .advert)
    t.Goes sim { t with random, advertTimer := armed.1 } armed.2 := by
  obtain ⟨kept, changes⟩ := sound.rearm sound.advert (.inl rfl) delay
  exact ⟨rfl, rfl, rfl, rfl,
    kept.congr rfl rfl (TimerSlot.owns_rearm sound.valid _ _) kept.trigger kept.dump,
    changes.mono fun _ => .inl⟩

theorem Sound.disarmTrigger (sound : t.Sound sim) :
    t.Goes sim { t with triggerTimer := none } (t.triggerTimer.disarm sim) := by
  obtain ⟨kept, changes⟩ := sound.disarm sound.trigger (.inr (.inl rfl))
  exact ⟨rfl, rfl, rfl, rfl, kept.congr rfl rfl kept.advert TimerSlot.owns_none kept.dump, changes⟩

theorem Sound.disarmAdvert (sound : t.Sound sim) :
    t.Goes sim { t with advertTimer := none } (t.advertTimer.disarm sim) := by
  obtain ⟨kept, changes⟩ := sound.disarm sound.advert (.inl rfl)
  exact ⟨rfl, rfl, rfl, rfl, kept.congr rfl rfl TimerSlot.owns_none kept.trigger kept.dump, changes⟩

theorem Sound.disarmDump (sound : t.Sound sim) :
    t.Goes sim { t with dumpTimer := none } (t.dumpTimer.disarm sim) := by
  obtain ⟨kept, changes⟩ := sound.disarm sound.dump (.inr (.inr rfl))
  exact ⟨rfl, rfl, rfl, rfl, kept.congr rfl rfl kept.advert kept.trigger TimerSlot.owns_none,
    changes⟩

/-- The table after the timer of the log is set differs in that timer. -/
theorem armDump_eq (t : RouteTable) (sim : Simulator MeshEvent) :
    ∃ dumpTimer, (t.armDump sim).1 = { t with dumpTimer } := by
  unfold armDump
  split
  · exact ⟨t.dumpTimer, rfl⟩
  · exact ⟨_, rfl⟩

theorem Sound.armDump (sound : t.Sound sim) :
    t.Goes sim (t.armDump sim).1 (t.armDump sim).2 := by
  unfold RouteTable.armDump
  split
  · exact ⟨rfl, rfl, rfl, rfl, sound, .refl sim⟩
  · next millis _ =>
    obtain ⟨kept, changes⟩ := sound.rearm sound.dump (.inr (.inr rfl)) (.ofMillis millis)
    exact ⟨rfl, rfl, rfl, rfl,
      kept.congr rfl rfl kept.advert kept.trigger (TimerSlot.owns_rearm sound.valid _ _),
      changes.mono fun _ => .inl⟩

theorem Sound.onDumpTimer (sound : t.Sound sim) :
    t.Goes sim (t.onDumpTimer sim).1 (t.onDumpTimer sim).2 := by
  have noted : (t.note sim.now (.routeDump ((t.servedRows sim.now).map .ofRow))).Sound sim :=
    sound.congr rfl rfl sound.advert sound.trigger sound.dump
  obtain ⟨node, ip, eth, config, sound, changes⟩ := noted.armDump
  exact ⟨node, ip, eth, config, sound, changes⟩

theorem drainLog_eq (t : RouteTable) : ∃ log, t.drainLog.2 = { t with log } := by
  unfold drainLog
  cases t.log with
  | none => exact ⟨t.log, rfl⟩
  | some log => exact ⟨_, rfl⟩

theorem Goes.of_drainLog (sound : t.Sound sim) : t.Goes sim t.drainLog.2 sim := by
  unfold drainLog
  cases t.log with
  | none => exact ⟨rfl, rfl, rfl, rfl, sound, .refl sim⟩
  | some log =>
    exact ⟨rfl, rfl, rfl, rfl, sound.congr rfl rfl sound.advert sound.trigger sound.dump, .refl sim⟩

theorem create_eq {node : NodeId} {ip : IPv4} {eth : EtherAddress} {config : RoutingConfig}
    {random : RandomSource} (done : create node ip eth config random = .ok t) :
    t = ⟨node, ip, eth, config, 0, .empty, random, none, none, none, none, none⟩ := by
  simp only [create, bind, Except.bind] at done
  split at done
  · cases done
  · cases done
    rfl

theorem create_node {node : NodeId} {ip : IPv4} {eth : EtherAddress} {config : RoutingConfig}
    {random : RandomSource} (done : create node ip eth config random = .ok t) : t.node = node := by
  rw [create_eq done]

theorem create_sound {node : NodeId} {ip : IPv4} {eth : EtherAddress} {config : RoutingConfig}
    {random : RandomSource} (done : create node ip eth config random = .ok t) :
    t.Sound .empty := by
  rw [create_eq done]
  exact ⟨Simulator.empty_wellFormed, nofun, nofun, TimerSlot.owns_none, TimerSlot.owns_none,
    TimerSlot.owns_none⟩

theorem Sound.start (sound : t.Sound sim) : t.Goes sim (t.start sim).1 (t.start sim).2 := by
  have armed := sound.rearmAdvert (.ofMillis (t.random.below t.config.periodMillis).1)
    (t.random.below t.config.periodMillis).2
  exact armed.trans armed.sound.armDump

/-- Taking back the timers of routes takes back their events and no others. -/
theorem live_disarmAll {x : Scheduled MeshEvent} (routes : List Route) :
    ∀ {sim : Simulator MeshEvent},
      x ∈ (routes.foldl (fun sim route => route.expiry.disarm sim) sim).live ↔
        x ∈ sim.live ∧ ∀ route ∈ routes, ∀ timer, route.expiry = some timer → x.id ≠ timer.id := by
  induction routes with
  | nil => simp
  | cons route rest ih =>
    intro sim
    rw [List.foldl_cons, ih, TimerSlot.live_disarm, and_assoc]
    simp only [List.mem_cons, forall_eq_or_imp]

private theorem changes_disarmAll {owned : MeshEvent → Prop} (routes : List Route) :
    ∀ {sim : Simulator MeshEvent}, sim.WellFormed →
      (∀ route ∈ routes, ∃ event, owned event ∧ route.expiry.Owns sim event) →
      sim.Changes owned (routes.foldl (fun sim route => route.expiry.disarm sim) sim) := by
  induction routes with
  | nil => exact fun {sim} _ _ => .refl sim
  | cons route rest ih =>
    intro sim valid owns
    obtain ⟨event, mine, held⟩ := owns route List.mem_cons_self
    have changes : sim.Changes owned (route.expiry.disarm sim) :=
      TimerSlot.changes_disarm held mine
    refine changes.trans (ih (changes.valid valid) fun other member => ?_)
    obtain ⟨event', mine', held'⟩ := owns other (List.mem_cons_of_mem _ member)
    exact ⟨event', mine', held'.changes valid changes⟩

/-- Taking back the timers of all routes is work on the timers of routes. -/
theorem changes_forget (valid : sim.WellFormed)
    (owns : ∀ ip, (t.expiryOf ip).Owns sim (expiryEvent t.node ip)) :
    sim.Changes (fun event => ∃ ip, event = expiryEvent t.node ip)
      (t.routes.values.foldl (fun sim (route : Route) => route.expiry.disarm sim) sim) := by
  refine changes_disarmAll _ valid fun route member => ?_
  obtain ⟨ip, present⟩ := Sound.mem_values member
  have own := owns ip
  rw [expiryOf, present] at own
  exact ⟨_, ⟨ip, rfl⟩, own⟩

theorem Sound.forget (sound : t.Sound sim) :
    t.Goes sim { t with routes := .empty }
      (t.routes.values.foldl (fun sim route => route.expiry.disarm sim) sim) := by
  have changes := changes_forget sound.valid sound.expiryOf_owns
  refine ⟨rfl, rfl, rfl, rfl, ⟨changes.valid sound.valid, nofun, fun x member ip event => ?_,
    sound.advert.changes sound.valid changes, sound.trigger.changes sound.valid changes,
    sound.dump.changes sound.valid changes⟩, changes.mono fun _ mine => .inl (.inr mine)⟩
  obtain ⟨live, apart⟩ := (live_disarmAll _).mp member
  obtain ⟨route, timer, present, held, same⟩ := sound.held x live ip event
  have value := value_of_get? present
  exact absurd same.symm (apart route value timer held)

theorem Sound.stop (sound : t.Sound sim) : t.Goes sim (t.stop sim).1 (t.stop sim).2 := by
  have first := sound.disarmAdvert
  have second := first.trans first.sound.disarmTrigger
  have third := second.trans second.sound.disarmDump
  exact third.trans third.sound.forget

section Sending

variable {μ : Type} [Medium μ] [LawfulMedium μ] {air : Air μ}

theorem Sound.sendAdvert (sound : t.Sound air.sim) :
    t.Goes air.sim (t.sendAdvert air).1 (t.sendAdvert air).2.sim := by
  have changes := air.changes_announce t.node
    ⟨.broadcast, t.eth, FrameType.advert, (t.buildAdvert air.now).encode⟩
  have kept := sound.elsewhere changes fun _ => not_owned_arrival
  exact ⟨rfl, rfl, rfl, rfl, kept.congr rfl rfl kept.advert kept.trigger kept.dump,
    changes.mono fun _ => .inr⟩

theorem Sound.onTriggerTimer (sound : t.Sound air.sim) :
    t.Goes air.sim (t.onTriggerTimer air).1 (t.onTriggerTimer air).2.sim := sound.sendAdvert

theorem Sound.onAdvertTimer (sound : t.Sound air.sim) :
    t.Goes air.sim (t.onAdvertTimer air).1 (t.onAdvertTimer air).2.sim := by
  have renewed : t.Goes air.sim { t with seq := t.seq + 2 } air.sim :=
    ⟨rfl, rfl, rfl, rfl, sound.congr rfl rfl sound.advert sound.trigger sound.dump, .refl _⟩
  have sent := renewed.trans renewed.sound.sendAdvert
  have silent := sent.trans sent.sound.disarmTrigger
  exact silent.trans (silent.sound.rearmAdvert _ _)

end Sending

end RouteTable

end WirelessMesh
