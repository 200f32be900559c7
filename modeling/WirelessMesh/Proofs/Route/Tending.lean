import WirelessMesh.Proofs.Route.Run
import WirelessMesh.Proofs.Route.Steps

namespace WirelessMesh

namespace RouteTable

variable {t t' : RouteTable} {sim sim' : Simulator MeshEvent} {ip : IPv4} {slot : TimerSlot}
  {before : Predecessor} {r : RouteRow}

/-- The event of the trigger of a node. -/
def triggerEvent (node : NodeId) : MeshEvent := .timer node .trigger

/-- No timer of a table stands for an event of another purpose, and of triggers there is none but the
one that the table holds. -/
structure Tended (t : RouteTable) (sim : Simulator MeshEvent) : Prop where
  valid : sim.WellFormed
  keyed : ∀ ip route, t.routes.get? ip = some route → route.row.ip = ip
  expiry : ∀ ip, (t.expiryOf ip).Owns sim (expiryEvent t.node ip)
  advert : t.advertTimer.Owns sim (.timer t.node .advert)
  dump : t.dumpTimer.Owns sim (.timer t.node .routeDump)
  trigger : t.triggerTimer.Holds sim (triggerEvent t.node)

/-- What is done leaves the trigger as it is: in its slot, due when it was, and the only one. -/
structure Tends (t : RouteTable) (sim : Simulator MeshEvent) (t' : RouteTable)
    (sim' : Simulator MeshEvent) : Prop where
  node : t'.node = t.node
  config : t'.config = t.config
  lastAdvert : t'.lastAdvert = t.lastAdvert
  triggerTimer : t'.triggerTimer = t.triggerTimer
  now : sim.now ≤ sim'.now
  spares : sim.Spares (· = triggerEvent t.node) sim'
  tended : t'.Tended sim'

theorem triggerEvent_ne_expiry {node : NodeId} : triggerEvent node ≠ expiryEvent node ip := by
  simp [triggerEvent, expiryEvent]

theorem Tends.trans {t'' : RouteTable} {sim'' : Simulator MeshEvent} (first : t.Tends sim t' sim')
    (second : t'.Tends sim' t'' sim'') : t.Tends sim t'' sim'' where
  node := second.node.trans first.node
  config := second.config.trans first.config
  lastAdvert := second.lastAdvert.trans first.lastAdvert
  triggerTimer := second.triggerTimer.trans first.triggerTimer
  now := Nat.le_trans first.now second.now
  spares := first.spares.trans (first.node ▸ second.spares)
  tended := second.tended

namespace Tended

/-- Whatever leaves triggers alone leaves the timers as they are. -/
theorem spares (tended : t.Tended sim) (spares : sim.Spares (· = triggerEvent t.node) sim') :
    t.Tended sim' where
  valid := spares.valid tended.valid
  keyed := tended.keyed
  expiry ip := (tended.expiry ip).spares tended.valid spares
  advert := tended.advert.spares tended.valid spares
  dump := tended.dump.spares tended.valid spares
  trigger := tended.trigger.spares tended.valid spares rfl

theorem congr (tended : t.Tended sim) (node : t'.node = t.node) (routes : t'.routes = t.routes)
    (advert : t'.advertTimer.Owns sim (.timer t.node .advert))
    (dump : t'.dumpTimer.Owns sim (.timer t.node .routeDump))
    (trigger : t'.triggerTimer.Holds sim (triggerEvent t.node)) : t'.Tended sim where
  valid := tended.valid
  keyed := by
    rw [routes]
    exact tended.keyed
  expiry ip := by
    rw [node, expiryOf, routes]
    exact tended.expiry ip
  advert := node ▸ advert
  dump := node ▸ dump
  trigger := node ▸ trigger

theorem retrigger {owned : MeshEvent → Prop} (tended : t.Tended sim) (changes : sim.Changes owned sim')
    (holds : slot.Holds sim' (triggerEvent t.node)) : { t with triggerTimer := slot }.Tended sim' where
  valid := changes.valid tended.valid
  keyed := tended.keyed
  expiry ip := (tended.expiry ip).changes tended.valid changes
  advert := tended.advert.changes tended.valid changes
  dump := tended.dump.changes tended.valid changes
  trigger := holds

theorem elsewhere (tended : t.Tended sim) (spares : sim.Spares (· = triggerEvent t.node) sim')
    (now : sim.now ≤ sim'.now) : t.Tends sim t sim' :=
  ⟨rfl, rfl, rfl, rfl, now, spares, tended.spares spares⟩

theorem refl (tended : t.Tended sim) : t.Tends sim t sim :=
  tended.elsewhere (.refl sim) (Nat.le_refl _)

theorem noted (tended : t.Tended sim) (log : Option RouteLog) : t.Tends sim { t with log } sim :=
  ⟨rfl, rfl, rfl, rfl, Nat.le_refl _, .refl sim,
    tended.congr rfl rfl tended.advert tended.dump tended.trigger⟩

theorem reslot (tended : t.Tended sim) (kept : t.Kept t') (same : t'.triggerTimer = t.triggerTimer)
    (keyed : ∀ d route, t'.routes.get? d = some route → route.row.ip = d)
    (expiry : ∀ d, t'.expiryOf d = if d = ip then slot else t.expiryOf d)
    (changes : sim.Changes (· = expiryEvent t.node ip) sim')
    (owns : slot.Owns sim' (expiryEvent t.node ip)) : t.Tends sim t' sim' := by
  have apart : ∀ event, event = expiryEvent t.node ip → ¬ event = triggerEvent t.node :=
    fun event mine trigger => triggerEvent_ne_expiry (trigger.symm.trans mine)
  refine ⟨kept.node, kept.config, kept.lastAdvert, same, Nat.le_of_eq (congrArg Time.ns changes.now.symm),
    changes.spares apart, changes.valid tended.valid, keyed, fun d => ?_, ?_, ?_, ?_⟩
  · rw [expiry, kept.node]
    split
    · next here => exact here ▸ owns
    · exact (tended.expiry d).changes tended.valid changes
  · rw [kept.node, kept.advertTimer]
    exact tended.advert.changes tended.valid changes
  · rw [kept.node, kept.dumpTimer]
    exact tended.dump.changes tended.valid changes
  · rw [kept.node, same]
    exact tended.trigger.changes tended.valid changes triggerEvent_ne_expiry

theorem place (tended : t.Tended sim) (why : RouteReason) (held : before.expiry = t.expiryOf r.ip) :
    t.Tends sim (t.place before r why sim).1 (t.place before r why sim).2 := by
  have rewrites := place_rewrites t before r why sim
  have owns := tended.expiry r.ip
  have keyed : ∀ d route, (t.place before r why sim).1.routes.get? d = some route →
      route.row.ip = d := by
    intro d route present
    rw [rewrites.get?] at present
    split at present
    · next here =>
      cases present
      exact here.symm
    · exact tended.keyed d route present
  cases good : r.isGood with
  | false =>
    have changes : sim.Changes (· = expiryEvent t.node r.ip) ((t.expiryOf r.ip).disarm sim) := by
      refine TimerSlot.changes_disarm owns ?_
      rfl
    rw [place_bad good, held] at rewrites keyed ⊢
    exact tended.reslot rewrites.kept rfl keyed (fun d => expiryOf_insert _ d) changes
      TimerSlot.owns_none
  | true =>
    have changes (delay : Time) : sim.Changes (· = expiryEvent t.node r.ip)
        ((t.expiryOf r.ip).rearm sim delay (expiryEvent t.node r.ip)).2 := by
      refine TimerSlot.changes_rearm owns ?_ delay
      rfl
    rw [place_good good, held] at rewrites keyed ⊢
    exact tended.reslot rewrites.kept rfl keyed (fun d => expiryOf_insert _ d) (changes _)
      (TimerSlot.owns_rearm tended.valid _ _)

theorem keyed_without (tended : t.Tended sim) (ip d : IPv4) (route : Route)
    (present : (t.without ip).routes.get? d = some route) : route.row.ip = d := by
  rw [without, get?_erase_route] at present
  split at present
  · cases present
  · exact tended.keyed d route present

theorem removed (tended : t.Tended sim) (ip : IPv4) :
    t.Tends sim (t.without ip) ((t.expiryOf ip).disarm sim) := by
  have changes : sim.Changes (· = expiryEvent t.node ip) ((t.expiryOf ip).disarm sim) := by
    refine TimerSlot.changes_disarm (tended.expiry ip) ?_
    rfl
  exact tended.reslot (without_kept t ip) rfl (tended.keyed_without ip) expiryOf_without changes
    TimerSlot.owns_none

theorem forgotten (tended : t.Tended sim) (ip : IPv4) : t.Tends sim (t.without ip) sim :=
  tended.reslot (without_kept t ip) rfl (tended.keyed_without ip) expiryOf_without (.refl _)
    TimerSlot.owns_none

theorem forget (tended : t.Tended sim) : t.Tends sim { t with routes := .empty }
    (t.routes.values.foldl (fun sim (route : Route) => route.expiry.disarm sim) sim) := by
  have changes := changes_forget tended.valid tended.expiry
  have spares : sim.Spares (· = triggerEvent t.node) _ := changes.spares fun event mine trigger => by
    obtain ⟨ip, same⟩ := mine
    exact triggerEvent_ne_expiry (trigger.symm.trans same)
  have after := tended.spares spares
  have keyed : ∀ ip route, ({ t with routes := .empty } : RouteTable).routes.get? ip = some route →
      route.row.ip = ip := by
    intro ip route present
    rw [Directory.get?_empty] at present
    cases present
  exact ⟨rfl, rfl, rfl, rfl, Nat.le_of_eq (congrArg Time.ns changes.now.symm), spares, after.valid, keyed,
    fun _ => TimerSlot.owns_none, after.advert, after.dump, after.trigger⟩

/-- The timer of the adverts or that of the log is set or taken back. -/
theorem retimed {event : MeshEvent} (tended : t.Tended sim) (other : event ≠ triggerEvent t.node)
    (changes : sim.Changes (· = event) sim') (kept : t'.node = t.node ∧ t'.routes = t.routes ∧
      t'.config = t.config ∧ t'.lastAdvert = t.lastAdvert ∧ t'.triggerTimer = t.triggerTimer)
    (advert : t'.advertTimer.Owns sim' (.timer t.node .advert))
    (dump : t'.dumpTimer.Owns sim' (.timer t.node .routeDump)) : t.Tends sim t' sim' := by
  obtain ⟨node, routes, config, last, trigger⟩ := kept
  have spares : sim.Spares (· = triggerEvent t.node) sim' :=
    changes.spares fun event mine here => other (mine.symm.trans here)
  have after := tended.spares spares
  exact ⟨node, config, last, trigger, Nat.le_of_eq (congrArg Time.ns changes.now.symm), spares,
    after.congr node routes advert dump (trigger ▸ after.trigger)⟩

theorem rearmAdvert (tended : t.Tended sim) (delay : Time) (random : RandomSource) :
    let armed := t.advertTimer.rearm sim delay (.timer t.node .advert)
    t.Tends sim { t with random, advertTimer := armed.1 } armed.2 := by
  have valid := tended.valid
  have changes : sim.Changes (· = .timer t.node .advert)
      (t.advertTimer.rearm sim delay (.timer t.node .advert)).2 := by
    refine TimerSlot.changes_rearm tended.advert ?_ delay
    rfl
  exact tended.retimed (by simp [triggerEvent]) changes ⟨rfl, rfl, rfl, rfl, rfl⟩
    (TimerSlot.owns_rearm valid _ _) (tended.dump.changes valid changes)

theorem armDump (tended : t.Tended sim) : t.Tends sim (t.armDump sim).1 (t.armDump sim).2 := by
  unfold RouteTable.armDump
  split
  · exact tended.refl
  · next millis _ =>
    have valid := tended.valid
    have changes : sim.Changes (· = .timer t.node .routeDump)
        (t.dumpTimer.rearm sim (.ofMillis millis) (.timer t.node .routeDump)).2 := by
      refine TimerSlot.changes_rearm tended.dump ?_ _
      rfl
    exact tended.retimed (by simp [triggerEvent]) changes ⟨rfl, rfl, rfl, rfl, rfl⟩
      (tended.advert.changes valid changes) (TimerSlot.owns_rearm valid _ _)

theorem disarmAdvert (tended : t.Tended sim) :
    t.Tends sim { t with advertTimer := none } (t.advertTimer.disarm sim) := by
  have changes : sim.Changes (· = .timer t.node .advert) (t.advertTimer.disarm sim) := by
    refine TimerSlot.changes_disarm tended.advert ?_
    rfl
  exact tended.retimed (by simp [triggerEvent]) changes ⟨rfl, rfl, rfl, rfl, rfl⟩ TimerSlot.owns_none
    (tended.dump.changes tended.valid changes)

theorem disarmDump (tended : t.Tended sim) :
    t.Tends sim { t with dumpTimer := none } (t.dumpTimer.disarm sim) := by
  have changes : sim.Changes (· = .timer t.node .routeDump) (t.dumpTimer.disarm sim) := by
    refine TimerSlot.changes_disarm tended.dump ?_
    rfl
  exact tended.retimed (by simp [triggerEvent]) changes ⟨rfl, rfl, rfl, rfl, rfl⟩
    (tended.advert.changes tended.valid changes) TimerSlot.owns_none

theorem start (tended : t.Tended sim) : t.Tends sim (t.start sim).1 (t.start sim).2 := by
  have armed := tended.rearmAdvert (.ofMillis (t.random.below t.config.periodMillis).1)
    (t.random.below t.config.periodMillis).2
  exact armed.trans armed.tended.armDump

theorem onDumpTimer (tended : t.Tended sim) :
    t.Tends sim (t.onDumpTimer sim).1 (t.onDumpTimer sim).2 := by
  have noted := tended.noted (t.note sim.now (.routeDump ((t.servedRows sim.now).map .ofRow))).log
  exact noted.trans noted.tended.armDump

theorem drainLog (tended : t.Tended sim) : t.Tends sim t.drainLog.2 sim := by
  obtain ⟨log, same⟩ := drainLog_eq t
  rw [same]
  exact tended.noted log

end Tended

/-- The first moment from now on at which an advert may follow the last one. -/
def earliestAdvert (t : RouteTable) (now : Time) : Time :=
  match t.lastAdvert with
  | some sent => max now (sent + t.config.minTriggered)
  | none => now

theorem le_earliestAdvert (t : RouteTable) (now : Time) : now ≤ t.earliestAdvert now := by
  unfold earliestAdvert
  split
  · rw [Time.le_def, Time.ns_max]
    omega
  · exact Nat.le_refl _

theorem Kept.earliestAdvert (kept : t.Kept t') (now : Time) :
    t'.earliestAdvert now = t.earliestAdvert now := by
  simp only [RouteTable.earliestAdvert, kept.lastAdvert, kept.config]

private theorem add_sub_eq_max (now later : Time) : now + (later - now) = max now later := by
  have now_le := now.ns_le
  have later_le := later.ns_le
  apply Time.ext
  rw [Time.ns_add, Time.ns_sub, Time.ns_max]
  omega

/-- A trigger that is asked for while one is set changes nothing. -/
theorem requestTrigger_armed (armed : t.triggerTimer.isArmed sim = true) :
    t.requestTrigger sim = (t, sim) := by
  rw [requestTrigger, if_pos armed]

/-- Else one is set, for the first moment at which an advert may go out. -/
theorem requestTrigger_idle (idle : t.triggerTimer.isArmed sim = false) :
    t.requestTrigger sim =
      let fresh := t.triggerTimer.rearm sim (t.earliestAdvert sim.now - sim.now)
        (triggerEvent t.node)
      ({ t with triggerTimer := fresh.1 }, fresh.2) := by
  have delay (earliest : Time) : max sim.now earliest - sim.now = earliest - sim.now := by
    apply Time.ext
    rw [Time.ns_sub, Time.ns_sub, Time.ns_max]
    omega
  rw [requestTrigger, idle, if_neg Bool.false_ne_true, earliestAdvert]
  cases t.lastAdvert with
  | none => rfl
  | some sent =>
    simp only [delay]
    rfl

theorem isArmed_requestTrigger (t : RouteTable) (sim : Simulator MeshEvent) :
    (t.requestTrigger sim).1.triggerTimer.isArmed (t.requestTrigger sim).2 = true := by
  cases armed : t.triggerTimer.isArmed sim with
  | true =>
    rw [requestTrigger_armed armed]
    exact armed
  | false =>
    rw [requestTrigger_idle armed]
    exact TimerSlot.isArmed_rearm _ _ _ _

theorem changes_requestTrigger (owns : t.triggerTimer.Owns sim (triggerEvent t.node)) :
    sim.Changes (· = triggerEvent t.node) (t.requestTrigger sim).2 := by
  cases armed : t.triggerTimer.isArmed sim with
  | true =>
    rw [requestTrigger_armed armed]
    exact .refl sim
  | false =>
    rw [requestTrigger_idle armed]
    apply TimerSlot.changes_rearm owns
    rfl

namespace Tended

/-- The trigger stays the only one when one is asked for, those that are set stay so, and a new one is
due at the first moment at which an advert may go out. -/
theorem requestTrigger (tended : t.Tended sim) :
    (t.requestTrigger sim).1.Tended (t.requestTrigger sim).2 ∧
      sim.Retains (· = triggerEvent t.node) (t.requestTrigger sim).2 ∧
      ∀ x ∈ (t.requestTrigger sim).2.live, x.event = triggerEvent t.node →
        x ∈ sim.live ∨ x.due = t.earliestAdvert sim.now := by
  have valid := tended.valid
  have changes := changes_requestTrigger tended.trigger.owns
  cases armed : t.triggerTimer.isArmed sim with
  | true =>
    rw [requestTrigger_armed armed]
    exact ⟨tended, .refl sim, fun x member _ => .inl member⟩
  | false =>
    rw [requestTrigger_idle armed] at changes ⊢
    have held := tended.trigger.rearm valid (t.earliestAdvert sim.now - sim.now)
    have after := tended.retrigger changes held
    refine ⟨after, ⟨changes.valid, changes.nextId, fun valid x => changes.old valid,
      fun _ x member mine => ?_⟩, fun x member mine => .inr ?_⟩
    · have live := (tended.trigger.isArmed_iff valid).mpr ⟨x, member, mine⟩
      rw [armed] at live
      cases live
    · have due : (t.triggerTimer.disarm sim).now + (t.earliestAdvert sim.now - sim.now) = x.due :=
        congrArg Timer.firesAt (Option.some.inj (held.alone x member mine))
      have later : sim.now.ns ≤ (t.earliestAdvert sim.now).ns := t.le_earliestAdvert sim.now
      rw [← due, TimerSlot.now_disarm, add_sub_eq_max]
      apply Time.ext
      rw [Time.ns_max]
      omega

/-- An event begins: the timers stay as they are, and if it was the trigger there is no other. -/
theorem next? (tended : t.Tended sim) {limit : Option Time} {item : Scheduled MeshEvent}
    (taken : sim.next? limit = some (item, sim')) :
    t.Tended sim' ∧
      (item.event = triggerEvent t.node → ∀ x ∈ sim'.live, x.event ≠ triggerEvent t.node) := by
  have valid := tended.valid
  have spares : sim.Spares (fun _ => False) sim' := .next? taken id
  have held := tended.trigger.next? valid taken
  refine ⟨⟨spares.valid valid, tended.keyed, fun ip => (tended.expiry ip).spares valid spares,
    tended.advert.spares valid spares, tended.dump.spares valid spares, held⟩,
    fun mine x member trigger => ?_⟩
  have armed := (held.isArmed_iff (valid.next? taken)).mpr ⟨x, member, trigger⟩
  exact ((tended.trigger.isArmed_next? valid taken).mp armed).2 mine

end Tended

/-- What is done to a table between two adverts, seen from its trigger: it is left alone, or asked for. -/
inductive Asks : RouteTable → Simulator MeshEvent → RouteTable → Simulator MeshEvent → Prop
  | tends {t t' : RouteTable} {sim sim' : Simulator MeshEvent} (tends : t.Tends sim t' sim') :
      Asks t sim t' sim'
  | requested (t : RouteTable) (sim : Simulator MeshEvent) :
      Asks t sim (t.requestTrigger sim).1 (t.requestTrigger sim).2
  | trans {t t' t'' : RouteTable} {sim sim' sim'' : Simulator MeshEvent}
      (first : Asks t sim t' sim') (second : Asks t' sim' t'' sim'') : Asks t sim t'' sim''

theorem Tends.asks (tends : t.Tends sim t' sim') : t.Asks sim t' sim' ∧ t'.Tended sim' :=
  ⟨.tends tends, tends.tended⟩

/-- Whatever is written or given up, the trigger is left alone or asked for. -/
theorem Proceeds.asks (proceeds : t.Proceeds sim t' sim') (tended : t.Tended sim) :
    t.Asks sim t' sim' ∧ t'.Tended sim' := by
  induction proceeds with
  | still t sim => exact tended.refl.asks
  | noted t log sim => exact (tended.noted log).asks
  | placed why sim held => exact (tended.place why held).asks
  | removed t ip sim => exact (tended.removed ip).asks
  | forgotten idle => exact (tended.forgotten _).asks
  | requested t sim => exact ⟨.requested t sim, tended.requestTrigger.1⟩
  | trans first second ih ih' =>
    obtain ⟨early, mid⟩ := ih tended
    obtain ⟨late, last⟩ := ih' mid
    exact ⟨early.trans late, last⟩

structure Silent (t : RouteTable) (sim : Simulator MeshEvent) : Prop where
  tended : t.Tended sim
  quiet : ∀ x ∈ sim.live, x.event ≠ triggerEvent t.node

theorem create_silent {node : NodeId} {ip : IPv4} {eth : EtherAddress} {config : RoutingConfig}
    {random : RandomSource} (done : create node ip eth config random = .ok t) : t.Silent .empty := by
  rw [create_eq done]
  exact ⟨⟨Simulator.empty_wellFormed, nofun, fun _ => TimerSlot.owns_none, TimerSlot.owns_none,
    TimerSlot.owns_none, TimerSlot.holds_none nofun⟩, nofun⟩

theorem Silent.tends (silent : t.Silent sim) (tends : t.Tends sim t' sim') : t'.Silent sim' := by
  refine ⟨tends.tended, fun x member trigger => ?_⟩
  rw [tends.node] at trigger
  exact silent.quiet x ((tends.spares.same silent.tended.valid x trigger).mp member) trigger

/-- When the trigger is taken back there is none to fire. -/
theorem Tended.disarmTrigger (tended : t.Tended sim) :
    { t with triggerTimer := none }.Silent (t.triggerTimer.disarm sim) := by
  have changes : sim.Changes (· = triggerEvent t.node) (t.triggerTimer.disarm sim) := by
    refine TimerSlot.changes_disarm tended.trigger.owns ?_
    rfl
  have empty := tended.trigger.disarm
  refine ⟨tended.retrigger changes empty, fun x member trigger => ?_⟩
  exact Option.some_ne_none _ (empty.alone x member trigger).symm

theorem Tended.stop (tended : t.Tended sim) : (t.stop sim).1.Silent (t.stop sim).2 := by
  have first := tended.disarmAdvert.tended.disarmTrigger
  have second := first.tends first.tended.disarmDump
  exact second.tends second.tended.forget

section Sending

variable {μ : Type} [Medium μ] [LawfulMedium μ] {air : Air μ}

theorem spares_sendAdvert (t : RouteTable) (air : Air μ) :
    air.sim.Spares (· = triggerEvent t.node) (t.sendAdvert air).2.sim :=
  (air.changes_announce t.node _).spares fun event arrival trigger => by
    rw [trigger] at arrival
    exact arrival

theorem Tended.sendAdvert (tended : t.Tended air.sim) :
    (t.sendAdvert air).1.Tended (t.sendAdvert air).2.sim := by
  have after := tended.spares (t.spares_sendAdvert air)
  exact after.congr rfl rfl after.advert after.dump after.trigger

/-- The advert that a trigger has set off leaves none to fire. -/
theorem Silent.onTriggerTimer (silent : t.Silent air.sim) :
    (t.onTriggerTimer air).1.Silent (t.onTriggerTimer air).2.sim := by
  refine ⟨silent.tended.sendAdvert, fun x member trigger => silent.quiet x ?_ trigger⟩
  exact ((t.spares_sendAdvert air).same silent.tended.valid x trigger).mp member

theorem Tended.onAdvertTimer (tended : t.Tended air.sim) :
    (t.onAdvertTimer air).1.Silent (t.onAdvertTimer air).2.sim := by
  have renewed : { t with seq := t.seq + 2 }.Tended air.sim :=
    tended.congr rfl rfl tended.advert tended.dump tended.trigger
  have sent := renewed.sendAdvert
  unfold RouteTable.onAdvertTimer
  generalize { t with seq := t.seq + 2 }.sendAdvert air = next at sent ⊢
  obtain ⟨mid, midAir⟩ := next
  have silent := sent.disarmTrigger
  exact silent.tends (silent.tended.rearmAdvert _ _)

end Sending

end RouteTable

end WirelessMesh
