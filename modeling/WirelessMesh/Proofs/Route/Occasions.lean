import WirelessMesh.Proofs.Route.Turns

/-!
A route table in use, step by step: it hears adverts, sends its own, is started and stopped, and its
timers fire, while others use the same simulator and time passes. Of the many steps only three touch
the routes: an advert that is heard, a route that runs out, and a stop. An induction over runs has to
look at these and at the others as one.
-/
namespace WirelessMesh

namespace RouteTable

/-- What a step of a table is about. -/
inductive Occasion where
  | hearing
  | sending
  | stopping
  | other
  deriving DecidableEq

/-- The steps of a table on a medium. Adverts are sent when their timers fire, or at any other time, and
others may use the simulator as they like, except for the events of this table. -/
inductive Step {μ : Type} [Medium μ] : Occasion → RouteTable × Air μ → RouteTable × Air μ → Prop
  | logged (t : RouteTable) (air : Air μ) (log : RouteLog) : Step .other (t, air) (t.setLog log, air)
  | drained (t : RouteTable) (air : Air μ) : Step .other (t, air) (t.drainLog.2, air)
  | heard {t : RouteTable} {air : Air μ} {sender : EtherAddress} {advert : RouteAdvert}
      {link : Metric} {after : Considered}
      (done : t.handleAdvert sender advert link air.sim = .ok after) :
      Step .hearing (t, air) (after.table, { air with sim := after.sim })
  | expired {t t' : RouteTable} {air : Air μ} {ip : IPv4} {sim : Simulator MeshEvent}
      (done : t.onExpiry ip air.sim = .ok (t', sim)) : Step .other (t, air) (t', { air with sim })
  | started (t : RouteTable) (air : Air μ) :
      Step .other (t, air) ((t.start air.sim).1, { air with sim := (t.start air.sim).2 })
  | stopped (t : RouteTable) (air : Air μ) :
      Step .stopping (t, air) ((t.stop air.sim).1, { air with sim := (t.stop air.sim).2 })
  | advertised (t : RouteTable) (air : Air μ) : Step .sending (t, air) (t.onAdvertTimer air)
  | triggered (t : RouteTable) (air : Air μ) : Step .sending (t, air) (t.onTriggerTimer air)
  | dumped (t : RouteTable) (air : Air μ) :
      Step .other (t, air) ((t.onDumpTimer air.sim).1, { air with sim := (t.onDumpTimer air.sim).2 })
  | waited {air : Air μ} {limit : Time} (t : RouteTable)
      (idle : air.sim.next? (some limit) = none) :
      Step .other (t, air) (t, { air with sim := { air.sim with now := max air.sim.now limit } })
  | sent {t : RouteTable} {air : Air μ} {limit : Option Time} {item : Scheduled MeshEvent}
      {sim : Simulator MeshEvent} {next : RouteTable × Air μ}
      (taken : air.sim.next? limit = some (item, sim))
      (advert : item.event = .timer t.node .advert ∨ item.event = .timer t.node .trigger)
      (done : t.onEvent { air with sim } item.event = .ok next) : Step .sending (t, air) next
  | fired {t : RouteTable} {air : Air μ} {limit : Option Time} {item : Scheduled MeshEvent}
      {sim : Simulator MeshEvent} {next : RouteTable × Air μ}
      (taken : air.sim.next? limit = some (item, sim))
      (other : item.event ≠ .timer t.node .advert ∧ item.event ≠ .timer t.node .trigger)
      (done : t.onEvent { air with sim } item.event = .ok next) : Step .other (t, air) next
  | elsewhere {air : Air μ} {sim : Simulator MeshEvent} (t : RouteTable) (medium : μ)
      (changes : air.sim.Changes (fun event => ¬ t.Owned event) sim) :
      Step .other (t, air) (t, ⟨sim, medium⟩)

/-- The tables that can be reached, with the medium and the simulator that they are on. -/
inductive InUse {μ : Type} [Medium μ] : RouteTable × Air μ → Prop
  | created {node : NodeId} {ip : IPv4} {eth : EtherAddress} {config : RoutingConfig}
      {random : RandomSource} {t : RouteTable} (medium : μ)
      (done : create node ip eth config random = .ok t) : InUse (t, ⟨.empty, medium⟩)
  | step {o : Occasion} {s s' : RouteTable × Air μ} (used : InUse s) (step : Step o s s') : InUse s'

/-- A run of steps none of which stops the table. -/
def Runs {μ : Type} [Medium μ] : RouteTable × Air μ → RouteTable × Air μ → Prop :=
  Relation.ReflTransGen fun s s' => ∃ o, o ≠ .stopping ∧ Step o s s'

/-- A run of steps none of which sends an advert or stops the table. -/
def RunsQuietly {μ : Type} [Medium μ] : RouteTable × Air μ → RouteTable × Air μ → Prop :=
  Relation.ReflTransGen fun s s' => ∃ o, o ≠ .stopping ∧ o ≠ .sending ∧ Step o s s'

variable {μ : Type} [Medium μ] {t t' : RouteTable} {sim sim' : Simulator MeshEvent} {air : Air μ}
  {o : Occasion} {s s' : RouteTable × Air μ} {ip : IPv4}

theorem InUse.runs (used : InUse s) (runs : Runs s s') : InUse s' := by
  induction runs with
  | refl => exact used
  | tail _ step ih =>
    obtain ⟨o, -, step⟩ := step
    exact ih.step step

theorem RunsQuietly.runs (runs : RunsQuietly s s') : Runs s s' := by
  induction runs with
  | refl => exact .refl
  | tail _ step ih =>
    obtain ⟨o, going, -, step⟩ := step
    exact ih.tail ⟨o, going, step⟩

structure Stays (s s' : RouteTable × Air μ) : Prop where
  node : s'.1.node = s.1.node
  ip : s'.1.ip = s.1.ip
  eth : s'.1.eth = s.1.eth
  config : s'.1.config = s.1.config
  routes : s'.1.routes = s.1.routes
  seq : s'.1.seq = s.1.seq ∨ s'.1.seq = s.1.seq + 2
  spares : s.2.sim.Spares (fun _ => False) s'.2.sim
  sound : s'.1.Sound s'.2.sim
  timely : s.2.sim.Timely → s'.2.sim.Timely

omit [Medium μ] in
theorem Stays.trans {s'' : RouteTable × Air μ} (first : Stays s s') (second : Stays s' s'')
    (seq : s'.1.seq = s.1.seq) : Stays s s'' where
  node := second.node.trans first.node
  ip := second.ip.trans first.ip
  eth := second.eth.trans first.eth
  config := second.config.trans first.config
  routes := second.routes.trans first.routes
  seq := by
    rw [← seq]
    exact second.seq
  spares := first.spares.trans second.spares
  sound := second.sound
  timely timely := second.timely (first.timely timely)

omit [Medium μ] in
theorem Goes.stays (goes : t.Goes air.sim s'.1 s'.2.sim) (valid : air.sim.WellFormed)
    (routes : s'.1.routes = t.routes) (seq : s'.1.seq = t.seq ∨ s'.1.seq = t.seq + 2) :
    Stays (t, air) s' where
  node := goes.node
  ip := goes.ip
  eth := goes.eth
  config := goes.config
  routes := routes
  seq := seq
  spares := goes.changes.spares fun _ _ => id
  sound := goes.sound
  timely := goes.changes.timely valid

inductive Effect : Occasion → RouteTable × Air μ → RouteTable × Air μ → Prop
  | heard {t : RouteTable} {air : Air μ} {sender : EtherAddress} {advert : RouteAdvert}
      {link : Metric} {after : Considered}
      (done : t.handleAdvert sender advert link air.sim = .ok after) :
      Effect .hearing (t, air) (after.table, { air with sim := after.sim })
  | ranOut {t t' : RouteTable} {air : Air μ} {limit : Option Time} {item : Scheduled MeshEvent}
      {sim sim' : Simulator MeshEvent} (taken : air.sim.next? limit = some (item, sim))
      (kept : t.Kept t') (breaks : ∀ d, t.Breaks (t.routes.get? d) (t'.routes.get? d))
      (sound : t'.Sound sim') (changes : sim.Changes t.Owned sim') :
      Effect .other (t, air) (t', { air with sim := sim' })
  | stopped (t : RouteTable) (air : Air μ) :
      Effect .stopping (t, air) ((t.stop air.sim).1, { air with sim := (t.stop air.sim).2 })
  | stays {o : Occasion} {s s' : RouteTable × Air μ} (stays : Stays s s') : Effect o s s'

/-- The timer of a route of a sound table has not fired unless the table is told so. -/
theorem Sound.onExpiry_idle (sound : t.Sound sim) (ip : IPv4) : t.onExpiry ip sim = .ok (t, sim) := by
  unfold RouteTable.onExpiry
  cases present : t.routes.get? ip with
  | none => rfl
  | some route =>
    have armed := sound.isArmed_eq present
    cases good : route.row.isGood with
    | true => simp [armed, good]
    | false => simp [(sound.routes ip route present).idle good]

theorem Sound.handleAdvert_ok (sound : t.Sound sim) {sender : EtherAddress} {advert : RouteAdvert}
    {link : Metric} {after : Considered} (done : t.handleAdvert sender advert link sim = .ok after) :
    t.Kept after.table ∧ after.table.Sound after.sim ∧ sim.Changes t.Owned after.sim := by
  rcases sound.handleAdvert_or_refuses sender advert link with answers | refuses
  · obtain ⟨after', done', rest⟩ := answers
    rw [done] at done'
    cases done'
    exact rest
  · rw [sound.handleAdvert_refused refuses] at done
    cases done

section Lawful

variable [LawfulMedium μ]

theorem Sound.stays_onTimer (sound : t.Sound air.sim) (kind : TimerKind)
    (other : ∀ ip, kind ≠ .expiry ip) (done : t.onTimer air kind = .ok s') : Stays (t, air) s' := by
  obtain ⟨next, done', goes⟩ := sound.onTimer other
  rw [done] at done'
  cases done'
  cases kind with
  | advert =>
    cases done
    exact goes.stays sound.valid rfl (.inr rfl)
  | trigger =>
    cases done
    exact goes.stays sound.valid rfl (.inl rfl)
  | routeDump =>
    cases done
    obtain ⟨dumpTimer, same⟩ :=
      armDump_eq (t.note air.sim.now (.routeDump ((t.servedRows air.sim.now).map .ofRow))) air.sim
    have after : (t.onDumpTimer air.sim).1 = _ := same
    apply goes.stays sound.valid
    · rw [after]
      rfl
    · rw [after]
      exact .inl rfl
  | expiry ip => exact absurd rfl (other ip)
  | discovery =>
    cases done
    exact goes.stays sound.valid rfl (.inl rfl)
  | probeRound =>
    cases done
    exact goes.stays sound.valid rfl (.inl rfl)
  | probeNext =>
    cases done
    exact goes.stays sound.valid rfl (.inl rfl)

omit [LawfulMedium μ] in
/-- What a table does when the event of a route begins: the route runs out. -/
theorem Sound.runsOut_onEvent (sound : t.Sound air.sim) {limit : Option Time}
    {item : Scheduled MeshEvent} (taken : air.sim.next? limit = some (item, sim))
    (event : item.event = expiryEvent t.node ip)
    (done : t.onEvent { air with sim } item.event = .ok s') :
    ∃ route t' sim', route.row.ip = ip ∧ s' = (t', { air with sim := sim' }) ∧
      t.routes.get? route.row.ip = some route ∧ route.row.isGood = true ∧
      (t.without route.row.ip).Sound sim ∧ t.expireRow route sim = .ok (t', sim') := by
  obtain ⟨route, present, good, held, fired, rest⟩ := sound.fired taken event
  obtain rfl := (sound.routes ip route present).keyed
  rw [event] at done
  simp only [expiryEvent, RouteTable.onEvent, if_true, RouteTable.onTimer,
    onExpiry_eq present good held fired] at done
  obtain ⟨⟨t', sim'⟩, expired, rfl⟩ := ok_of_map done
  exact ⟨route, t', sim', rfl, rfl, present, good, rest, expired⟩

private theorem Sound.stays_onEvent (sound : t.Sound air.sim) {limit : Option Time}
    {item : Scheduled MeshEvent} (taken : air.sim.next? limit = some (item, sim))
    (other : ¬ ∃ ip, item.event = expiryEvent t.node ip)
    (done : t.onEvent { air with sim } item.event = .ok s') : Stays (t, air) s' := by
  have kept : t.Sound ({ air with sim } : Air μ).sim := sound.spares (.next? taken other)
  have begun : Stays (t, air) (t, { air with sim }) :=
    ⟨rfl, rfl, rfl, rfl, rfl, .inl rfl, .next? taken id, kept, fun timely =>
      (timely.next? sound.valid taken).1⟩
  generalize event : item.event = begins at done
  cases handles_onEvent done with
  | @timer kind _ done =>
    have unlike : ∀ ip, kind ≠ .expiry ip := by
      intro ip same
      apply other
      refine ⟨ip, ?_⟩
      rw [event, same]
      rfl
    exact begun.trans (kept.stays_onTimer kind unlike done) rfl
  | elsewhere => exact begun

theorem Step.effect (step : Step o s s') (sound : s.1.Sound s.2.sim) : Effect o s s' := by
  cases step with
  | logged t air log =>
    have goes : t.Goes air.sim (t.setLog log) air.sim :=
      ⟨rfl, rfl, rfl, rfl, sound.congr rfl rfl sound.advert sound.trigger sound.dump, .refl _⟩
    exact .stays (goes.stays sound.valid rfl (.inl rfl))
  | drained t air =>
    have goes : t.Goes air.sim t.drainLog.2 air.sim := .of_drainLog sound
    obtain ⟨log, same⟩ := drainLog_eq t
    apply Effect.stays
    apply goes.stays sound.valid
    · rw [same]
    · rw [same]
      exact .inl rfl
  | heard done => exact .heard done
  | @expired t t' air ip sim done =>
    rw [Sound.onExpiry_idle sound ip] at done
    cases done
    exact .stays (Goes.stays (.refl sound) sound.valid rfl (.inl rfl))
  | started t air =>
    have goes : t.Goes air.sim (t.start air.sim).1 (t.start air.sim).2 := sound.start
    obtain ⟨dumpTimer, same⟩ := armDump_eq _ _
    have after : (t.start air.sim).1 = _ := same
    apply Effect.stays
    apply goes.stays sound.valid
    · rw [after]
    · rw [after]
      exact .inl rfl
  | stopped t air => exact .stopped t air
  | advertised t air => exact .stays (sound.stays_onTimer .advert nofun rfl)
  | triggered t air => exact .stays (sound.stays_onTimer .trigger nofun rfl)
  | dumped t air => exact .stays (sound.stays_onTimer .routeDump nofun rfl)
  | waited t idle =>
    apply Effect.stays
    exact ⟨rfl, rfl, rfl, rfl, rfl, .inl rfl, .wait _ _, sound.spares (.wait _ _), fun timely =>
      timely.wait sound.valid idle⟩
  | sent taken advert done =>
    refine .stays (sound.stays_onEvent taken ?_ done)
    rintro ⟨ip, event⟩
    rw [event] at advert
    simp [expiryEvent] at advert
  | @fired t air limit item sim next taken other done =>
    by_cases runsOut : ∃ ip, item.event = expiryEvent t.node ip
    · obtain ⟨ip, event⟩ := runsOut
      obtain ⟨route, t', sim', rfl, rfl, present, good, rest, expired⟩ :=
        sound.runsOut_onEvent taken event done
      obtain ⟨kept, breaks, sound', changes⟩ :=
        sound.expireRow_breaks_each rest present good expired
      exact .ranOut taken kept breaks sound' changes
    · exact .stays (sound.stays_onEvent taken runsOut done)
  | elsewhere t medium changes =>
    apply Effect.stays
    exact ⟨rfl, rfl, rfl, rfl, rfl, .inl rfl, changes.spares fun _ _ => id,
      sound.elsewhere changes fun _ => id, fun timely => changes.timely sound.valid timely⟩

omit [Medium μ] [LawfulMedium μ] in
theorem Effect.sound (effect : Effect o s s') (sound : s.1.Sound s.2.sim) :
    s'.1.Sound s'.2.sim ∧ (s.2.sim.Timely → s'.2.sim.Timely) := by
  cases effect with
  | heard done =>
    obtain ⟨-, sound', changes⟩ := sound.handleAdvert_ok done
    exact ⟨sound', changes.timely sound.valid⟩
  | ranOut taken kept breaks sound' changes =>
    have valid := sound.valid.next? taken
    refine ⟨sound', fun timely => ?_⟩
    exact changes.timely valid (timely.next? sound.valid taken).1
  | stopped t air =>
    have goes : t.Goes air.sim (t.stop air.sim).1 (t.stop air.sim).2 := sound.stop
    exact ⟨goes.sound, goes.changes.timely sound.valid⟩
  | stays stays => exact ⟨stays.sound, stays.timely⟩

/-- Every table in use is sound, and no event is late. -/
theorem InUse.sound_timely (used : InUse s) : s.1.Sound s.2.sim ∧ s.2.sim.Timely := by
  induction used with
  | created medium done => exact ⟨create_sound done, .empty⟩
  | step used step ih =>
    obtain ⟨sound, timely⟩ := (step.effect ih.1).sound ih.1
    exact ⟨sound, timely ih.2⟩

theorem InUse.sound (used : InUse s) : s.1.Sound s.2.sim := used.sound_timely.1

theorem InUse.timely (used : InUse s) : s.2.sim.Timely := used.sound_timely.2

end Lawful

inductive Cue where
  | hear (sender : EtherAddress) (advert : RouteAdvert) (link : Metric)
  | wait (limit : Time)
  /-- The next event is taken and carried out. -/
  | fire

def Cue.take (s : RouteTable × Air μ) : Cue → Option (RouteTable × Air μ)
  | hear sender advert link =>
    match s.1.handleAdvert sender advert link s.2.sim with
    | .ok after => some (after.table, { s.2 with sim := after.sim })
    | .error _ => none
  | wait limit =>
    match s.2.sim.next? (some limit) with
    | none => some (s.1, { s.2 with sim := { s.2.sim with now := max s.2.sim.now limit } })
    | some _ => none
  | fire =>
    match s.2.sim.next? none with
    | none => none
    | some (item, sim) => (s.1.onEvent { s.2 with sim } item.event).toOption

def follow (cues : List Cue) (s : RouteTable × Air μ) : Option (RouteTable × Air μ) :=
  cues.foldlM Cue.take s

theorem Cue.step_wait {limit : Time} (done : (Cue.wait limit).take s = some s') :
    Step .other s s' := by
  simp only [take] at done
  split at done
  · next idle =>
    cases done
    exact .waited s.1 idle
  · cases done

theorem Cue.step {cue : Cue} (done : cue.take s = some s') : ∃ o, o ≠ .stopping ∧ Step o s s' := by
  obtain ⟨t, air⟩ := s
  cases cue with
  | hear sender advert link =>
    simp only [take] at done
    split at done
    · next after heard =>
      cases done
      exact ⟨.hearing, nofun, .heard heard⟩
    · cases done
  | wait limit => exact ⟨.other, nofun, step_wait done⟩
  | fire =>
    simp only [take] at done
    split at done
    · cases done
    · next item sim taken =>
      have carried := ok_of_toOption done
      by_cases advert : item.event = .timer t.node .advert ∨ item.event = .timer t.node .trigger
      · exact ⟨.sending, nofun, .sent taken advert carried⟩
      · exact ⟨.other, nofun, .fired taken (not_or.mp advert) carried⟩

theorem runs_follow {cues : List Cue} (done : follow cues s = some s') : Runs s s' := by
  induction cues generalizing s with
  | nil =>
    cases done
    exact .refl
  | cons cue rest ih =>
    obtain ⟨mid, first, later⟩ := Option.bind_eq_some_iff.mp done
    exact .head (Cue.step first) (ih later)

def blank : RouteTable :=
  ⟨0, .ofIndex 0, .ofIndex 0, {}, 0, .empty, .ofSeed 1, none, none, none, none, none⟩

theorem blank_inUse (medium : μ) : InUse (blank, (⟨.empty, medium⟩ : Air μ)) :=
  .created medium (rfl : create 0 (.ofIndex 0) (.ofIndex 0) {} (.ofSeed 1) = .ok blank)

end RouteTable

end WirelessMesh
