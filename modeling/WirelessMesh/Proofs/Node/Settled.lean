import WirelessMesh.Proofs.Node.Scripts

namespace WirelessMesh

namespace MeshNode

variable {n n' : MeshNode} {sim sim' : Simulator MeshEvent} {used used' : Prop}

/-- The timers of a node. -/
def Mine (n : MeshNode) (event : MeshEvent) : Prop := ∃ kind, event = .timer n.id kind

/-- A node about to act: whatever is live of its timers is in its slots. -/
structure Ready (n : MeshNode) (sim : Simulator MeshEvent) : Prop where
  composed : n.Composed
  valid : sim.WellFormed
  holds : ∀ kind, (n.slots kind).Holds sim (.timer n.id kind)
  silent : ¬ n.Dumps → ¬ (n.slots .routeDump).isArmed sim = true

/-- A node that has acted: its routes have their timers, and in use so has all that recurs. -/
structure Settled (n : MeshNode) (used : Prop) (sim : Simulator MeshEvent) : Prop where
  ready : n.Ready sim
  sound : n.Sound sim
  steady : used → ∀ kind, n.Recurs kind → (n.slots kind).isArmed sim = true

theorem Ready.tidy {μ : Type} (ready : n.Ready sim) (medium : μ) :
    Desk.Tidy n.id ⟨n.slots, ⟨sim, medium⟩⟩ := ⟨ready.valid, ready.holds⟩

theorem Ready.next? {limit : Option Time} {item : Scheduled MeshEvent} (ready : n.Ready sim)
    (taken : sim.next? limit = some (item, sim')) : n.Ready sim' where
  composed := ready.composed
  valid := ready.valid.next? taken
  holds kind := (ready.holds kind).next? ready.valid taken
  silent quiet armed :=
    ready.silent quiet (((ready.holds _).isArmed_next? ready.valid taken).mp armed).1

theorem Settled.spares (settled : n.Settled used sim) (spares : sim.Spares n.Mine sim') :
    n.Settled used sim' where
  ready := {
    composed := settled.ready.composed
    valid := spares.valid settled.ready.valid
    holds := fun kind => (settled.ready.holds kind).spares settled.ready.valid spares ⟨kind, rfl⟩
    silent := fun quiet => by
      rw [(settled.ready.holds _).isArmed_spares settled.ready.valid spares ⟨_, rfl⟩]
      exact settled.ready.silent quiet }
  sound := settled.sound.spares (spares.mono fun _ ⟨ip, route⟩ => ⟨.expiry ip, route⟩)
  steady inUse kind recurs := by
    rw [(settled.ready.holds kind).isArmed_spares settled.ready.valid spares ⟨kind, rfl⟩]
    exact settled.steady inUse kind recurs

/-- A node that differs in what has nothing to do with its timers. -/
theorem Settled.congr (settled : n.Settled used sim) (fewer : used' → used) (sound : n'.Sound sim)
    (id : n'.id = n.id) (config : n'.routes.config = n.routes.config) (slots : n'.slots = n.slots) :
    n'.Settled used' sim where
  ready := {
    composed := sound.composed
    valid := settled.ready.valid
    holds := fun kind => by
      rw [slots, id]
      exact settled.ready.holds kind
    silent := fun quiet => by
      rw [slots]
      exact settled.ready.silent fun dumps => quiet ((dumps_congr config).mpr dumps) }
  sound := sound
  steady inUse kind recurs := by
    rw [slots]
    exact settled.steady (fewer inUse) kind ((recurs_congr config kind).mp recurs)

theorem Settled.unused (settled : n.Settled used sim) (fewer : used' → used) :
    n.Settled used' sim :=
  settled.congr fewer settled.sound rfl rfl rfl

theorem Settled.withRouteLog (settled : n.Settled used sim) : n.withRouteLog.Settled used sim := by
  have routes := settled.sound.routes
  have sound : n.withRouteLog.Sound sim :=
    ⟨settled.sound.rates, settled.sound.prober,
      routes.congr rfl rfl routes.advert routes.trigger routes.dump, settled.sound.node⟩
  exact settled.congr (fun used => used) sound rfl rfl rfl

section Acting

variable {μ : Type} [Medium μ] [LawfulMedium μ] {air air' : Air μ} {allowed : Deed → Prop}
  {next : MeshNode × Air μ}

theorem Ready.acts (ready : n.Ready air.sim) (acts : Acts allowed n air n' air')
    (composed : n'.Composed) (silent : ∀ delay, allowed (.arm .routeDump delay) → n.Dumps) :
    n'.Ready air'.sim where
  composed := composed
  valid := (acts.plays.tidy (ready.tidy air.medium)).valid
  holds := (acts.tidy (ready.tidy air.medium)).holds
  silent quiet := by
    have none : ¬ n.Dumps := fun dumps => quiet ((dumps_congr acts.config).mpr dumps)
    have idle : ¬ Desk.Armed ⟨n.slots, air⟩ .routeDump := ready.silent none
    exact acts.plays.idle (ready.tidy air.medium) idle fun delay fine => none (silent delay fine)

private theorem Recurs.not_passing {kind : TimerKind} (recurs : n.Recurs kind) : ¬ kind.Passing := by
  cases kind with
  | trigger => exact recurs.elim
  | expiry ip => exact recurs.elim
  | discovery => exact fun never => never
  | probeRound => exact fun never => never
  | probeNext => exact fun never => never
  | advert => exact fun never => never
  | routeDump => exact fun never => never

/-- A timer that recurs stays set whatever a node in use does. -/
theorem Ready.steady {kind : TimerKind} (ready : n.Ready air.sim)
    (acts : Acts (Deed.Ordinary n.Dumps n.Signs) n air n' air') (recurs : n.Recurs kind)
    (armed : (n.slots kind).isArmed air.sim = true) : (n'.slots kind).isArmed air'.sim = true :=
  acts.plays.armed (ready.tidy air.medium) armed recurs.not_passing

omit [LawfulMedium μ] in
theorem Composed.within_onEvent {speech : Speech} {event : MeshEvent} (composed : n.Composed)
    (speaks : n.MaySpeak speech air.now)
    (answers : ∀ frame, event = .arrival n.id frame → n.MayAnswer speech frame)
    (done : n.onEvent air event = .ok next) :
    Acts (Deed.Within n.Dumps speech) n air next.1 next.2 := by
  cases handles_onEvent done with
  | timer done => exact composed.within_onTimer speaks done
  | arrival done => exact composed.within_onFrame (answers _ rfl) done
  | elsewhere => exact .quiet rfl rfl rfl rfl

omit [LawfulMedium μ] in
theorem Composed.acts_onEvent {event : MeshEvent} (composed : n.Composed)
    (done : n.onEvent air event = .ok next) :
    Acts (Deed.Ordinary n.Dumps n.Signs) n air next.1 next.2 :=
  (composed.within_onEvent (n.maySpeak_signed air.now) (fun frame _ => n.mayAnswer_signed frame)
    done).mono fun _ => Deed.Within.ordinary

theorem Settled.onEvent {limit : Option Time} {item : Scheduled MeshEvent}
    (settled : n.Settled used air.sim) (taken : air.sim.next? limit = some (item, sim'))
    (done : n.onEvent { air with sim := sim' } item.event = .ok next) :
    next.1.Settled used next.2.sim := by
  have poised : n.Ready ({ air with sim := sim' } : Air μ).sim := settled.ready.next? taken
  have acts := poised.composed.acts_onEvent done
  have sound := settled.sound.onEvent taken done
  refine ⟨poised.acts acts sound.composed fun _ dumps => dumps, sound, fun inUse kind recurs => ?_⟩
  have mine := (recurs_congr acts.config kind).mp recurs
  by_cases fired : item.event = .timer n.id kind
  · rw [fired, MeshNode.onEvent, if_pos rfl] at done
    exact armed_onTimer mine done
  · refine poised.steady acts mine ?_
    exact ((settled.ready.holds kind).isArmed_next? settled.ready.valid taken).mpr
      ⟨settled.steady inUse kind mine, fired⟩

theorem Settled.onFrame {frame : Frame} (settled : n.Settled used air.sim)
    (done : n.onFrame frame air = .ok next) : next.1.Settled used next.2.sim := by
  have acts := settled.ready.composed.acts_onFrame done
  have sound : next.1.Sound next.2.sim := by
    rcases settled.sound.onFrame_or_refuses frame with ⟨after, taken, whole⟩ | refuses
    · cases done.symm.trans taken
      exact whole
    · rw [settled.sound.onFrame_refused refuses] at done
      cases done
  refine ⟨settled.ready.acts acts sound.composed fun _ dumps => dumps, sound,
    fun inUse kind recurs => ?_⟩
  have mine := (recurs_congr acts.config kind).mp recurs
  exact settled.ready.steady acts mine (settled.steady inUse kind mine)

end Acting

/-- A start and a shutdown have to do with timers only, so any medium will do. -/
def silence : Transcript := {}

theorem Settled.start (settled : n.Settled used sim) (inUse : Prop) :
    (n.start sim).1.Settled inUse (n.start sim).2 := by
  have composed := settled.ready.composed
  have acts : Acts (Deed.Setting n.Dumps) n ⟨sim, silence⟩ _ _ := composed.acts_start
  have sound := settled.sound.start
  refine ⟨settled.ready.acts acts sound.composed fun _ dumps => dumps, sound,
    fun _ kind recurs => ?_⟩
  exact composed.armed_start (settled.ready.tidy silence) ((recurs_congr acts.config kind).mp recurs)

theorem Settled.shutdown (settled : n.Settled used sim) {inUse : Prop} (ended : ¬ inUse) :
    (n.shutdown sim).1.Settled inUse (n.shutdown sim).2 := by
  have acts : Acts Deed.Timing n ⟨sim, silence⟩ _ _ := settled.ready.composed.acts_shutdown
  have sound := settled.sound.shutdown
  have tidy := acts.tidy (settled.ready.tidy silence)
  refine ⟨⟨sound.composed, tidy.valid, tidy.holds, fun _ armed => ?_⟩, sound,
    fun used => absurd used ended⟩
  rw [slots_shutdown] at armed
  cases armed

theorem Settled.changes_start (settled : n.Settled used sim) :
    sim.Changes n.Mine (n.start sim).2 := by
  have acts : Acts (Deed.Setting n.Dumps) n ⟨sim, silence⟩ _ _ := settled.ready.composed.acts_start
  exact acts.plays.changes_timing (settled.ready.tidy silence) fun _ => Deed.Setting.timing

theorem Settled.changes_shutdown (settled : n.Settled used sim) :
    sim.Changes n.Mine (n.shutdown sim).2 := by
  have acts : Acts Deed.Timing n ⟨sim, silence⟩ _ _ := settled.ready.composed.acts_shutdown
  exact acts.plays.changes_timing (settled.ready.tidy silence) fun _ timing => timing

/-- After its shutdown no timer of a node is live. -/
theorem Settled.live_shutdown (settled : n.Settled used sim) {x : Scheduled MeshEvent}
    (live : x ∈ (n.shutdown sim).2.live) : ¬ n.Mine x.event := by
  rintro ⟨kind, mine⟩
  have after := settled.shutdown not_false
  have held := (after.ready.holds kind).alone x live mine
  rw [slots_shutdown] at held
  cases held

theorem Made.slots {id : NodeId} {config : NodeConfig} (made : Made id config n) (kind : TimerKind) :
    n.slots kind = none := by
  have noRates := DeliveryRates.create_eq made.rates
  obtain ⟨eth, -, noProber⟩ := Prober.create_eq made.prober
  have noRoutes := RouteTable.create_eq made.routes
  cases kind with
  | discovery => exact congrArg (·.timer) noRates
  | probeRound => exact congrArg (·.rounds.roundTimer) noProber
  | probeNext => exact congrArg (·.rounds.probeTimer) noProber
  | advert => exact congrArg (·.advertTimer) noRoutes
  | trigger => exact congrArg (·.triggerTimer) noRoutes
  | routeDump => exact congrArg (·.dumpTimer) noRoutes
  | expiry ip => exact congrArg (·.expiryOf ip) noRoutes

/-- A new node is settled wherever no timer of its number is live. -/
theorem create_settled {id : NodeId} {config : NodeConfig} (done : create id config = .ok n)
    (valid : sim.WellFormed) (free : ∀ x ∈ sim.live, ∀ kind, x.event ≠ .timer id kind)
    {inUse : Prop} (fresh : ¬ inUse) : n.Settled inUse sim := by
  have made := made_of_create done
  obtain rfl := made.number
  have spares : Simulator.empty.Spares n.Mine sim := {
    valid := fun _ => valid
    nextId := Nat.zero_le _
    old := fun _ x _ given => absurd given (Nat.not_lt_zero _)
    same := fun _ x ⟨kind, mine⟩ => ⟨fun live => absurd mine (free x live kind), nofun⟩ }
  have sound : n.Sound sim :=
    (create_sound done).spares (spares.mono fun _ ⟨ip, route⟩ => ⟨.expiry ip, route⟩)
  refine ⟨⟨sound.composed, valid, fun kind => ?_, fun _ armed => ?_⟩, sound,
    fun used => absurd used fresh⟩
  · rw [made.slots]
    exact TimerSlot.holds_none fun x live => free x live kind
  · rw [made.slots] at armed
    cases armed

end MeshNode

end WirelessMesh
