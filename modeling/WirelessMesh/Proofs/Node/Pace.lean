import WirelessMesh.Proofs.Air.Watched
import WirelessMesh.Proofs.Node.Creation
import WirelessMesh.Proofs.Node.Settled

namespace WirelessMesh

/-- A number of milliseconds is a period, or less than a spread off it. -/
def NearPeriod (period spread wait : Nat) : Prop :=
  if spread = 0 then wait = period else period - spread ≤ wait ∧ wait < period + spread

/-- A moment comes a period after another, or less than a spread off it. -/
def OnTime (period spread : Nat) (earlier later : Time) : Prop :=
  if spread = 0 then later.ns = earlier.ns + period * 1_000_000
  else earlier.ns + (period - spread) * 1_000_000 ≤ later.ns ∧
    later.ns < earlier.ns + (period + spread) * 1_000_000

/-- A moment comes on time after another, or, where the clock does not reach that far, at the last moment
of the clock. -/
def InStep (period spread : Nat) (earlier later : Time) : Prop :=
  OnTime period spread earlier later ∨
    (0xffff_ffff_ffff_ffff < earlier.ns + (period + spread) * 1_000_000 ∧
      later.ns = 0xffff_ffff_ffff_ffff)

theorem jitteredMillis_near (period : Nat) (random : RandomSource) :
    NearPeriod period (period / 10) (jitteredMillis period random).1 := by
  unfold NearPeriod jitteredMillis
  by_cases short : period / 10 = 0
  · simp only [short, if_true]
  · have positive : 0 < period / 10 * 2 := by omega
    have drawn := random.below_lt positive
    simp only [short, if_false]
    omega

theorem NearPeriod.inStep {period spread wait : Nat} (near : NearPeriod period spread wait)
    (fits : (period + spread) * 1_000_000 ≤ 0xffff_ffff_ffff_ffff) (t : Time) :
    InStep period spread t (t + .ofMillis wait) := by
  have reach : wait ≤ period + spread := by
    unfold NearPeriod at near
    split at near <;> omega
  have whole : (Time.ofMillis wait).ns = wait * 1_000_000 := by
    rw [Time.ofMillis, Time.ns_ofNanos]
    omega
  unfold NearPeriod at near
  unfold InStep OnTime
  rw [Time.ns_add, whole]
  split at near
  · next none =>
    rw [if_pos none]
    omega
  · next some =>
    rw [if_neg some]
    omega

/-- What a node does over and over. -/
inductive Routine where
  /-- Broadcasting discovery frames. -/
  | discovery
  /-- Rounds of probing. -/
  | round
  /-- Broadcasting its routes. -/
  | advert
  deriving DecidableEq

/-- The timer for each time of a routine. -/
def Routine.kind : Routine → TimerKind
  | .discovery => .discovery
  | .round => .probeRound
  | .advert => .advert

theorem Routine.lasting (routine : Routine) : ¬ routine.kind.Passing := by
  cases routine <;> exact fun never => never

namespace NodeConfig

/-- The milliseconds from one time of a routine to the next. -/
def periodMillis (config : NodeConfig) : Routine → Nat
  | .discovery => config.discovery.periodMillis
  | .round => config.probing.periodMillis
  | .advert => config.routing.periodMillis

/-- The milliseconds by which the next time of a routine may come early or late: a tenth of its period,
but none for rounds that reach all neighbours at once. -/
def spreadMillis (config : NodeConfig) : Routine → Nat
  | .round =>
    match config.probing.schedule with
    | .staggered => config.probing.periodMillis / 10
    | .batch => 0
  | .discovery => config.discovery.periodMillis / 10
  | .advert => config.routing.periodMillis / 10

/-- The longest time between two times of a routine is one that the clock can show. -/
def FitsClock (config : NodeConfig) : Prop :=
  ∀ routine, (config.periodMillis routine + config.periodMillis routine / 10) * 1_000_000 ≤
    0xffff_ffff_ffff_ffff

private theorem spreadMillis_le (config : NodeConfig) (routine : Routine) :
    config.spreadMillis routine ≤ config.periodMillis routine / 10 := by
  cases routine with
  | discovery => exact Nat.le_refl _
  | advert => exact Nat.le_refl _
  | round =>
    unfold spreadMillis periodMillis
    simp only
    split <;> omega

theorem FitsClock.spread {config : NodeConfig} (fits : config.FitsClock) (routine : Routine) :
    (config.periodMillis routine + config.spreadMillis routine) * 1_000_000 ≤
      0xffff_ffff_ffff_ffff := by
  have longest := Nat.add_le_add_left (config.spreadMillis_le routine) (config.periodMillis routine)
  exact (Nat.mul_le_mul_right _ longest).trans (fits routine)

end NodeConfig

variable {μ : Type} [Medium μ] {air : Air μ}

private theorem DeliveryRates.timer_onTimer (d : DeliveryRates) (air : Air μ) :
    ∃ id, (d.onTimer air).1.timer = some ⟨id, (d.onTimer air).2.sim.now +
      .ofMillis (jitteredMillis d.config.periodMillis d.random).1⟩ := ⟨_, rfl⟩

private theorem RouteTable.advertTimer_onAdvertTimer (t : RouteTable) (air : Air μ) :
    ∃ id, (t.onAdvertTimer air).1.advertTimer = some ⟨id, (t.onAdvertTimer air).2.sim.now +
      .ofMillis (jitteredMillis t.config.periodMillis t.random).1⟩ := ⟨_, rfl⟩

theorem RouteTable.same_onDumpTimer (t : RouteTable) (sim : Simulator MeshEvent) :
    (t.onDumpTimer sim).1.config = t.config ∧ (t.onDumpTimer sim).1.advertTimer = t.advertTimer := by
  unfold onDumpTimer
  obtain ⟨dumpTimer, same⟩ :=
    (t.note sim.now (.routeDump ((t.servedRows sim.now).map .ofRow))).armDump_eq sim
  rw [same]
  exact ⟨rfl, rfl⟩

namespace ProbeRounds

def tempo (r : ProbeRounds) : ProbeSchedule × Time := (r.schedule, r.period)

private theorem tempo_startOffset (r : ProbeRounds) (address : EtherAddress) (now : Time) :
    (r.startOffset address now).2.tempo = r.tempo := by
  unfold startOffset
  split <;> rfl

private theorem tempo_nextRoundDelay (r : ProbeRounds) (address : EtherAddress) (now : Time) :
    (r.nextRoundDelay address now).2.tempo = r.tempo := by
  unfold nextRoundDelay
  split
  · simp only
    split <;> rfl
  · rfl

/-- The next round is about a period away, and a whole period if all neighbours are reached at once. -/
private theorem nextRoundDelay_near {r : ProbeRounds} {config : NodeConfig} (fits : config.FitsClock)
    (tempo : r.tempo = (config.probing.schedule, config.probing.period)) (address : EtherAddress)
    (now : Time) : ∃ wait, (r.nextRoundDelay address now).1 = .ofMillis wait ∧
      NearPeriod (config.periodMillis .round) (config.spreadMillis .round) wait := by
  obtain ⟨schedule, period⟩ := Prod.mk.inj tempo
  have millis : r.period.millis = config.probing.periodMillis := by
    have room := fits .round
    rw [period, Time.millis, ProbingConfig.period, Time.ofMillis, Time.ns_ofNanos]
    simp only [NodeConfig.periodMillis] at room
    omega
  unfold nextRoundDelay NodeConfig.spreadMillis NodeConfig.periodMillis
  rw [schedule]
  cases config.probing.schedule with
  | batch => exact ⟨_, period, rfl⟩
  | staggered =>
    have same : (r.reseed address now).period = r.period := rfl
    simp only [same, millis]
    split
    · next short => exact ⟨_, period, by rw [NearPeriod, if_pos short]⟩
    · exact ⟨_, rfl, jitteredMillis_near _ _⟩

end ProbeRounds

namespace Prober

theorem rounds_sendPair (p : Prober) (peer : EtherAddress) (air : Air μ) :
    (p.sendPair peer air).1.rounds = p.rounds := (pendingReport_same p peer air.now).2.2.2

private theorem rounds_probeAll (peers : List EtherAddress) : ∀ (p : Prober) (air : Air μ),
    (p.probeAll peers air).1.rounds = p.rounds := by
  induction peers with
  | nil => exact fun _ _ => rfl
  | cons peer rest ih => exact fun p air => (ih _ _).trans (p.rounds_sendPair peer air)

/-- Going on with a round sets no other timer than that of the next probe. -/
theorem rounds_probeNext (p : Prober) (air : Air μ) :
    ∃ slot, (p.probeNext air).1.rounds = { p.rounds with probeTimer := slot } := by
  unfold probeNext
  simp only
  split
  · exact ⟨p.rounds.probeTimer, rfl⟩
  · next peer _ =>
    rw [rounds_sendPair]
    exact ⟨_, rfl⟩

private theorem rounds_onProbe (p : Prober) (frame : Frame) (probe : LinkProbe) (air : Air μ) :
    (p.onProbe frame probe air).1.rounds = p.rounds := by
  unfold onProbe
  simp only
  split
  · exact (takeReport_same _ frame air.now).2
  · split <;> rfl

theorem rounds_onFrame (p : Prober) (frame : Frame) (air : Air μ) :
    (p.onFrame frame air).2.1.rounds = p.rounds := by
  unfold onFrame
  split
  · rfl
  · split
    · split
      · rfl
      · split
        · split
          · rfl
          · split
            · exact p.rounds_onProbe frame _ air
            · rfl
        · exact (takeReport_same p frame air.now).2
    · rfl

/-- A round ends with the setting of the next, when nothing about rounds has changed. -/
theorem onRoundTimer_eq (p : Prober) (air : Air μ) :
    ∃ (q : Prober) (mid : Air μ), q.rounds.tempo = p.rounds.tempo ∧
      let next := q.rounds.nextRoundDelay q.eth air.now
      let armed := next.2.armRound mid.sim next.1 q.node
      p.onRoundTimer air = ({ q with rounds := armed.1 }, { mid with sim := armed.2 }) := by
  unfold onRoundTimer
  cases schedule : p.rounds.schedule with
  | staggered =>
    simp only [ProbeRounds.beginRound, schedule]
    refine ⟨_, _, ?_, rfl⟩
    obtain ⟨slot, same⟩ := rounds_probeNext _ air
    rw [same]
    exact congrArg (·, p.rounds.period) schedule.symm
  | batch =>
    simp only [ProbeRounds.beginRound, schedule]
    refine ⟨_, _, ?_, rfl⟩
    rw [rounds_probeAll]
    exact congrArg (·, p.rounds.period) schedule.symm

end Prober

namespace MeshNode

variable {n : MeshNode} {next : MeshNode × Air μ} {config : NodeConfig} {kind : TimerKind}
  {routine : Routine} {frame : Frame} {event : MeshEvent}

def tempo (n : MeshNode) : DiscoveryConfig × RoutingConfig × ProbeSchedule × Time :=
  (n.rates.config, n.routes.config, n.prober.rounds.tempo)

def Follows (n : MeshNode) (config : NodeConfig) : Prop :=
  n.tempo = (config.discovery, config.routing, config.probing.schedule, config.probing.period)

theorem Made.follows {id : NodeId} (made : Made id config n) : n.Follows config := by
  obtain ⟨_, -, prober⟩ := Prober.create_eq made.prober
  rw [Follows, tempo, DeliveryRates.create_eq made.rates, RouteTable.create_eq made.routes, prober]
  rfl

theorem onRoundTimer_ok (done : n.onTimer .probeRound air = .ok next) :
    next = ({ n with prober := (n.prober.onRoundTimer air).1 }, (n.prober.onRoundTimer air).2) :=
  (Except.ok.inj done).symm

private theorem tempo_onTimer (composed : n.Composed) (done : n.onTimer kind air = .ok next) :
    next.1.tempo = n.tempo := by
  cases kind with
  | expiry ip =>
    obtain ⟨⟨t, sim⟩, expired, rfl⟩ := ok_of_map done
    have acts : RouteTable.Acts Deed.Passing n.slots n.routes air t { air with sim } :=
      RouteTable.acts_onExpiry (composed.keyed ip) expired
    exact congrArg (n.rates.config, ·, n.prober.rounds.tempo) acts.config
  | probeRound =>
    obtain ⟨q, mid, same, whole⟩ := n.prober.onRoundTimer_eq air
    have kept := (q.rounds.tempo_nextRoundDelay q.eth air.now).trans same
    rw [onRoundTimer_ok done, whole]
    exact congrArg (n.rates.config, n.routes.config, ·) kept
  | probeNext =>
    obtain rfl := Except.ok.inj done
    obtain ⟨slot, same⟩ := n.prober.rounds_probeNext air
    exact congrArg (n.rates.config, n.routes.config, ·.tempo) same
  | routeDump =>
    obtain rfl := Except.ok.inj done
    have same := (n.routes.same_onDumpTimer air.sim).1
    exact congrArg (n.rates.config, ·, n.prober.rounds.tempo) same
  | discovery => cases done; rfl
  | advert => cases done; rfl
  | trigger => cases done; rfl

theorem tempo_onFrame (done : n.onFrame frame air = .ok next) : next.1.tempo = n.tempo := by
  cases takes_onFrame done with
  | discovery =>
    have same := (n.rates.same_onFrame frame air.now).2.1
    exact congrArg (·, n.routes.config, n.prober.rounds.tempo) same
  | probing =>
    exact congrArg (n.rates.config, n.routes.config, ·.tempo) (n.prober.rounds_onFrame frame air)
  | advert _ taken =>
    have acts : RouteTable.Acts Deed.Passing n.slots n.routes ⟨air.sim, air.medium⟩ _ _ :=
      RouteTable.acts_handleAdvert taken
    exact congrArg (n.rates.config, ·, n.prober.rounds.tempo) acts.config
  | ignored => rfl
  | rejected => rfl

theorem tempo_onEvent (composed : n.Composed) (done : n.onEvent air event = .ok next) :
    next.1.tempo = n.tempo := by
  cases handles_onEvent done with
  | timer done => exact tempo_onTimer composed done
  | arrival done => exact tempo_onFrame done
  | elsewhere => rfl

theorem tempo_start (composed : n.Composed) (sim : Simulator MeshEvent) :
    (n.start sim).1.tempo = n.tempo := by
  have rounds := n.prober.rounds.tempo_startOffset n.prober.eth (n.rates.start sim).2.now
  have acts : Acts (Deed.Setting n.Dumps) n ⟨sim, silence⟩ _ _ := composed.acts_start
  exact congrArg₂ (n.rates.config, ·, ·) acts.config rounds

/-- When a routine has been done, its timer is set for about a period from then. -/
theorem rearmed_onTimer (fits : config.FitsClock) (follows : n.Follows config)
    (done : n.onTimer routine.kind air = .ok next) :
    ∃ id wait, next.1.slots routine.kind = some ⟨id, next.2.sim.now + .ofMillis wait⟩ ∧
      NearPeriod (config.periodMillis routine) (config.spreadMillis routine) wait := by
  obtain ⟨discovery, rest⟩ := Prod.mk.inj follows
  obtain ⟨routing, rounds⟩ := Prod.mk.inj rest
  cases routine with
  | discovery =>
    obtain rfl := Except.ok.inj done
    obtain ⟨id, set⟩ := n.rates.timer_onTimer air
    refine ⟨id, _, set, ?_⟩
    rw [discovery]
    exact jitteredMillis_near _ _
  | round =>
    obtain ⟨q, mid, same, whole⟩ := n.prober.onRoundTimer_eq air
    obtain ⟨wait, delay, near⟩ :=
      ProbeRounds.nextRoundDelay_near fits (same.trans rounds) q.eth air.now
    rw [onRoundTimer_ok done, whole]
    simp only [delay]
    exact ⟨_, wait, rfl, near⟩
  | advert =>
    obtain rfl := Except.ok.inj done
    obtain ⟨id, set⟩ := n.routes.advertTimer_onAdvertTimer air
    refine ⟨id, _, set, ?_⟩
    rw [routing]
    exact jitteredMillis_near _ _

private theorem slots_onTimer (composed : n.Composed) (other : kind ≠ routine.kind)
    (done : n.onTimer kind air = .ok next) :
    next.1.slots routine.kind = n.slots routine.kind := by
  cases kind with
  | expiry ip =>
    obtain ⟨⟨t, sim⟩, expired, rfl⟩ := ok_of_map done
    have acts : Acts Deed.Passing n air { n with routes := t } { air with sim } :=
      .routed composed.routes (RouteTable.acts_onExpiry (composed.keyed ip) expired)
    exact acts.plays.slots fun deed passing => passing.timer_ne routine.lasting
  | routeDump =>
    obtain rfl := Except.ok.inj done
    cases routine with
    | advert => exact (n.routes.same_onDumpTimer air.sim).2
    | discovery => rfl
    | round => rfl
  | probeNext =>
    obtain rfl := Except.ok.inj done
    obtain ⟨slot, same⟩ := n.prober.rounds_probeNext air
    cases routine with
    | round => exact congrArg (·.roundTimer) same
    | discovery => rfl
    | advert => rfl
  | probeRound =>
    rw [onRoundTimer_ok done]
    cases routine with
    | round => exact absurd rfl other
    | discovery => rfl
    | advert => rfl
  | discovery =>
    obtain rfl := Except.ok.inj done
    cases routine with
    | discovery => exact absurd rfl other
    | round => rfl
    | advert => rfl
  | advert =>
    obtain rfl := Except.ok.inj done
    cases routine with
    | advert => exact absurd rfl other
    | discovery => rfl
    | round => rfl
  | trigger =>
    obtain rfl := Except.ok.inj done
    cases routine <;> rfl

theorem slots_onFrame (composed : n.Composed) (done : n.onFrame frame air = .ok next) :
    next.1.slots routine.kind = n.slots routine.kind := by
  cases takes_onFrame done with
  | discovery =>
    cases routine with
    | discovery => exact (n.rates.same_onFrame frame air.now).2.2
    | round => rfl
    | advert => rfl
  | probing =>
    have same := n.prober.rounds_onFrame frame air
    cases routine with
    | round => exact congrArg (·.roundTimer) same
    | discovery => rfl
    | advert => rfl
  | advert _ taken =>
    have acts : Acts Deed.Passing (n.linkMetric frame.source air.now).2 air _ _ :=
      .routed composed.routes (RouteTable.acts_handleAdvert taken)
    exact acts.plays.slots fun deed passing => passing.timer_ne routine.lasting
  | ignored => rfl
  | rejected => rfl

/-- The timer of a routine stays where it is until it fires. -/
theorem slots_onEvent (composed : n.Composed) (other : event ≠ .timer n.id routine.kind)
    (done : n.onEvent air event = .ok next) :
    next.1.slots routine.kind = n.slots routine.kind := by
  cases handles_onEvent done with
  | timer done => exact slots_onTimer composed (fun same => other (by rw [same])) done
  | arrival done => exact slots_onFrame composed done
  | elsewhere => rfl

end MeshNode

/-- The type of the frame that a timer has broadcast when it fires. -/
def TimerKind.broadcasts? : TimerKind → Option UInt16
  | .discovery => some FrameType.discovery
  | .advert | .trigger => some FrameType.advert
  | _ => none

/-- What an event has a node broadcast. -/
def MeshEvent.broadcasts? (event : MeshEvent) (id : NodeId) : Option UInt16 :=
  match event with
  | .timer node kind => if node = id then kind.broadcasts? else none
  | .arrival _ _ => none

private theorem MeshEvent.broadcasts?_of_not_timer {event : MeshEvent} {id : NodeId}
    (other : ∀ kind, event ≠ .timer id kind) : event.broadcasts? id = none := by
  cases event with
  | timer node kind =>
    rw [broadcasts?, if_neg]
    rintro rfl
    exact other kind rfl
  | arrival node frame => rfl

def Speech.aside : Speech := ⟨fun _ => True, fun _ => False, fun _ => True⟩

theorem Deed.Within.quiet {dumps : Prop} {deed : Deed} (within : deed.Within dumps .aside) :
    deed.Quiet := by
  cases deed with
  | announce draft => exact within
  | _ => exact trivial

namespace MeshNode

variable {n : MeshNode} {air : Air (Watched μ)} {next : MeshNode × Air (Watched μ)}
  {kind : TimerKind} {frame : Frame} {event : MeshEvent}

theorem said_onFrame (composed : n.Composed) (done : n.onFrame frame air = .ok next) :
    next.2.medium.said n.id = air.medium.said n.id := by
  have may : n.MayAnswer .aside frame := ⟨fun _ => trivial, fun _ => trivial⟩
  have acts := composed.within_onFrame may done
  rw [Watched.said, acts.plays.broadcasts fun _ => Deed.Within.quiet, Watched.said]

private theorem said_probing {p : Prober} {air' : Air (Watched μ)}
    (acts : Prober.Acts (Deed.Within True .aside) n.slots n.prober air p air') :
    air'.medium.said n.id = air.medium.said n.id := by
  rw [Watched.said, acts.plays.broadcasts fun _ => Deed.Within.quiet, Watched.said]

private theorem said_onTimer [NumbersOnly μ] (composed : n.Composed)
    (done : n.onTimer kind air = .ok next) :
    next.2.medium.said n.id =
      air.medium.said n.id ++ kind.broadcasts?.toList.map (air.now, ·) := by
  have may : ∀ peer ∈ n.prober.neighbors.keys, n.prober.MayProbe .aside peer :=
    fun _ _ => ⟨fun _ => trivial, fun _ => trivial⟩
  cases kind with
  | discovery =>
    obtain rfl := Except.ok.inj done
    rw [← composed.rates]
    exact air.said_announce n.rates.node (n.rates.nextDraft air.now)
  | advert =>
    obtain rfl := Except.ok.inj done
    rw [← composed.routes]
    exact air.said_announce n.routes.node ({ n.routes with seq := n.routes.seq + 2 }.advertDraft air.now)
  | trigger =>
    obtain rfl := Except.ok.inj done
    rw [← composed.routes]
    exact air.said_announce n.routes.node (n.routes.advertDraft air.now)
  | probeRound =>
    rw [onRoundTimer_ok done]
    exact (said_probing (Prober.acts_onRoundTimer may)).trans (List.append_nil _).symm
  | probeNext =>
    obtain rfl := Except.ok.inj done
    exact (said_probing (Prober.acts_probeNext may)).trans (List.append_nil _).symm
  | expiry ip =>
    obtain ⟨⟨t, sim⟩, -, rfl⟩ := ok_of_map done
    exact (List.append_nil _).symm
  | routeDump =>
    obtain rfl := Except.ok.inj done
    exact (List.append_nil _).symm

/-- A node has something broadcast when a timer for it fires, and at no other time. -/
theorem said_onEvent [NumbersOnly μ] (composed : n.Composed)
    (done : n.onEvent air event = .ok next) :
    next.2.medium.said n.id =
      air.medium.said n.id ++ (event.broadcasts? n.id).toList.map (air.now, ·) := by
  cases handles_onEvent done with
  | timer done =>
    rw [MeshEvent.broadcasts?, if_pos rfl]
    exact said_onTimer composed done
  | arrival done => exact (said_onFrame composed done).trans (List.append_nil _).symm
  | elsewhere timers =>
    rw [MeshEvent.broadcasts?_of_not_timer timers]
    exact (List.append_nil _).symm

end MeshNode

end WirelessMesh
