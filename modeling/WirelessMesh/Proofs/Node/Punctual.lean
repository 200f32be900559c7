import WirelessMesh.Proofs.Node.Pace

/-!
Nodes that keep their pace. From its start to its shutdown a node does its periodic work a period after
the last time, give or take a tenth, whatever else happens in between, and has one timer set for each
such work, neither more nor less. Main statement: `MeshNode.periodic_work_keeps_pace`.
-/
namespace WirelessMesh

/-- When events of one kind have begun, of all that have, in order. -/
def begun (past : List (Scheduled MeshEvent)) (event : MeshEvent) : List Time :=
  (past.filter fun x => x.event = event).map (·.due)

theorem begun_concat (past : List (Scheduled MeshEvent)) (item : Scheduled MeshEvent)
    (event : MeshEvent) : begun (past ++ [item]) event =
      begun past event ++ if item.event = event then [item.due] else [] := by
  rw [begun, List.filter_append, List.map_append]
  by_cases same : item.event = event <;> simp [begun, same]

theorem begun_concat_of_ne {past : List (Scheduled MeshEvent)} {item : Scheduled MeshEvent}
    {event : MeshEvent} (other : item.event ≠ event) :
    begun (past ++ [item]) event = begun past event := by
  rw [begun_concat, if_neg other, List.append_nil]

/-- What the events that have begun had a node broadcast, and when. -/
def voiced (past : List (Scheduled MeshEvent)) (id : NodeId) : List (Time × UInt16) :=
  past.filterMap fun x => (x.event.broadcasts? id).map (x.due, ·)

private theorem voiced_concat (past : List (Scheduled MeshEvent)) (item : Scheduled MeshEvent)
    (id : NodeId) : voiced (past ++ [item]) id =
      voiced past id ++ (item.event.broadcasts? id).toList.map (item.due, ·) := by
  rw [voiced, List.filterMap_append]
  cases speaks : item.event.broadcasts? id <;> simp [voiced, speaks]

namespace MeshNode

/-- How far a node has got: it is started once, and shut down for good. -/
inductive Phase where
  | unstarted
  | running
  | ended
  deriving DecidableEq

/-- A node whose chance has been changed. -/
def withChance (n : MeshNode) (discovery adverts rounds : RandomSource) (salt : UInt64) : MeshNode :=
  { n with
    rates := { n.rates with random := discovery }
    prober := { n.prober with rounds := { n.prober.rounds with random := rounds, salt } }
    routes := { n.routes with random := adverts } }

/-- The nodes that can be reached from some settings, with the events that have begun so far, in order.
Chance may be anything at any time. Others may use the medium and the simulator as they like, except for
the timers and broadcasts of this node. -/
inductive Lived {μ : Type} [Medium μ] (config : NodeConfig) :
    Phase → MeshNode → Air (Watched μ) → List (Scheduled MeshEvent) → Prop
  | created {id : NodeId} {n : MeshNode} (medium : μ) (done : create id config = .ok n) :
      Lived config .unstarted n ⟨.empty, ⟨medium, []⟩⟩ []
  | logged {phase : Phase} {n : MeshNode} {air : Air (Watched μ)} {past : List (Scheduled MeshEvent)}
      (lived : Lived config phase n air past) : Lived config phase n.withRouteLog air past
  | drained {phase : Phase} {n : MeshNode} {air : Air (Watched μ)}
      {past : List (Scheduled MeshEvent)} (lived : Lived config phase n air past) :
      Lived config phase { n with routes := n.routes.drainLog.2 } air past
  | measured {phase : Phase} {n : MeshNode} {air : Air (Watched μ)}
      {past : List (Scheduled MeshEvent)} (lived : Lived config phase n air past)
      (peer : EtherAddress) (now : Time) : Lived config phase (n.linkReport peer now).2 air past
  | redrawn {phase : Phase} {n : MeshNode} {air : Air (Watched μ)}
      {past : List (Scheduled MeshEvent)} (lived : Lived config phase n air past)
      (discovery adverts rounds : RandomSource) (salt : UInt64) :
      Lived config phase (n.withChance discovery adverts rounds salt) air past
  | started {n : MeshNode} {air : Air (Watched μ)} {past : List (Scheduled MeshEvent)}
      (lived : Lived config .unstarted n air past) :
      Lived config .running (n.start air.sim).1 { air with sim := (n.start air.sim).2 } past
  | shutDown {phase : Phase} {n : MeshNode} {air : Air (Watched μ)}
      {past : List (Scheduled MeshEvent)} (lived : Lived config phase n air past) :
      Lived config .ended (n.shutdown air.sim).1 { air with sim := (n.shutdown air.sim).2 } past
  | received {phase : Phase} {n : MeshNode} {air : Air (Watched μ)}
      {past : List (Scheduled MeshEvent)} {frame : Frame} {next : MeshNode × Air (Watched μ)}
      (lived : Lived config phase n air past) (done : n.onFrame frame air = .ok next) :
      Lived config phase next.1 next.2 past
  | waited {phase : Phase} {n : MeshNode} {air : Air (Watched μ)}
      {past : List (Scheduled MeshEvent)} {limit : Time} (lived : Lived config phase n air past)
      (idle : air.sim.next? (some limit) = none) :
      Lived config phase n { air with sim := { air.sim with now := max air.sim.now limit } } past
  | fired {phase : Phase} {n : MeshNode} {air : Air (Watched μ)}
      {past : List (Scheduled MeshEvent)} {limit : Option Time} {item : Scheduled MeshEvent}
      {sim : Simulator MeshEvent} {next : MeshNode × Air (Watched μ)}
      (lived : Lived config phase n air past) (taken : air.sim.next? limit = some (item, sim))
      (done : n.onEvent { air with sim } item.event = .ok next) :
      Lived config phase next.1 next.2 (past ++ [item])
  | elsewhere {phase : Phase} {n : MeshNode} {air : Air (Watched μ)}
      {past : List (Scheduled MeshEvent)} {sim : Simulator MeshEvent} (medium : Watched μ)
      (lived : Lived config phase n air past) (spares : air.sim.Spares n.Mine sim)
      (silent : medium.said n.id = air.medium.said n.id) : Lived config phase n ⟨sim, medium⟩ past

variable {μ : Type} {config : NodeConfig} {phase : Phase} {n n' : MeshNode}
  {air air' : Air (Watched μ)} {past : List (Scheduled MeshEvent)} {limit : Option Time}
  {item : Scheduled MeshEvent} {sim : Simulator MeshEvent} {next : MeshNode × Air (Watched μ)}

theorem Sound.withChance {sim : Simulator MeshEvent} (sound : n.Sound sim)
    (discovery adverts rounds : RandomSource) (salt : UInt64) :
    (n.withChance discovery adverts rounds salt).Sound sim where
  rates := sound.rates
  prober := sound.prober.congr rfl rfl rfl
  routes :=
    sound.routes.congr rfl rfl sound.routes.advert sound.routes.trigger sound.routes.dump
  node := sound.node

/-- What is true of a node and the events that have begun: each routine has been done in step, and its
timer is set in step with the last time. -/
structure OnPace (config : NodeConfig) (phase : Phase) (n : MeshNode) (air : Air (Watched μ))
    (past : List (Scheduled MeshEvent)) : Prop where
  settled : n.Settled (phase = .running) air.sim
  follows : n.Follows config
  idle : phase ≠ .running → ∀ routine : Routine, n.slots routine.kind = none
  fresh : phase = .unstarted → ∀ routine : Routine, begun past (.timer n.id routine.kind) = []
  apart : ∀ routine : Routine, (begun past (.timer n.id routine.kind)).IsChain
    (InStep (config.periodMillis routine) (config.spreadMillis routine))
  due : ∀ (routine : Routine) (timer : Timer), n.slots routine.kind = some timer →
    ∀ last ∈ (begun past (.timer n.id routine.kind)).getLast?,
      InStep (config.periodMillis routine) (config.spreadMillis routine) last timer.firesAt
  said : air.medium.said n.id = voiced past n.id

namespace OnPace

/-- Whatever leaves routines and broadcasts alone keeps a node on its pace. -/
theorem quiet (pace : OnPace config phase n air past)
    (settled : n'.Settled (phase = .running) air'.sim) (id : n'.id = n.id)
    (tempo : n'.tempo = n.tempo)
    (slots : ∀ routine : Routine, n'.slots routine.kind = n.slots routine.kind)
    (said : air'.medium.said n.id = air.medium.said n.id) : OnPace config phase n' air' past where
  settled := settled
  follows := tempo.trans pace.follows
  idle other routine := (slots routine).trans (pace.idle other routine)
  fresh first routine := by
    rw [id]
    exact pace.fresh first routine
  apart routine := by
    rw [id]
    exact pace.apart routine
  due routine timer held := by
    rw [id]
    exact pace.due routine timer ((slots routine).symm.trans held)
  said := by
    rw [id]
    exact said.trans pace.said

theorem created {id : NodeId} (medium : μ) (done : create id config = .ok n) :
    OnPace config .unstarted n ⟨.empty, ⟨medium, []⟩⟩ [] := by
  have made := made_of_create done
  have settled : n.Settled (Phase.unstarted = .running) .empty :=
    create_settled done Simulator.empty_wellFormed nofun nofun
  exact {
    settled := settled
    follows := made.follows
    idle := fun _ routine => made.slots routine.kind
    fresh := fun _ _ => rfl
    apart := fun _ => .nil
    due := nofun
    said := rfl }

theorem started (pace : OnPace config .unstarted n air past) :
    OnPace config .running (n.start air.sim).1 { air with sim := (n.start air.sim).2 } past := by
  have composed := pace.settled.ready.composed
  exact {
    settled := pace.settled.start _
    follows := (tempo_start composed air.sim).trans pace.follows
    idle := fun other => absurd rfl other
    fresh := nofun
    apart := pace.apart
    due := fun routine _ _ last found => by
      have none : begun past (.timer (n.start air.sim).1.id routine.kind) = [] :=
        pace.fresh rfl routine
      rw [none] at found
      cases found
    said := pace.said }

theorem shutDown (pace : OnPace config phase n air past) :
    OnPace config .ended (n.shutdown air.sim).1 { air with sim := (n.shutdown air.sim).2 } past where
  settled := pace.settled.shutdown nofun
  follows := pace.follows
  idle _ routine := n.slots_shutdown air.sim routine.kind
  fresh := nofun
  apart := pace.apart
  due routine timer held := by
    rw [slots_shutdown] at held
    cases held
  said := pace.said

section Beginning

variable {routine : Routine}

theorem held (pace : OnPace config phase n air past)
    (taken : air.sim.next? limit = some (item, sim)) (own : item.event = .timer n.id routine.kind) :
    n.slots routine.kind = some ⟨item.id, item.due⟩ := by
  have live := pace.settled.ready.valid.next?_live taken
  exact (pace.settled.ready.holds routine.kind).alone item live own

theorem running (pace : OnPace config phase n air past)
    (taken : air.sim.next? limit = some (item, sim)) (own : item.event = .timer n.id routine.kind) :
    phase = .running := by
  by_contra other
  cases (pace.held taken own).symm.trans (pace.idle other routine)

private theorem apart_concat (pace : OnPace config phase n air past)
    (taken : air.sim.next? limit = some (item, sim)) (routine : Routine) :
    (begun (past ++ [item]) (.timer n.id routine.kind)).IsChain
      (InStep (config.periodMillis routine) (config.spreadMillis routine)) := by
  by_cases own : item.event = .timer n.id routine.kind
  · rw [begun_concat, if_pos own]
    refine List.isChain_append.mpr ⟨pace.apart routine, .singleton _, fun last found due here => ?_⟩
    obtain rfl := List.mem_singleton.mp (List.mem_of_mem_head? here)
    exact pace.due routine _ (pace.held taken own) last found
  · rw [begun_concat_of_ne own]
    exact pace.apart routine

variable [Medium μ] [LawfulMedium μ]

private theorem now_onEvent (pace : OnPace config phase n air past)
    (taken : air.sim.next? limit = some (item, sim))
    (done : n.onEvent { air with sim } item.event = .ok next) : next.2.sim.now = item.due := by
  have acts := pace.settled.ready.composed.acts_onEvent done
  have ready : n.Ready ({ air with sim } : Air (Watched μ)).sim := pace.settled.ready.next? taken
  rw [(acts.plays.changes (ready.tidy air.medium)).now]
  exact Simulator.next?_now taken

/-- The timer of a routine that is done is set in step with it, and all others stay as they are. -/
private theorem due_concat (fits : config.FitsClock) (pace : OnPace config phase n air past)
    (taken : air.sim.next? limit = some (item, sim))
    (done : n.onEvent { air with sim } item.event = .ok next) {timer : Timer}
    (set : next.1.slots routine.kind = some timer) :
    ∀ last ∈ (begun (past ++ [item]) (.timer n.id routine.kind)).getLast?,
      InStep (config.periodMillis routine) (config.spreadMillis routine) last timer.firesAt := by
  intro last found
  by_cases own : item.event = .timer n.id routine.kind
  · have now := pace.now_onEvent taken done
    rw [begun_concat, if_pos own, List.getLast?_concat] at found
    obtain rfl := Option.some.inj found
    rw [own, onEvent, if_pos rfl] at done
    obtain ⟨number, wait, rearmed, near⟩ := rearmed_onTimer fits pace.follows done
    obtain rfl := Option.some.inj (rearmed.symm.trans set)
    rw [now]
    exact near.inStep (fits.spread routine) item.due
  · have kept := slots_onEvent pace.settled.ready.composed own done
    rw [begun_concat_of_ne own] at found
    exact pace.due routine timer (kept.symm.trans set) last found

/-- Whatever event begins, a node that has carried it out is on its pace. -/
theorem fired [NumbersOnly μ] (fits : config.FitsClock) (pace : OnPace config phase n air past)
    (taken : air.sim.next? limit = some (item, sim))
    (done : n.onEvent { air with sim } item.event = .ok next) :
    OnPace config phase next.1 next.2 (past ++ [item]) := by
  have composed := pace.settled.ready.composed
  have id : next.1.id = n.id := (composed.acts_onEvent done).id
  have begins : ({ air with sim } : Air (Watched μ)).now = item.due := Simulator.next?_now taken
  refine ⟨pace.settled.onEvent taken done, (tempo_onEvent composed done).trans pace.follows,
    fun other routine => ?_, fun first routine => ?_, fun routine => ?_, fun routine timer set => ?_, ?_⟩
  · have apart : item.event ≠ .timer n.id routine.kind := fun own => other (pace.running taken own)
    rw [slots_onEvent composed apart done]
    exact pace.idle other routine
  · have apart : item.event ≠ .timer n.id routine.kind := fun own => by
      cases first.symm.trans (pace.running taken own)
    rw [id, begun_concat_of_ne apart]
    exact pace.fresh first routine
  · rw [id]
    exact pace.apart_concat taken routine
  · rw [id]
    exact pace.due_concat fits taken done set
  · rw [id, said_onEvent composed done, begins, voiced_concat, ← pace.said]

end Beginning

end OnPace

/-- A node whose routines run has one timer set for each, in step with the last time. -/
theorem OnPace.dueTimes (pace : OnPace config .running n air past) (routine : Routine) :
    ∃ due, air.sim.dueTimes (.timer n.id routine.kind) = [due] ∧
      ∀ last ∈ (begun past (.timer n.id routine.kind)).getLast?,
        InStep (config.periodMillis routine) (config.spreadMillis routine) last due := by
  have valid := pace.settled.ready.valid
  have holds := pace.settled.ready.holds routine.kind
  have recurs : n.Recurs routine.kind := by cases routine <;> trivial
  obtain ⟨x, live, mine⟩ := (holds.isArmed_iff valid).mp (pace.settled.steady rfl _ recurs)
  have held := holds.alone x live mine
  refine ⟨x.due, ?_, pace.due routine _ held⟩
  have due := (TimerSlot.due?_eq_some_iff valid).mpr ⟨_, held, x, live, rfl, rfl⟩
  rw [holds.dueTimes valid, due]
  rfl

private theorem OnPace.dueTimes_of_idle (pace : OnPace config phase n air past) (other : phase ≠ .running)
    (routine : Routine) : air.sim.dueTimes (.timer n.id routine.kind) = [] := by
  have holds := pace.settled.ready.holds routine.kind
  rw [holds.dueTimes pace.settled.ready.valid, pace.idle other routine]
  rfl

theorem Lived.onPace [Medium μ] [LawfulMedium μ] [NumbersOnly μ] (fits : config.FitsClock)
    (lived : Lived config phase n air past) : OnPace config phase n air past := by
  induction lived with
  | created medium done => exact .created medium done
  | logged _ ih => exact ih.quiet ih.settled.withRouteLog rfl rfl (fun _ => rfl) rfl
  | @drained _ n _ _ _ ih =>
    obtain ⟨log, same⟩ := n.routes.drainLog_eq
    have sound := ih.settled.sound.routed (.of_drainLog ih.settled.sound.routes)
    rw [same] at sound ⊢
    exact ih.quiet (ih.settled.congr (fun used => used) sound rfl rfl rfl) rfl rfl (fun _ => rfl) rfl
  | measured _ peer now ih =>
    have sound := ih.settled.sound.linkReport peer now
    exact ih.quiet (ih.settled.congr (fun used => used) sound rfl rfl rfl) rfl rfl (fun _ => rfl) rfl
  | redrawn _ discovery adverts rounds salt ih =>
    have sound := ih.settled.sound.withChance discovery adverts rounds salt
    exact ih.quiet (ih.settled.congr (fun used => used) sound rfl rfl rfl) rfl rfl (fun _ => rfl) rfl
  | started _ ih => exact ih.started
  | shutDown _ ih => exact ih.shutDown
  | received _ done ih =>
    have composed := ih.settled.ready.composed
    have acts := composed.acts_onFrame done
    exact ih.quiet (ih.settled.onFrame done) acts.id (tempo_onFrame done)
      (fun _ => slots_onFrame composed done) (said_onFrame composed done)
  | waited _ idle ih => exact ih.quiet (ih.settled.spares (.wait _ _)) rfl rfl (fun _ => rfl) rfl
  | fired _ taken done ih => exact ih.fired fits taken done
  | elsewhere medium _ spares silent ih =>
    exact ih.quiet (ih.settled.spares spares) rfl rfl (fun _ => rfl) silent

/-- In every run of a node, each routine is done a period after the last time, give or take the spread,
or, where the clock does not reach that far, at the last moment of the clock. While the node runs, each
routine has one timer set, in step with the last time, and otherwise none. What the node has broadcast
is what these times and the adverts that changes set off call for, each at its moment. -/
theorem periodic_work_keeps_pace [Medium μ] [LawfulMedium μ] [NumbersOnly μ]
    (fits : config.FitsClock) (lived : Lived config phase n air past) :
    (∀ routine : Routine,
      let event := MeshEvent.timer n.id routine.kind
      let inStep := InStep (config.periodMillis routine) (config.spreadMillis routine)
      (begun past event).IsChain inStep ∧
        (phase = .running → ∃ due, air.sim.dueTimes event = [due] ∧
          ∀ last ∈ (begun past event).getLast?, inStep last due) ∧
        (phase ≠ .running → air.sim.dueTimes event = [])) ∧
      air.medium.said n.id = voiced past n.id := by
  have pace := lived.onPace fits
  refine ⟨fun routine => ⟨pace.apart routine, ?_, fun other => pace.dueTimes_of_idle other routine⟩,
    pace.said⟩
  rintro rfl
  exact pace.dueTimes routine

/-- A node on its own in the world, with the events that have begun. -/
structure Course where
  node : MeshNode
  air : Air (Watched Transcript)
  past : List (Scheduled MeshEvent)

def Course.carryOn : Nat → Course → Option Course
  | 0, course => some course
  | k + 1, course => do
    let (item, sim) ← course.air.sim.next? none
    let next ← (course.node.onEvent { course.air with sim } item.event).toOption
    carryOn k ⟨next.1, next.2, course.past ++ [item]⟩

/-- The first node is made, and started at some time; then a number of events begin. -/
def courseFrom (config : NodeConfig) (start : Time) (events : Nat) : Option Course := do
  let n ← (create 0 config).toOption
  let (n, sim) := n.start { Simulator.empty with now := max .zero start }
  Course.carryOn events ⟨n, ⟨sim, ⟨{}, []⟩⟩, []⟩

theorem Lived.carryOn {events : Nat} {course after : Course}
    (lived : Lived config phase course.node course.air course.past)
    (done : course.carryOn events = some after) : Lived config phase after.node after.air after.past := by
  induction events generalizing course with
  | zero => exact Option.some.inj done ▸ lived
  | succ k ih =>
    obtain ⟨⟨item, sim⟩, taken, rest⟩ := Option.bind_eq_some_iff.mp done
    obtain ⟨next, carried, rest⟩ := Option.bind_eq_some_iff.mp rest
    exact ih (lived.fired taken (ok_of_toOption carried)) rest

theorem lived_of_courseFrom {start : Time} {events : Nat} {after : Course}
    (done : courseFrom config start events = some after) :
    Lived config .running after.node after.air after.past := by
  obtain ⟨n, made, rest⟩ := Option.bind_eq_some_iff.mp done
  have created : Lived config .unstarted n ⟨.empty, ⟨({} : Transcript), []⟩⟩ [] :=
    .created _ (ok_of_toOption made)
  have idle : (Simulator.empty : Simulator MeshEvent).next? (some start) = none := rfl
  exact (created.waited idle).started.carryOn rest

theorem fitsClock_ofIndex (i : Nat) : (NodeConfig.ofIndex i).FitsClock := by
  intro routine
  cases routine <;> simp [NodeConfig.periodMillis, NodeConfig.ofIndex]

/-- Of the usual settings, the second discovery frame goes out 1040 milliseconds after the first and the
second round starts 1057 after the first, which is in step. -/
theorem second_times_in_step : ∃ course, courseFrom (.ofIndex 0) .zero 4 = some course ∧
    InStep 1000 100 (.ofMillis 590) (.ofMillis 1630) ∧
    InStep 1000 100 (.ofMillis 230) (.ofMillis 1287) ∧
    (course.air.sim.dueTimes (.timer 0 .advert)).length = 1 ∧
    course.air.medium.said 0 =
      [(.ofMillis 590, FrameType.discovery), (.ofMillis 1630, FrameType.discovery)] := by
  have seen : (courseFrom (.ofIndex 0) .zero 4).map (fun course => (course.node.id,
      begun course.past (.timer 0 .discovery), begun course.past (.timer 0 .probeRound),
      voiced course.past 0)) =
    some (0, [.ofMillis 590, .ofMillis 1630], [.ofMillis 230, .ofMillis 1287],
      [(.ofMillis 590, FrameType.discovery), (.ofMillis 1630, FrameType.discovery)]) := by
    decide +kernel
  obtain ⟨course, found, seen⟩ := Option.map_eq_some_iff.mp seen
  simp only [Prod.mk.injEq] at seen
  obtain ⟨number, discovery, rounds, voices⟩ := seen
  obtain ⟨routines, said⟩ :=
    periodic_work_keeps_pace (fitsClock_ofIndex 0) (lived_of_courseFrom found)
  rw [number] at routines said
  obtain ⟨frames, -⟩ := routines .discovery
  obtain ⟨probes, -⟩ := routines .round
  obtain ⟨-, adverts, -⟩ := routines .advert
  obtain ⟨due, set, -⟩ := adverts rfl
  rw [Routine.kind, discovery, List.isChain_pair] at frames
  rw [Routine.kind, rounds, List.isChain_pair] at probes
  exact ⟨course, found, frames, probes, congrArg List.length set, said.trans voices⟩

/-- Close to the end of the clock the second discovery frame goes out only 610 milliseconds after the
first, at the last moment of the clock. -/
theorem last_times_hurried : ¬ ∀ (config : NodeConfig) (phase : Phase) (n : MeshNode)
    (air : Air (Watched Transcript)) (past : List (Scheduled MeshEvent)), config.FitsClock →
    Lived config phase n air past → ∀ routine : Routine,
      (begun past (.timer n.id routine.kind)).IsChain
        (OnTime (config.periodMillis routine) (config.spreadMillis routine)) := by
  intro keeps
  have seen : (courseFrom (.ofIndex 0) (.ofNanos 18446744072509551615) 6).map
      (fun course => (course.node.id, begun course.past (.timer 0 .discovery))) =
    some (0, [.ofNanos 18446744073099551615, .ofNanos 18446744073709551615]) := by
    decide +kernel
  obtain ⟨course, found, seen⟩ := Option.map_eq_some_iff.mp seen
  obtain ⟨number, discovery⟩ := Prod.mk.inj seen
  have onTime := keeps _ _ _ _ _ (fitsClock_ofIndex 0) (lived_of_courseFrom found) .discovery
  rw [number, Routine.kind, discovery, List.isChain_pair] at onTime
  revert onTime
  unfold OnTime
  decide

end MeshNode

end WirelessMesh
