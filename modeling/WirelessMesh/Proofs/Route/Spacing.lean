import WirelessMesh.Proofs.Route.Tending

namespace WirelessMesh

namespace RouteTable

variable {t t' : RouteTable} {sim sim' : Simulator MeshEvent} {ip : IPv4} {slot : TimerSlot}
  {before : Predecessor} {r : RouteRow}

/-- No trigger is to fire sooner than an advert may follow the last one. -/
structure Paced (t : RouteTable) (sim : Simulator MeshEvent) : Prop where
  tended : t.Tended sim
  spaced : ∀ x ∈ sim.live, x.event = triggerEvent t.node → ∀ sent, t.lastAdvert = some sent →
    sent + t.config.minTriggered ≤ x.due

namespace Paced

/-- What leaves triggers alone and is not an advert leaves them as far apart. -/
theorem spares (paced : t.Paced sim) (tended : t'.Tended sim') (node : t'.node = t.node)
    (config : t'.config = t.config) (last : t'.lastAdvert = t.lastAdvert)
    (spares : sim.Spares (· = triggerEvent t.node) sim') : t'.Paced sim' := by
  refine ⟨tended, fun x member trigger => ?_⟩
  rw [node] at trigger
  rw [config, last]
  exact paced.spaced x ((spares.same paced.tended.valid x trigger).mp member) trigger

theorem elsewhere (paced : t.Paced sim) (spares : sim.Spares (· = triggerEvent t.node) sim') :
    t.Paced sim' :=
  paced.spares (paced.tended.spares spares) rfl rfl rfl spares

theorem tends (paced : t.Paced sim) (tends : t.Tends sim t' sim') : t'.Paced sim' :=
  paced.spares tends.tended tends.node tends.config tends.lastAdvert tends.spares

/-- A trigger that is asked for fires no sooner than an advert may follow the last one. -/
theorem requestTrigger (paced : t.Paced sim) :
    (t.requestTrigger sim).1.Paced (t.requestTrigger sim).2 := by
  obtain ⟨tended, -, fresh⟩ := paced.tended.requestTrigger
  have kept := requestTrigger_kept t sim
  refine ⟨tended, fun x member trigger sent last => ?_⟩
  rw [kept.node] at trigger
  rw [kept.lastAdvert] at last
  rw [kept.config]
  rcases fresh x member trigger with old | due
  · exact paced.spaced x old trigger sent last
  · simp only [due, earliestAdvert, last, Time.le_def, Time.ns_max]
    omega

theorem proceeds (proceeds : t.Proceeds sim t' sim') (paced : t.Paced sim) : t'.Paced sim' := by
  have asks := (proceeds.asks paced.tended).1
  clear proceeds
  induction asks with
  | tends tends => exact paced.tends tends
  | requested t sim => exact paced.requestTrigger
  | trans first second ih ih' => exact ih' (ih paced)

private theorem of_silent (silent : t.Silent sim) : t.Paced sim :=
  ⟨silent.tended, fun x member trigger => absurd trigger (silent.quiet x member)⟩

end Paced

/-- An advert that a table has sent. -/
structure Announcement where
  time : Time
  /-- Whether a change has set it off. -/
  triggered : Bool
  deriving DecidableEq

/-- The tables that can be reached with the adverts that they have sent so far, in order. Timers run
when they fire, and only then. Others may use the simulator as they like, except for the trigger. -/
inductive Announced {μ : Type} [Medium μ] : RouteTable → Air μ → List Announcement → Prop
  | created {node : NodeId} {ip : IPv4} {eth : EtherAddress} {config : RoutingConfig}
      {random : RandomSource} {t : RouteTable} (medium : μ)
      (done : create node ip eth config random = .ok t) : Announced t ⟨.empty, medium⟩ []
  | logged {t : RouteTable} {air : Air μ} {past : List Announcement} (run : Announced t air past)
      (log : RouteLog) : Announced (t.setLog log) air past
  | drained {t : RouteTable} {air : Air μ} {past : List Announcement} (run : Announced t air past) :
      Announced t.drainLog.2 air past
  | heard {t : RouteTable} {air : Air μ} {past : List Announcement} {sender : EtherAddress}
      {advert : RouteAdvert} {link : Metric} {after : Considered} (run : Announced t air past)
      (done : t.handleAdvert sender advert link air.sim = .ok after) :
      Announced after.table { air with sim := after.sim } past
  | started {t : RouteTable} {air : Air μ} {past : List Announcement} (run : Announced t air past) :
      Announced (t.start air.sim).1 { air with sim := (t.start air.sim).2 } past
  | stopped {t : RouteTable} {air : Air μ} {past : List Announcement} (run : Announced t air past) :
      Announced (t.stop air.sim).1 { air with sim := (t.stop air.sim).2 } past
  | waited {t : RouteTable} {air : Air μ} {past : List Announcement} {limit : Time}
      (run : Announced t air past) (idle : air.sim.next? (some limit) = none) :
      Announced t { air with sim := { air.sim with now := max air.sim.now limit } } past
  | advertised {t : RouteTable} {air : Air μ} {past : List Announcement} {limit : Option Time}
      {item : Scheduled MeshEvent} {sim : Simulator MeshEvent} (run : Announced t air past)
      (taken : air.sim.next? limit = some (item, sim)) (mine : item.event = .timer t.node .advert) :
      Announced (t.onAdvertTimer { air with sim }).1 (t.onAdvertTimer { air with sim }).2
        (past ++ [⟨sim.now, false⟩])
  | triggered {t : RouteTable} {air : Air μ} {past : List Announcement} {limit : Option Time}
      {item : Scheduled MeshEvent} {sim : Simulator MeshEvent} (run : Announced t air past)
      (taken : air.sim.next? limit = some (item, sim)) (mine : item.event = .timer t.node .trigger) :
      Announced (t.onTriggerTimer { air with sim }).1 (t.onTriggerTimer { air with sim }).2
        (past ++ [⟨sim.now, true⟩])
  | fired {t : RouteTable} {air : Air μ} {past : List Announcement} {limit : Option Time}
      {item : Scheduled MeshEvent} {sim : Simulator MeshEvent} {next : RouteTable × Air μ}
      (run : Announced t air past) (taken : air.sim.next? limit = some (item, sim))
      (other : item.event ≠ .timer t.node .advert ∧ item.event ≠ .timer t.node .trigger)
      (done : t.onEvent { air with sim } item.event = .ok next) : Announced next.1 next.2 past
  | elsewhere {t : RouteTable} {air : Air μ} {past : List Announcement} {sim : Simulator MeshEvent}
      (medium : μ) (run : Announced t air past)
      (spares : air.sim.Spares (· = .timer t.node .trigger) sim) : Announced t ⟨sim, medium⟩ past

section Running

variable {μ : Type} [Medium μ] [LawfulMedium μ] {air : Air μ} {past : List Announcement}
  {limit : Option Time} {item : Scheduled MeshEvent}

omit [LawfulMedium μ] in
theorem Paced.onTimer {next : RouteTable × Air μ} {kind : TimerKind} (paced : t.Paced air.sim)
    (other : kind ≠ .advert ∧ kind ≠ .trigger) (done : t.onTimer air kind = .ok next) :
    next.1.Paced next.2.sim ∧ next.1.config = t.config ∧ next.1.lastAdvert = t.lastAdvert := by
  cases kind with
  | advert => exact absurd rfl other.1
  | trigger => exact absurd rfl other.2
  | routeDump =>
    cases done
    have dumped := paced.tended.onDumpTimer
    exact ⟨paced.tends dumped, dumped.config, dumped.lastAdvert⟩
  | expiry ip =>
    obtain ⟨⟨t', sim'⟩, expired, rfl⟩ := ok_of_map done
    have proceeds := proceeds_onExpiry (paced.tended.keyed ip) expired
    exact ⟨paced.proceeds proceeds, proceeds.kept.config, proceeds.kept.lastAdvert⟩
  | discovery =>
    cases done
    exact ⟨paced, rfl, rfl⟩
  | probeRound =>
    cases done
    exact ⟨paced, rfl, rfl⟩
  | probeNext =>
    cases done
    exact ⟨paced, rfl, rfl⟩

omit [LawfulMedium μ] in
theorem Paced.onEvent {next : RouteTable × Air μ} {event : MeshEvent} (paced : t.Paced air.sim)
    (other : event ≠ .timer t.node .advert ∧ event ≠ .timer t.node .trigger)
    (done : t.onEvent air event = .ok next) :
    next.1.Paced next.2.sim ∧ next.1.config = t.config ∧ next.1.lastAdvert = t.lastAdvert := by
  cases handles_onEvent done with
  | timer done =>
    exact paced.onTimer ⟨fun same => other.1 (by rw [same]), fun same => other.2 (by rw [same])⟩ done
  | elsewhere => exact ⟨paced, rfl, rfl⟩

theorem Paced.next? (paced : t.Paced sim) (taken : sim.next? limit = some (item, sim')) :
    t.Paced sim' := by
  have before : ∀ x ∈ sim'.live, x ∈ sim.live := fun x member =>
    ((paced.tended.valid.mem_next? taken).mp member).1
  exact ⟨(paced.tended.next? taken).1, fun x member => paced.spaced x (before x member)⟩

structure Recorded (t : RouteTable) (sim : Simulator MeshEvent) (past : List Announcement) :
    Prop where
  paced : t.Paced sim
  last : t.lastAdvert = past.getLast?.map (·.time)
  apart : past.IsChain fun earlier later =>
    later.triggered = true → earlier.time + t.config.minTriggered ≤ later.time

namespace Recorded

theorem quiet (recorded : t.Recorded sim past) (paced : t'.Paced sim') (config : t'.config = t.config)
    (last : t'.lastAdvert = t.lastAdvert) : t'.Recorded sim' past := by
  refine ⟨paced, last.trans recorded.last, ?_⟩
  rw [config]
  exact recorded.apart

/-- An advert is sent, which may have been set off only if the last one is long enough ago. -/
theorem sent (recorded : t.Recorded sim past) (paced : t'.Paced sim') (config : t'.config = t.config)
    {now : Time} {triggered : Bool} (last : t'.lastAdvert = some now)
    (enough : triggered = true → ∀ sent, t.lastAdvert = some sent →
      sent + t.config.minTriggered ≤ now) : t'.Recorded sim' (past ++ [⟨now, triggered⟩]) := by
  refine ⟨paced, by rw [last, List.getLast?_concat]; rfl, ?_⟩
  rw [config]
  refine List.isChain_append.mpr ⟨recorded.apart, .singleton _, fun earlier final later head mine => ?_⟩
  obtain rfl := (List.mem_singleton.mp (List.mem_of_mem_head? head))
  refine enough mine earlier.time ?_
  rw [recorded.last, Option.mem_def.mp final]
  rfl

end Recorded

theorem Announced.recorded (run : Announced t air past) : t.Recorded air.sim past := by
  induction run with
  | created medium done => exact ⟨.of_silent (create_silent done), by rw [create_eq done]; rfl, .nil⟩
  | logged run log ih => exact ih.quiet (ih.paced.tends (ih.paced.tended.noted log)) rfl rfl
  | drained run ih =>
    have drained := ih.paced.tended.drainLog
    exact ih.quiet (ih.paced.tends drained) drained.config drained.lastAdvert
  | heard run done ih =>
    have proceeds := proceeds_handleAdvert done
    exact ih.quiet (ih.paced.proceeds proceeds) proceeds.kept.config proceeds.kept.lastAdvert
  | started run ih =>
    have started := ih.paced.tended.start
    exact ih.quiet (ih.paced.tends started) started.config started.lastAdvert
  | stopped run ih => exact ih.quiet (.of_silent ih.paced.tended.stop) rfl rfl
  | waited run idle ih => exact ih.quiet (ih.paced.elsewhere (.wait _ _)) rfl rfl
  | advertised run taken mine ih =>
    have paced := ih.paced.next? taken
    exact ih.sent (.of_silent (Tended.onAdvertTimer paced.tended)) rfl rfl nofun
  | @triggered t air past limit item sim run taken mine ih =>
    obtain ⟨tended, quiet⟩ := ih.paced.tended.next? taken
    have silent : t.Silent ({ air with sim } : Air _).sim := ⟨tended, quiet mine⟩
    refine ih.sent (.of_silent silent.onTriggerTimer) rfl rfl fun _ sent last => ?_
    have live := ih.paced.tended.valid.next?_live taken
    rw [Simulator.next?_now taken]
    exact ih.paced.spaced item live mine sent last
  | @fired t air past limit item sim next run taken other done ih =>
    have begun : t.Paced ({ air with sim } : Air μ).sim := ih.paced.next? taken
    obtain ⟨after, config, last⟩ := begun.onEvent other done
    exact ih.quiet after config last
  | elsewhere medium run spares ih => exact ih.quiet (ih.paced.elsewhere spares) rfl rfl

/-- In every run, an advert that a change has set off goes out no sooner than the least time after the
advert before it, or, where the clock does not reach that far, at the last moment of the clock. -/
theorem triggered_adverts_spaced (run : Announced t air past) :
    past.IsChain fun earlier later => later.triggered = true →
      earlier.time.ns + t.config.minTriggered.ns ≤ later.time.ns ∨
        (0xffff_ffff_ffff_ffff < earlier.time.ns + t.config.minTriggered.ns ∧
          later.time.ns = 0xffff_ffff_ffff_ffff) := by
  refine run.recorded.apart.imp fun earlier later apart triggered => ?_
  have soonest := apart triggered
  have upper := later.time.ns_le
  rw [Time.le_def, Time.ns_add] at soonest
  omega

end Running

/-- A table hears the advert of a neighbour, and then its trigger fires, if that is what comes next. -/
def passOn (t : RouteTable) (air : Air Transcript) (advert : RouteAdvert) :
    Option ((RouteTable × Air Transcript) × Time) :=
  match t.handleAdvert (.ofIndex 1) advert .bad air.sim with
  | .error _ => none
  | .ok after =>
    match after.sim.next? none with
    | none => none
    | some (item, sim) =>
      if item.event = .timer after.table.node .trigger then
        some (after.table.onTriggerTimer { air with sim }, sim.now)
      else none

theorem Announced.passOn {t : RouteTable} {air : Air Transcript} {past : List Announcement}
    {advert : RouteAdvert} {next : RouteTable × Air Transcript} {now : Time}
    (run : Announced t air past) (done : t.passOn air advert = some (next, now)) :
    Announced next.1 next.2 (past ++ [⟨now, true⟩]) := by
  unfold RouteTable.passOn at done
  split at done
  · cases done
  · next after heard =>
    split at done
    · cases done
    · next item sim taken =>
      split at done
      · next mine =>
        cases done
        exact (run.heard heard).triggered taken mine
      · cases done

/-- A table that knows of nothing, with some least time between its adverts. -/
def sparing (minMillis : Nat) : RouteTable :=
  ⟨0, .ofIndex 0, .ofIndex 0, { minTriggeredMillis := minMillis }, 0, .empty, .ofSeed 1, none, none,
    none, none, none⟩

/-- After one second the table hears of a neighbour, and of a destination behind it as soon as word of
that is out. The answer is the least time between adverts, and the times of both. -/
def passOnTwice (minMillis : Nat) : Option (Time × Time × Time) := do
  let near : AdvertEntry := ⟨.ofIndex 1, .ofIndex 1, 2, 0, 0, 60000⟩
  let far : AdvertEntry := ⟨.ofIndex 2, .ofIndex 2, 4, 1, 1, 60000⟩
  let waiting : Simulator MeshEvent := { Simulator.empty with now := .ofSeconds 1 }
  let (next, first) ← (sparing minMillis).passOn ⟨waiting, {}⟩ ⟨[near]⟩
  let (next, second) ← next.1.passOn next.2 ⟨[near, far]⟩
  return (next.1.config.minTriggered, first, second)

theorem announced_twice {minMillis : Nat} {least first second : Time}
    (done : passOnTwice minMillis = some (least, first, second)) :
    ∃ (t : RouteTable) (air : Air Transcript), t.config.minTriggered = least ∧
      Announced t air [⟨first, true⟩, ⟨second, true⟩] := by
  have created : Announced (sparing minMillis) ⟨.empty, ({} : Transcript)⟩ [] :=
    .created _ (rfl : create 0 (.ofIndex 0) (.ofIndex 0) { minTriggeredMillis := minMillis }
      (.ofSeed 1) = .ok (sparing minMillis))
  have idle : (Simulator.empty : Simulator MeshEvent).next? (some (.ofSeconds 1)) = none := rfl
  have waited := created.waited idle
  obtain ⟨⟨next, now⟩, once, rest⟩ := Option.bind_eq_some_iff.mp done
  obtain ⟨⟨next', now'⟩, twice, same⟩ := Option.bind_eq_some_iff.mp rest
  cases same
  exact ⟨_, _, rfl, (waited.passOn once).passOn twice⟩

/-- With a second between adverts, word of the destination waits for a second. -/
theorem second_advert_waits : ∃ (t : RouteTable) (air : Air Transcript) (past : List Announcement),
    Announced t air past ∧ past = [⟨.ofSeconds 1, true⟩, ⟨.ofSeconds 2, true⟩] ∧
      past.IsChain fun earlier later => later.triggered = true →
        earlier.time.ns + t.config.minTriggered.ns ≤ later.time.ns ∨
          (0xffff_ffff_ffff_ffff < earlier.time.ns + t.config.minTriggered.ns ∧
            later.time.ns = 0xffff_ffff_ffff_ffff) := by
  have times : passOnTwice 1000 = some (.ofSeconds 1, .ofSeconds 1, .ofSeconds 2) := by decide +kernel
  obtain ⟨t, air, -, run⟩ := announced_twice times
  exact ⟨t, air, _, run, rfl, triggered_adverts_spaced run⟩

/-- The clock ends before a least time of some 584 years has passed, so that an advert follows sooner. -/
theorem clock_ends_too_soon : ∃ (t : RouteTable) (air : Air Transcript) (past : List Announcement),
    Announced t air past ∧ ¬ past.IsChain fun earlier later => later.triggered = true →
      earlier.time.ns + t.config.minTriggered.ns ≤ later.time.ns := by
  have times : passOnTwice 18_446_744_073_709 = some (.ofNanos 18_446_744_073_709_000_000,
      .ofSeconds 1, .ofNanos 0xffff_ffff_ffff_ffff) := by decide +kernel
  obtain ⟨t, air, least, run⟩ := announced_twice times
  refine ⟨t, air, _, run, ?_⟩
  rw [least, List.isChain_pair]
  decide

end RouteTable

end WirelessMesh
