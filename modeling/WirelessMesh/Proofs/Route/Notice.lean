import WirelessMesh.Proofs.Route.Occasions

/-!
No change of a route goes unannounced. Whatever adds, breaks, removes or moves a row asks for a trigger,
and a trigger that is set stays set until an advert is sent: nothing else takes it back. One that was
set before is due no later than one that is asked for now.
-/
namespace WirelessMesh

namespace RouteTable

variable {t t' : RouteTable} {sim sim' : Simulator MeshEvent} {s s' : RouteTable × Simulator MeshEvent}
  {r accepted cur : RouteRow} {why : RouteReason} {e : AdvertEntry} {after : Considered} {ip : IPv4}
  {route : Route}

/-- The trigger is the table's own, and due no later than one that is asked for now. -/
structure Prompt (t : RouteTable) (sim : Simulator MeshEvent) : Prop where
  tended : t.Tended sim
  past : ∀ sent, t.lastAdvert = some sent → sent ≤ sim.now
  due : ∀ x ∈ sim.live, x.event = triggerEvent t.node → x.due ≤ t.earliestAdvert sim.now

/-- An operation that leaves a trigger that is set alone, and the table prompt. -/
structure Heeds (t : RouteTable) (sim : Simulator MeshEvent) (t' : RouteTable)
    (sim' : Simulator MeshEvent) : Prop where
  node : t'.node = t.node
  prompt : t'.Prompt sim'
  retains : sim.Retains (· = triggerEvent t.node) sim'

theorem Heeds.trans {t'' : RouteTable} {sim'' : Simulator MeshEvent} (first : t.Heeds sim t' sim')
    (second : t'.Heeds sim' t'' sim'') : t.Heeds sim t'' sim'' where
  node := second.node.trans first.node
  prompt := second.prompt
  retains := first.retains.trans (first.node ▸ second.retains)

/-- The first moment at which an advert may go out does not come sooner as time passes. -/
theorem earliestAdvert_mono {now now' : Time} (last : t'.lastAdvert = t.lastAdvert)
    (config : t'.config = t.config) (later : now ≤ now') :
    t.earliestAdvert now ≤ t'.earliestAdvert now' := by
  unfold earliestAdvert
  rw [last, config]
  cases t.lastAdvert with
  | none => exact later
  | some sent =>
    simp only [Time.le_def, Time.ns_max] at later ⊢
    omega

namespace Prompt

theorem tends (prompt : t.Prompt sim) (tends : t.Tends sim t' sim') : t.Heeds sim t' sim' where
  node := tends.node
  prompt := by
    constructor
    · exact tends.tended
    · intro sent last
      rw [tends.lastAdvert] at last
      exact Nat.le_trans (prompt.past sent last) tends.now
    · intro x member trigger
      rw [tends.node] at trigger
      have before := (tends.spares.same prompt.tended.valid x trigger).mp member
      exact Nat.le_trans (prompt.due x before trigger)
        (earliestAdvert_mono tends.lastAdvert tends.config tends.now)
  retains := tends.spares.retains

theorem of_silent (silent : t.Silent sim) (past : ∀ sent, t.lastAdvert = some sent → sent ≤ sim.now) :
    t.Prompt sim :=
  ⟨silent.tended, past, fun x member trigger => absurd trigger (silent.quiet x member)⟩

theorem requestTrigger (prompt : t.Prompt sim) :
    t.Heeds sim (t.requestTrigger sim).1 (t.requestTrigger sim).2 := by
  obtain ⟨tended, retains, fresh⟩ := prompt.tended.requestTrigger
  have kept := requestTrigger_kept t sim
  have now := (changes_requestTrigger prompt.tended.trigger.owns).now
  refine ⟨kept.node, ⟨tended, ?_, ?_⟩, retains⟩
  · intro sent last
    rw [kept.lastAdvert] at last
    rw [now]
    exact prompt.past sent last
  · intro x member trigger
    rw [kept.node] at trigger
    rw [kept.earliestAdvert, now]
    rcases fresh x member trigger with old | due
    · exact prompt.due x old trigger
    · exact Nat.le_of_eq (congrArg Time.ns due)

theorem proceeds (prompt : t.Prompt sim) (proceeds : t.Proceeds sim t' sim') :
    t.Heeds sim t' sim' := by
  have asks := (proceeds.asks prompt.tended).1
  clear proceeds
  induction asks with
  | tends tends => exact prompt.tends tends
  | requested t sim => exact prompt.requestTrigger
  | trans first second ih ih' =>
    have early := ih prompt
    exact early.trans (ih' early.prompt)

end Prompt

/-- A destination is added or taken out, or its row goes by way of another neighbour, has another number
of hops or another metric, or is a broken row that was not there. -/
def Stirred : Option RouteRow → Option RouteRow → Prop
  | none, none => False
  | none, some _ => True
  | some _, none => True
  | some cur, some next =>
    cur.nextHopIp ≠ next.nextHopIp ∨ cur.hops ≠ next.hops ∨ cur.metric ≠ next.metric ∨
      (next.hops = 0 ∧ cur.seq ≠ next.seq)

/-- Some destination of a table is stirred. -/
def Stirs (t t' : RouteTable) : Prop := ∃ ip, Stirred (t.row? ip) (t'.row? ip)

/-- No destination of a table is stirred, row by row, on a way through an advert. -/
def Calm (stages : List (RouteTable × Simulator MeshEvent)) : Prop :=
  stages.IsChain fun a b => ¬ Stirs a.1 b.1

theorem not_stirred_self (row : Option RouteRow) : ¬ Stirred row row := by
  cases row <;> simp [Stirred]

theorem not_stirs_of_routes (same : t'.routes = t.routes) : ¬ Stirs t t' := by
  rintro ⟨ip, stirred⟩
  rw [row?, row?, same] at stirred
  exact not_stirred_self _ stirred

private theorem stirred_accepted_iff {current : Option RouteRow} (whole : r.hops ≠ 0)
    (taken : verdict current r = some (why, accepted)) :
    Stirred current (some accepted) ↔ isMove current r = true := by
  obtain ⟨settledAt, rfl⟩ := verdict_row taken
  cases current with
  | none => simp [Stirred, isMove]
  | some cur => simp [Stirred, isMove, whole, or_assoc]

private theorem stirred_broken (gone : r.hops = 0) (newer : cur.seq < r.seq) :
    Stirred (some cur) (some r) := by
  right; right; right
  refine ⟨gone, fun same => ?_⟩
  rw [same] at newer
  exact UInt32.lt_irrefl _ newer

/-- One destination is written: that one alone may be stirred. -/
theorem stirs_rewrites_iff {written : Option Route} (rewrites : t.Rewrites t' ip written) :
    Stirs t t' ↔ Stirred (t.row? ip) (written.map (·.row)) := by
  constructor
  · rintro ⟨d, stirred⟩
    rw [row?, row?, rewrites.get?] at stirred
    split at stirred
    · next here => exact here ▸ stirred
    · exact absurd stirred (not_stirred_self _)
  · intro stirred
    refine ⟨ip, ?_⟩
    rw [row?, row?, rewrites.get?_self]
    exact stirred

/-- A row that is offered sets a trigger if it stirs a destination, and leaves it alone otherwise. -/
theorem Tended.consider (tended : t.Tended sim) (whole : r.hops ≠ 0)
    (done : t.consider r sim = .ok after) :
    (Stirs t after.table ∧ after.table.triggerTimer.isArmed after.sim = true) ∨
      (¬ Stirs t after.table ∧ t.Tends sim after.table after.sim) := by
  cases considers done with
  | passed table rest =>
    rw [table, rest]
    exact .inr ⟨not_stirs_of_routes rfl, tended.refl⟩
  | @moved why accepted taken moves both =>
    left
    have rewrites := (install_rewrites t accepted why sim).followed
      (requestTrigger_kept _ (t.install accepted why sim).2) requestTrigger_routes
    have armed := isArmed_requestTrigger (t.install accepted why sim).1 (t.install accepted why sim).2
    rw [← both] at rewrites armed
    refine ⟨(stirs_rewrites_iff rewrites).mpr ?_, armed⟩
    rw [verdict_ip taken]
    exact (stirred_accepted_iff whole taken).mpr moves
  | @renewed why accepted taken stays both =>
    right
    have rewrites := install_rewrites t accepted why sim
    have tends := tended.place why (expiry_ofRoute (t := t) accepted.ip) (r := accepted)
    have placed : t.place (.ofRoute (t.routes.get? accepted.ip)) accepted why sim = _ := both.symm
    rw [placed] at tends
    rw [← both] at rewrites
    refine ⟨?_, tends⟩
    rw [stirs_rewrites_iff rewrites, verdict_ip taken]
    intro stirred
    have moves := (stirred_accepted_iff whole taken).mp stirred
    rw [stays] at moves
    cases moves

theorem Tended.considerBroken (tended : t.Tended sim) (done : t.considerBroken e sim = .ok after) :
    (Stirs t after.table ∧ after.table.triggerTimer.isArmed after.sim = true) ∨
      (¬ Stirs t after.table ∧ t.Tends sim after.table after.sim) := by
  rcases considerBroken_steps done with ⟨rfl, -⟩ | ⟨cur, mid, midSim, present, newer, broken, rfl⟩
  · exact .inr ⟨not_stirs_of_routes rfl, tended.refl⟩
  · refine .inl ⟨?_, isArmed_requestTrigger mid midSim⟩
    have rewrites := (writeBroken_rewrites rfl broken).followed (requestTrigger_kept mid midSim)
      requestTrigger_routes
    rw [stirs_rewrites_iff rewrites]
    obtain ⟨route, found, rfl⟩ := Option.map_eq_some_iff.mp present
    have known : t.row? route.row.ip = some route.row := by
      rw [tended.keyed e.ip route found]
      exact present
    have here : t.row? (t.brokenRow route.row sim.now).ip = some route.row := known
    simp only [here, brokenRoute]
    split
    · trivial
    · exact stirred_broken rfl newer

theorem Hears.stirs (hears : Hears s s') (tended : s.1.Tended s.2) :
    (Stirs s.1 s'.1 ∧ s'.1.triggerTimer.isArmed s'.2 = true) ∨
      (¬ Stirs s.1 s'.1 ∧ s.1.Tends s.2 s'.1 s'.2) := by
  cases hears with
  | passed s => exact .inr ⟨not_stirs_of_routes rfl, tended.refl⟩
  | @offered t sim r after log offered done =>
    have noted : t.Tends sim { t with log } sim := tended.noted log
    rcases noted.tended.consider offered.whole done with stirs | ⟨calm, tends⟩
    · exact .inl stirs
    · exact .inr ⟨calm, noted.trans tends⟩
  | told odd done => exact tended.considerBroken done

private theorem not_stirred_trans {a b c : Option RouteRow} (first : ¬ Stirred a b) (second : ¬ Stirred b c) :
    ¬ Stirred a c := by
  cases a <;> cases b <;> cases c <;> simp [Stirred] at first second ⊢
  obtain ⟨hop, hops, metric, seq⟩ := first
  obtain ⟨hop', hops', metric', seq'⟩ := second
  refine ⟨hop.trans hop', hops.trans hops', metric.trans metric', ?_⟩
  intro gone
  rw [seq (hops'.trans gone), seq' gone]

private theorem Calm.not_stirs {stages : List (RouteTable × Simulator MeshEvent)} (calm : Calm stages)
    (way : Way Hears stages s s') : ¬ Stirs s.1 s'.1 := by
  have steps : Way (fun a b => ¬ Stirs a.1 b.1) stages s s' := ⟨calm, way.starts, way.ends⟩
  have all := steps.all (P := fun a => ¬ Stirs s.1 a.1) (not_stirs_of_routes rfl)
    fun {a b} step known => by
      rintro ⟨ip, stirred⟩
      have early : ¬ Stirred (s.1.row? ip) (a.1.row? ip) := fun here => known ⟨ip, here⟩
      have late : ¬ Stirred (a.1.row? ip) (b.1.row? ip) := fun here => step ⟨ip, here⟩
      exact not_stirred_trans early late stirred
  exact all _ way.last_mem

structure Rouses (stages : List (RouteTable × Simulator MeshEvent))
    (first last : RouteTable × Simulator MeshEvent) : Prop where
  heeds : first.1.Heeds first.2 last.1 last.2
  calm : Calm stages → first.1.Tends first.2 last.1 last.2
  armed : ¬ Calm stages → last.1.triggerTimer.isArmed last.2 = true

/-- A trigger is as it was if no row stirs a destination, and is set otherwise. -/
theorem Prompt.rouses {stages : List (RouteTable × Simulator MeshEvent)} (way : Way Hears stages s s')
    (prompt : s.1.Prompt s.2) : Rouses stages s s' := by
  revert prompt
  refine way.induct (motive := fun stages s => s.1.Prompt s.2 → Rouses stages s s') ?_ ?_
  · intro prompt
    constructor
    · exact prompt.tends prompt.tended.refl
    · intro _
      exact prompt.tended.refl
    · intro stirred
      exact absurd (.singleton _) stirred
  · intro a b rest hears ih prompt
    have heeds := prompt.proceeds hears.proceeds
    have later := ih heeds.prompt
    constructor
    · exact heeds.trans later.heeds
    · intro calm
      obtain ⟨still, calm⟩ := List.isChain_cons_cons.mp calm
      rcases hears.stirs prompt.tended with ⟨stirs, -⟩ | ⟨-, tends⟩
      · exact absurd stirs still
      · exact tends.trans (later.calm calm)
    · intro stirred
      by_cases calm : Calm (b :: rest)
      · rcases hears.stirs prompt.tended with ⟨-, armed⟩ | ⟨still, -⟩
        · have tends := later.calm calm
          have holds := heeds.prompt.tended.trigger
          rw [tends.triggerTimer, holds.isArmed_spares heeds.prompt.tended.valid tends.spares rfl]
          exact armed
        · exact absurd (List.isChain_cons_cons.mpr ⟨still, calm⟩) stirred
      · exact later.armed calm

theorem isArmed_expireRow (done : t.expireRow route sim = .ok (t', sim')) :
    t'.triggerTimer.isArmed sim' = true := by
  obtain ⟨mid, midSim, last, lastSim, -, -, rfl, rfl⟩ := expireRow_steps done
  exact isArmed_requestTrigger last lastSim

section Running

variable {μ : Type} [Medium μ] [LawfulMedium μ] {air : Air μ} {o : Occasion} {u u' : RouteTable × Air μ}

theorem Prompt.next? (prompt : t.Prompt sim) (timely : sim.Timely) {limit : Option Time}
    {item : Scheduled MeshEvent} (taken : sim.next? limit = some (item, sim')) : t.Prompt sim' := by
  have valid := prompt.tended.valid
  have later := (timely.next? valid taken).2
  constructor
  · exact (prompt.tended.next? taken).1
  · intro sent last
    exact Nat.le_trans (prompt.past sent last) later
  · intro x member trigger
    have before := ((valid.mem_next? taken).mp member).1
    exact Nat.le_trans (prompt.due x before trigger) (earliestAdvert_mono rfl rfl later)

/-- After an advert the next one may not go out sooner than before it. -/
theorem Prompt.sendAdvert (prompt : t.Prompt air.sim) :
    (t.sendAdvert air).1.Prompt (t.sendAdvert air).2.sim := by
  have now : (t.sendAdvert air).2.sim.now = air.sim.now := (air.changes_announce t.node _).now
  refine ⟨prompt.tended.sendAdvert, ?_, ?_⟩
  · intro sent last
    cases last
    exact Nat.le_of_eq (congrArg Time.ns now.symm)
  · intro x member trigger
    rw [now]
    have before := ((t.spares_sendAdvert air).same prompt.tended.valid x trigger).mp member
    refine Nat.le_trans (prompt.due x before trigger) ?_
    have past := prompt.past
    unfold earliestAdvert
    show _ ≤ (max air.sim.now (air.sim.now + t.config.minTriggered)).ns
    cases last : t.lastAdvert with
    | none =>
      simp only [Time.ns_max]
      omega
    | some sent =>
      have earlier : sent.ns ≤ air.sim.now.ns := past sent last
      simp only [Time.ns_max, Time.ns_add]
      omega

theorem Prompt.onAdvertTimer (prompt : t.Prompt air.sim) (sound : t.Sound air.sim) :
    (t.onAdvertTimer air).1.Prompt (t.onAdvertTimer air).2.sim := by
  refine .of_silent (Tended.onAdvertTimer prompt.tended) ?_
  intro sent last
  cases last
  exact Nat.le_of_eq (congrArg Time.ns sound.onAdvertTimer.changes.now.symm)

omit [LawfulMedium μ] in
/-- What a table does when a timer fires that makes it send no advert. -/
theorem Prompt.onEvent {event : MeshEvent} (prompt : t.Prompt air.sim)
    (other : event ≠ .timer t.node .advert ∧ event ≠ .timer t.node .trigger)
    (done : t.onEvent air event = .ok u) : t.Heeds air.sim u.1 u.2.sim := by
  have still := prompt.tends prompt.tended.refl
  cases handles_onEvent done with
  | @timer kind _ done =>
    cases kind with
    | advert => exact absurd rfl other.1
    | trigger => exact absurd rfl other.2
    | routeDump =>
      cases done
      exact prompt.tends prompt.tended.onDumpTimer
    | expiry ip =>
      obtain ⟨⟨t', sim'⟩, expired, rfl⟩ := ok_of_map done
      exact prompt.proceeds (proceeds_onExpiry (prompt.tended.keyed ip) expired)
    | discovery | probeRound | probeNext =>
      cases done
      exact still
  | elsewhere => exact still

omit [LawfulMedium μ] in
/-- A step in which no advert is sent, nor the table stopped, leaves a trigger that is set alone. -/
theorem Step.heeds (step : Step o u u') (sound : u.1.Sound u.2.sim) (timely : u.2.sim.Timely)
    (prompt : u.1.Prompt u.2.sim) (going : o ≠ .stopping) (silent : o ≠ .sending) :
    u.1.Heeds u.2.sim u'.1 u'.2.sim := by
  have tended := prompt.tended
  cases step with
  | logged t air log => exact prompt.tends (tended.noted log)
  | drained t air => exact prompt.tends tended.drainLog
  | heard done => exact prompt.proceeds (proceeds_handleAdvert done)
  | @expired t t' air ip sim done =>
    rw [Sound.onExpiry_idle sound ip] at done
    cases done
    exact prompt.tends tended.refl
  | started t air => exact prompt.tends tended.start
  | stopped t air => exact absurd rfl going
  | advertised t air => exact absurd rfl silent
  | triggered t air => exact absurd rfl silent
  | dumped t air => exact prompt.tends tended.onDumpTimer
  | @waited air limit t idle =>
    refine prompt.tends (tended.elsewhere (.wait _ _) ?_)
    simp only [Time.le_def, Time.ns_max]
    omega
  | sent taken advert done => exact absurd rfl silent
  | @fired t air limit item sim next taken other done =>
    have spares : air.sim.Spares (· = triggerEvent t.node) sim := .next? taken other.2
    have begun := prompt.tends (tended.elsewhere spares (timely.next? tended.valid taken).2)
    have mid : t.Prompt ({ air with sim } : Air μ).sim := begun.prompt
    exact begun.trans (mid.onEvent other done)
  | @elsewhere air sim t medium changes =>
    have spares : air.sim.Spares (· = triggerEvent t.node) sim := by
      apply changes.spares
      intro event theirs trigger
      exact theirs (.inl (.inr (.inl trigger)))
    exact prompt.tends (tended.elsewhere spares (Nat.le_of_eq (congrArg Time.ns changes.now.symm)))

theorem Step.prompt (step : Step o u u') (sound : u.1.Sound u.2.sim) (timely : u.2.sim.Timely)
    (prompt : u.1.Prompt u.2.sim) : u'.1.Prompt u'.2.sim := by
  by_cases quiet : o ≠ .stopping ∧ o ≠ .sending
  · exact (step.heeds sound timely prompt quiet.1 quiet.2).prompt
  · cases step with
    | stopped t air =>
      refine .of_silent prompt.tended.stop ?_
      intro sent last
      have now : (t.stop air.sim).2.now = air.sim.now := (Sound.stop sound).changes.now
      rw [now]
      exact prompt.past sent last
    | advertised t air => exact Prompt.onAdvertTimer prompt sound
    | triggered t air => exact Prompt.sendAdvert prompt
    | @sent t air limit item sim next taken advert done =>
      have begun : t.Prompt ({ air with sim } : Air μ).sim := prompt.next? timely taken
      have kept : t.Sound ({ air with sim } : Air μ).sim := by
        apply sound.spares
        apply Simulator.Spares.next? taken
        rintro ⟨ip, event⟩
        rw [event] at advert
        simp [expiryEvent] at advert
      rcases advert with event | event
      · simp only [event, RouteTable.onEvent, if_true, RouteTable.onTimer] at done
        cases done
        exact begun.onAdvertTimer kept
      · simp only [event, RouteTable.onEvent, if_true, RouteTable.onTimer] at done
        cases done
        exact begun.sendAdvert
    | logged => simp at quiet
    | drained => simp at quiet
    | heard => simp at quiet
    | expired => simp at quiet
    | started => simp at quiet
    | dumped => simp at quiet
    | waited => simp at quiet
    | fired => simp at quiet
    | elsewhere => simp at quiet

theorem InUse.prompt (used : InUse u) : u.1.Prompt u.2.sim := by
  induction used with
  | created medium done =>
    refine .of_silent (create_silent done) ?_
    rw [create_eq done]
    exact nofun
  | step used step ih => exact step.prompt used.sound used.timely ih

theorem RunsQuietly.heeds (runs : RunsQuietly u u') (used : InUse u) :
    u.1.Heeds u.2.sim u'.1 u'.2.sim := by
  induction runs with
  | refl => exact used.prompt.tends used.prompt.tended.refl
  | @tail mid last runs step ih =>
    obtain ⟨o, going, silent, step⟩ := step
    have reached : InUse mid := used.runs (RunsQuietly.runs runs)
    exact ih.trans (step.heeds reached.sound reached.timely reached.prompt going silent)

/-- From now on, until an advert is sent or the table is stopped, a trigger is set that is due by some
time. -/
def AnnouncesBy (limit : Time) (u : RouteTable × Air μ) : Prop :=
  ∀ u', RunsQuietly u u' → ∃ x ∈ u'.2.sim.live, x.event = triggerEvent u.1.node ∧
    u'.1.triggerTimer = some ⟨x.id, x.due⟩ ∧ x.due ≤ limit

/-- A trigger that is set is due in time and stays set. -/
theorem InUse.announcesBy (used : InUse u) (armed : u.1.triggerTimer.isArmed u.2.sim = true) :
    AnnouncesBy (u.1.earliestAdvert u.2.sim.now) u := by
  have tended := used.prompt.tended
  obtain ⟨x, member, trigger⟩ := (tended.trigger.isArmed_iff tended.valid).mp armed
  intro u' runs
  have heeds := RunsQuietly.heeds runs used
  have live := heeds.retains.kept tended.valid x member trigger
  refine ⟨x, live, trigger, ?_, used.prompt.due x member trigger⟩
  apply heeds.prompt.tended.trigger.alone x live
  rw [heeds.node]
  exact trigger

/-- An advert some row of which stirs a destination is passed on in time. -/
private theorem InUse.announcesBy_heard {sender : EtherAddress} {advert : RouteAdvert} {link : Metric}
    {heard : Considered} (used : InUse u)
    (done : u.1.handleAdvert sender advert link u.2.sim = .ok heard)
    (unrest : ¬ Calm (u.1.hearing sender advert link u.2.sim)) :
    AnnouncesBy (u.1.earliestAdvert u.2.sim.now) (heard.table, { u.2 with sim := heard.sim }) := by
  have rouses := Prompt.rouses (way_hearing done) used.prompt
  have after : InUse (heard.table, { u.2 with sim := heard.sim }) := used.step (.heard done)
  have announces : AnnouncesBy (heard.table.earliestAdvert heard.sim.now) _ :=
    after.announcesBy (rouses.armed unrest)
  obtain ⟨kept, -, changes⟩ := used.sound.handleAdvert_ok done
  rw [kept.earliestAdvert, changes.now] at announces
  exact announces

private theorem InUse.announcesBy_ranOut {limit : Option Time} {item : Scheduled MeshEvent}
    (used : InUse u) (taken : u.2.sim.next? limit = some (item, sim))
    (event : item.event = expiryEvent u.1.node ip) :
    ∃ next, u.1.onEvent { u.2 with sim } item.event = .ok next ∧
      AnnouncesBy (u.1.earliestAdvert sim.now) next := by
  have sound := used.sound
  obtain ⟨next, done, -⟩ := sound.onEvent taken
  refine ⟨next, done, ?_⟩
  have other : item.event ≠ .timer u.1.node .advert ∧ item.event ≠ .timer u.1.node .trigger := by
    simp [event, expiryEvent]
  have after : InUse next := used.step (.fired taken other done)
  obtain ⟨route, t', sim', rfl, rfl, present, good, rest, expired⟩ :=
    sound.runsOut_onEvent taken event done
  have announces : AnnouncesBy (t'.earliestAdvert sim'.now) _ :=
    after.announcesBy (isArmed_expireRow expired)
  obtain ⟨kept, -, -, changes⟩ := sound.expireRow_breaks_each rest present good expired
  rw [kept.earliestAdvert, changes.now] at announces
  exact announces

/-- In every run, an advert heard that adds, breaks, removes or moves a row, on the way or in the end,
and a route that runs out, leave a trigger that stays set until the next advert or a stop, and is due by
then or as soon as an advert may follow the last one. An advert no row of which does that leaves the
trigger as it was. -/
theorem changes_are_announced (used : InUse u) :
    (∀ sender advert link heard, u.1.handleAdvert sender advert link u.2.sim = .ok heard →
      let stages := u.1.hearing sender advert link u.2.sim
      Way Hears stages (u.1, u.2.sim) (heard.table, heard.sim) ∧
      (Stirs u.1 heard.table ∨ ¬ Calm stages →
        AnnouncesBy (u.1.earliestAdvert u.2.sim.now) (heard.table, { u.2 with sim := heard.sim })) ∧
      (Calm stages → heard.table.triggerTimer = u.1.triggerTimer ∧
        ∀ x, x.event = triggerEvent u.1.node → (x ∈ heard.sim.live ↔ x ∈ u.2.sim.live))) ∧
    (∀ limit item sim ip, u.2.sim.next? limit = some (item, sim) →
      item.event = expiryEvent u.1.node ip →
      ∃ next, u.1.onEvent { u.2 with sim } item.event = .ok next ∧
        AnnouncesBy (u.1.earliestAdvert sim.now) next) := by
  constructor
  · intro sender advert link heard done stages
    have way := way_hearing done
    refine ⟨way, ?_, ?_⟩
    · intro stirred
      apply used.announcesBy_heard done
      intro calm
      rcases stirred with stirs | unrest
      · exact calm.not_stirs way stirs
      · exact unrest calm
    · intro calm
      have tends := (Prompt.rouses way used.prompt).calm calm
      exact ⟨tends.triggerTimer, tends.spares.same used.prompt.tended.valid⟩
  · intro limit item sim ip taken event
    exact used.announcesBy_ranOut taken event

end Running

/-- A table that hears of a neighbour after a second, and says so at once. -/
def greeted : Option (RouteTable × Air Transcript) :=
  follow [.wait (.ofSeconds 1),
    .hear (.ofIndex 1) ⟨[⟨.ofIndex 1, .ofIndex 1, 2, 0, 0, 60000⟩]⟩ (.good 100), .fire]
    (blank, ⟨.empty, {}⟩)

def news : RouteAdvert :=
  ⟨[⟨.ofIndex 1, .ofIndex 1, 4, 0, 0, 60000⟩, ⟨.ofIndex 3, .ofIndex 3, 4, 1, 50, 60000⟩]⟩

/-- The table before the news and after them, and half a second later. -/
def newsHeard :
    Option ((RouteTable × Air Transcript) × Considered × (RouteTable × Air Transcript)) := do
  let u ← greeted
  let heard ← (u.1.handleAdvert (.ofIndex 1) news (.good 100) u.2.sim).toOption
  return (u, heard, ← Cue.take (heard.table, { u.2 with sim := heard.sim }) (.wait (.ofMillis 1500)))

private theorem newsHeard_eq : newsHeard.map (fun seen => ((seen.1.1.node, seen.1.1.row? (.ofIndex 3),
    (seen.2.1.table.row? (.ofIndex 3)).isSome), seen.1.1.earliestAdvert seen.1.2.sim.now,
      seen.2.2.2.sim.now)) =
    some ((0, none, true), .ofSeconds 2, .ofMillis 1500) := by
  decide +kernel

/-- The last advert having been sent just now, the news are to be passed on a second later, and half a
second later they still are. -/
theorem news_announced : ∃ (u later : RouteTable × Air Transcript) (heard : Considered)
    (x : Scheduled MeshEvent), InUse u ∧
      u.1.handleAdvert (.ofIndex 1) news (.good 100) u.2.sim = .ok heard ∧
      u.1.row? (.ofIndex 3) = none ∧ heard.table.row? (.ofIndex 3) ≠ none ∧
      RunsQuietly (heard.table, { u.2 with sim := heard.sim }) later ∧
      later.2.sim.now = .ofMillis 1500 ∧
      x ∈ later.2.sim.live ∧ x.event = triggerEvent 0 ∧ x.due ≤ .ofSeconds 2 := by
  obtain ⟨seen, told, same⟩ := Option.map_eq_some_iff.mp newsHeard_eq
  unfold newsHeard at told
  obtain ⟨u, done, rest⟩ := Option.bind_eq_some_iff.mp told
  obtain ⟨heard, taken, rest⟩ := Option.bind_eq_some_iff.mp rest
  obtain ⟨later, waited, rest⟩ := Option.bind_eq_some_iff.mp rest
  cases rest
  simp only [Prod.mk.injEq] at same
  obtain ⟨⟨node, unknown, known⟩, limit, time⟩ := same
  have used : InUse u := (blank_inUse _).runs (runs_follow done)
  have hears := ok_of_toOption taken
  have stirs : Stirs u.1 heard.table := by
    refine ⟨.ofIndex 3, ?_⟩
    obtain ⟨row, found⟩ := Option.isSome_iff_exists.mp known
    rw [unknown, found]
    trivial
  have quiet : RunsQuietly (heard.table, { u.2 with sim := heard.sim }) later :=
    .single ⟨.other, nofun, nofun, Cue.step_wait waited⟩
  have announces := ((changes_are_announced used).1 _ _ _ heard hears).2.1 (.inl stirs)
  obtain ⟨x, member, trigger, -, due⟩ := announces later quiet
  rw [limit] at due
  replace trigger : x.event = triggerEvent u.1.node := by
    rw [trigger, ← (used.sound.handleAdvert_ok hears).1.node]
  rw [node] at trigger
  refine ⟨u, later, heard, x, used, hears, unknown, ?_, quiet, time, member, trigger, due⟩
  intro absent
  rw [absent] at known
  cases known

end RouteTable

end WirelessMesh
