import WirelessMesh.Proofs.Route.Chronicle
import WirelessMesh.Proofs.Route.Memory

/-!
The log of a table is a faithful history. Main statement: at every point of every run since logging
began, the lines that were taken and those still there, one after another, lead to exactly the rows
of the table, and each line that adds a row gives the true reason for it.
-/
namespace WirelessMesh

namespace RouteLogRecord

/-- What is known of each destination, with one more line. -/
def retell (told : Directory IPv4 RouteRecord) (record : RouteLogRecord) :
    Directory IPv4 RouteRecord :=
  match record.event.added? with
  | some (route, _) => told.insert route.ip route
  | none => told

/-- What lines tell of each destination: the last row that was added for it. -/
def replay (records : List RouteLogRecord) : Directory IPv4 RouteRecord :=
  records.foldl retell .empty

theorem replay_concat (records : List RouteLogRecord) (record : RouteLogRecord) :
    replay (records ++ [record]) = retell (replay records) record := by
  rw [replay, List.foldl_append]
  rfl

end RouteLogRecord

open RouteLogRecord (replay)

namespace RouteTable

/-- Lines that lead to the rows of a table, each added for its true reason. -/
structure Faithful (t : RouteTable) (records : List RouteLogRecord) : Prop where
  rows : ∀ ip, (replay records).get? ip = (t.row? ip).map .ofRow
  reasons : ∀ earlier record, earlier ++ [record] <+: records → ∀ route why,
    record.event = .addedRoute route why → why.Relates ((replay earlier).get? route.ip) route

variable {t t' : RouteTable} {sim : Simulator MeshEvent} {now : Time}
  {records : List RouteLogRecord} {record : RouteLogRecord}

theorem Faithful.congr (faithful : t.Faithful records) (rows : ∀ ip, t'.row? ip = t.row? ip) :
    t'.Faithful records :=
  ⟨fun ip => by rw [rows, faithful.rows], faithful.reasons⟩

theorem Faithful.reasons_concat (faithful : t.Faithful records)
    (last : ∀ route why, record.event = .addedRoute route why →
      why.Relates ((t.row? route.ip).map .ofRow) route) :
    ∀ earlier other, earlier ++ [other] <+: records ++ [record] → ∀ route why,
      other.event = .addedRoute route why → why.Relates ((replay earlier).get? route.ip) route := by
  intro earlier other lead route why adds
  rcases List.prefix_concat_iff.mp lead with whole | before
  · obtain ⟨rfl, same⟩ := List.append_inj' whole rfl
    cases same
    rw [faithful.rows]
    exact last route why adds
  · exact faithful.reasons earlier other before route why adds

/-- A line that adds no row changes nothing that is told. -/
theorem Faithful.noted (faithful : t.Faithful records) (plain : record.event.added? = none) :
    t.Faithful (records ++ [record]) where
  rows ip := by
    rw [RouteLogRecord.replay_concat, RouteLogRecord.retell, plain]
    exact faithful.rows ip
  reasons := faithful.reasons_concat fun route why adds => by
    rw [adds] at plain
    cases plain

theorem Faithful.placed (faithful : t.Faithful records) {r : RouteRow} {why : RouteReason}
    (adds : record.event = .addedRoute (.ofRow r) why)
    (relates : why.Relates ((t.row? r.ip).map .ofRow) (.ofRow r))
    (rows : ∀ ip, t'.row? ip = if ip = r.ip then some r else t.row? ip) :
    t'.Faithful (records ++ [record]) where
  rows ip := by
    rw [RouteLogRecord.replay_concat, RouteLogRecord.retell, adds, rows]
    simp only [RouteLogEvent.added?, Directory.get?_insert, Ranked.rank_inj, faithful.rows,
      RouteRecord.ofRow, eq_comm (a := ip)]
    split <;> rfl
  reasons := faithful.reasons_concat fun route other same => by
    rw [adds] at same
    cases same
    exact relates

def pending (t : RouteTable) : List RouteLogRecord := (t.log.map (·.lines.reverse)).getD []

theorem drainLog_fst (t : RouteTable) : t.drainLog.1 = t.pending := by
  unfold drainLog pending
  cases t.log <;> rfl

theorem pending_drainLog (t : RouteTable) : t.drainLog.2.pending = [] := by
  unfold drainLog pending
  cases logs : t.log with
  | none => simp [logs]
  | some log => rfl

private theorem isSome_log_drainLog (t : RouteTable) : t.drainLog.2.log.isSome = t.log.isSome := by
  unfold drainLog
  cases logs : t.log with
  | none => simp [logs]
  | some log => rfl

theorem pending_write {log : RouteLog} {event : RouteLogEvent} (logs : t.log = some log)
    (after : t'.log = t.log.map (·.write now event)) :
    t'.log.isSome = true ∧ t'.pending = t.pending ++ [⟨now, log.node, event⟩] := by
  rw [logs] at after
  refine ⟨by rw [after]; rfl, ?_⟩
  rw [pending, pending, after, logs]
  exact List.reverse_cons

theorem Chronicles.faithful (chronicles : Chronicles false now t t') :
    t.log.isSome = true → t.Faithful (records ++ t.pending) →
      t'.log.isSome = true ∧ t'.Faithful (records ++ t'.pending) := by
  induction chronicles with
  | quiet rows log =>
    intro logs faithful
    rw [pending, log]
    exact ⟨logs, faithful.congr rows⟩
  | @noted t event plain =>
    intro logs faithful
    obtain ⟨log, logs⟩ := Option.isSome_iff_exists.mp logs
    have after : (t.note now event).log = t.log.map (·.write now event) := rfl
    obtain ⟨still, lines⟩ := pending_write logs after
    refine ⟨still, ?_⟩
    rw [lines, ← List.append_assoc]
    exact (faithful.noted plain).congr fun _ => rfl
  | placed relates rows after =>
    intro logs faithful
    obtain ⟨log, logs⟩ := Option.isSome_iff_exists.mp logs
    obtain ⟨still, lines⟩ := pending_write logs after
    refine ⟨still, ?_⟩
    rw [lines, ← List.append_assoc]
    exact faithful.placed rfl relates rows
  | dropped ip lost => cases lost
  | trans _ _ ih ih' =>
    intro logs faithful
    obtain ⟨logs', faithful'⟩ := ih logs faithful
    exact ih' logs' faithful'

variable {μ : Type} [Medium μ] {air : Air μ} {s s' : RouteTable × Air μ}

/-- A step of a table on a medium that neither stops it nor touches its log from outside. -/
inductive Works : RouteTable × Air μ → RouteTable × Air μ → Prop
  | heard {t : RouteTable} {air : Air μ} {sender : EtherAddress} {advert : RouteAdvert}
      {link : Metric} {after : Considered}
      (done : t.handleAdvert sender advert link air.sim = .ok after) :
      Works (t, air) (after.table, { air with sim := after.sim })
  | expired {t t' : RouteTable} {air : Air μ} {ip : IPv4} {sim : Simulator MeshEvent}
      (done : t.onExpiry ip air.sim = .ok (t', sim)) : Works (t, air) (t', { air with sim })
  | started (t : RouteTable) (air : Air μ) :
      Works (t, air) ((t.start air.sim).1, { air with sim := (t.start air.sim).2 })
  | advertised (t : RouteTable) (air : Air μ) : Works (t, air) (t.onAdvertTimer air)
  | triggered (t : RouteTable) (air : Air μ) : Works (t, air) (t.onTriggerTimer air)
  | dumped (t : RouteTable) (air : Air μ) :
      Works (t, air) ((t.onDumpTimer air.sim).1, { air with sim := (t.onDumpTimer air.sim).2 })
  | waited {air : Air μ} {limit : Time} (t : RouteTable)
      (idle : air.sim.next? (some limit) = none) :
      Works (t, air) (t, { air with sim := { air.sim with now := max air.sim.now limit } })
  | fired {t : RouteTable} {air : Air μ} {limit : Option Time} {item : Scheduled MeshEvent}
      {sim : Simulator MeshEvent} {next : RouteTable × Air μ}
      (taken : air.sim.next? limit = some (item, sim))
      (done : t.onEvent { air with sim } item.event = .ok next) : Works (t, air) next
  | elsewhere {air : Air μ} {sim : Simulator MeshEvent} (t : RouteTable) (medium : μ)
      (changes : air.sim.Changes (fun event => ¬ t.Owned event) sim) :
      Works (t, air) (t, ⟨sim, medium⟩)

theorem Works.step (works : Works s s') : ∃ o, o ≠ .stopping ∧ Step o s s' := by
  cases works with
  | heard done => exact ⟨.hearing, nofun, .heard done⟩
  | expired done => exact ⟨.other, nofun, .expired done⟩
  | started t air => exact ⟨.other, nofun, .started t air⟩
  | advertised t air => exact ⟨.sending, nofun, .advertised t air⟩
  | triggered t air => exact ⟨.sending, nofun, .triggered t air⟩
  | dumped t air => exact ⟨.other, nofun, .dumped t air⟩
  | waited t idle => exact ⟨.other, nofun, .waited t idle⟩
  | @fired t air limit item sim next taken done =>
    by_cases advert : item.event = .timer t.node .advert ∨ item.event = .timer t.node .trigger
    · exact ⟨.sending, nofun, .sent taken advert done⟩
    · exact ⟨.other, nofun, .fired taken (not_or.mp advert) done⟩
  | elsewhere t medium changes => exact ⟨.other, nofun, .elsewhere t medium changes⟩

/-- A table with the lines that were taken from its log since this was set, before the first row. -/
inductive Logged : RouteTable × Air μ → List RouteLogRecord → Prop
  | begun {t : RouteTable} {air : Air μ} (used : InUse (t, air))
      (blank : ∀ ip, t.row? ip = none) (node : IPv4) :
      Logged (t.setLog { node }, air) []
  | drained {t : RouteTable} {air : Air μ} {records : List RouteLogRecord}
      (logged : Logged (t, air) records) :
      Logged (t.drainLog.2, air) (records ++ t.drainLog.1)
  | worked {s s' : RouteTable × Air μ} {records : List RouteLogRecord}
      (logged : Logged s records) (works : Works s s') : Logged s' records

theorem Logged.inUse (logged : Logged s records) : InUse s := by
  induction logged with
  | @begun t air used blank node => exact used.step (.logged t air { node })
  | @drained t air records _ ih => exact ih.step (.drained t air)
  | worked _ works ih =>
    obtain ⟨_, -, step⟩ := works.step
    exact ih.step step

private theorem chronicles_armDump (t : RouteTable) (sim : Simulator MeshEvent) {drops : Bool} :
    Chronicles drops now t (t.armDump sim).1 := by
  obtain ⟨_, same⟩ := armDump_eq t sim
  rw [same]
  exact .of_routes rfl rfl

theorem chronicles_start (t : RouteTable) (sim : Simulator MeshEvent) {drops : Bool} :
    Chronicles drops now t (t.start sim).1 := by
  obtain ⟨_, same⟩ := armDump_eq _ _
  have after : (t.start sim).1 = _ := same
  rw [after]
  exact .of_routes rfl rfl

theorem chronicles_onDumpTimer (t : RouteTable) (sim : Simulator MeshEvent) {drops : Bool} :
    Chronicles drops sim.now t (t.onDumpTimer sim).1 :=
  .trans (.noted t rfl) (chronicles_armDump _ _)

theorem chronicles_onAdvertTimer (t : RouteTable) (air : Air μ) {drops : Bool} :
    Chronicles drops now t (t.onAdvertTimer air).1 := .of_routes rfl rfl

theorem chronicles_onTriggerTimer (t : RouteTable) (air : Air μ) {drops : Bool} :
    Chronicles drops now t (t.onTriggerTimer air).1 := .of_routes rfl rfl

/-- The log tells what an event that begins changes, as of the time it is due. -/
theorem Sound.chronicles_onEvent (sound : t.Sound air.sim) {limit : Option Time}
    {item : Scheduled MeshEvent} (taken : air.sim.next? limit = some (item, sim))
    (done : t.onEvent { air with sim } item.event = .ok s') :
    Chronicles t.config.ignoreInvalidRoutes sim.now t s'.1 := by
  by_cases runsOut : ∃ ip, item.event = expiryEvent t.node ip
  · obtain ⟨ip, event⟩ := runsOut
    obtain ⟨route, t', sim', rfl, rfl, present, good, rest, expired⟩ :=
      sound.runsOut_onEvent taken event done
    exact chronicles_expireRow rest present (sound.routes _ route present).row good expired
  · generalize event : item.event = begins at done
    cases handles_onEvent done with
    | @timer kind _ done =>
      cases kind with
      | advert => cases done; exact chronicles_onAdvertTimer t _
      | trigger => cases done; exact chronicles_onTriggerTimer t _
      | routeDump => cases done; exact chronicles_onDumpTimer t _
      | expiry ip => exact absurd ⟨ip, event⟩ runsOut
      | discovery | probeRound | probeNext => cases done; exact .refl t
    | elsewhere => exact .refl t

theorem Works.chronicles (works : Works s s') (sound : s.1.Sound s.2.sim) :
    ∃ now, Chronicles s.1.config.ignoreInvalidRoutes now s.1 s'.1 := by
  cases works with
  | heard done => exact ⟨_, sound.chronicles_handleAdvert done⟩
  | @expired t t' air ip sim done =>
    rw [Sound.onExpiry_idle sound] at done
    cases done
    exact ⟨air.sim.now, .refl t⟩
  | started t air => exact ⟨air.sim.now, chronicles_start t air.sim⟩
  | advertised t air => exact ⟨air.sim.now, chronicles_onAdvertTimer t air⟩
  | triggered t air => exact ⟨air.sim.now, chronicles_onTriggerTimer t air⟩
  | dumped t air => exact ⟨air.sim.now, chronicles_onDumpTimer t air.sim⟩
  | @waited air limit t idle => exact ⟨limit, .refl t⟩
  | fired taken done => exact ⟨_, sound.chronicles_onEvent taken done⟩
  | @elsewhere air sim t medium changes => exact ⟨sim.now, .refl t⟩

section Lawful

variable [LawfulMedium μ]

theorem Logged.faithful (logged : Logged s records) :
    s.1.config.ignoreInvalidRoutes = false →
      s.1.log.isSome = true ∧ s.1.Faithful (records ++ s.1.pending) := by
  induction logged with
  | @begun t air used blank node =>
    intro _
    refine ⟨rfl, fun ip => ?_, fun earlier record lead => ?_⟩
    · show none = (t.row? ip).map _
      rw [blank]
      rfl
    · have short := lead.length_le
      rw [List.length_append] at short
      exact absurd short (Nat.not_succ_le_zero _)
  | @drained t air records logged ih =>
    obtain ⟨log, same⟩ := drainLog_eq t
    intro keeps
    rw [same] at keeps
    obtain ⟨logs, faithful⟩ := ih keeps
    rw [pending_drainLog, List.append_nil, drainLog_fst]
    refine ⟨(isSome_log_drainLog t).trans logs, faithful.congr fun ip => ?_⟩
    rw [same]
    rfl
  | worked logged works ih =>
    intro keeps
    have sound := logged.inUse.sound
    obtain ⟨_, -, step⟩ := works.step
    obtain ⟨now, chronicles⟩ := works.chronicles sound
    rw [step.config sound] at keeps
    rw [keeps] at chronicles
    obtain ⟨logs, faithful⟩ := ih keeps
    exact chronicles.faithful logs faithful

/-- Where broken rows are kept, all lines of the log since it was set, taken or not, lead to the row
of every destination that the table knows and to no other; and each line that adds a row gives the
reason that holds between it and the last line before for the same destination. -/
theorem log_is_faithful_history (logged : Logged s records)
    (keeps : s.1.config.ignoreInvalidRoutes = false) :
    (∀ ip, (replay (records ++ s.1.drainLog.1)).get? ip = (s.1.row? ip).map .ofRow) ∧
    ∀ earlier record, earlier ++ [record] <+: records ++ s.1.drainLog.1 → ∀ route why,
      record.event = .addedRoute route why →
        why.Relates ((replay earlier).get? route.ip) route := by
  have faithful := (logged.faithful keeps).2
  rw [drainLog_fst]
  exact ⟨faithful.rows, faithful.reasons⟩

end Lawful

theorem Cue.works {cue : Cue} (done : cue.take s = some s') : Works s s' := by
  obtain ⟨t, air⟩ := s
  cases cue with
  | hear sender advert link =>
    simp only [take] at done
    split at done
    · next after heard =>
      cases done
      exact .heard heard
    · cases done
  | wait limit =>
    simp only [take] at done
    split at done
    · next idle =>
      cases done
      exact .waited t idle
    · cases done
  | fire =>
    simp only [take] at done
    split at done
    · cases done
    · next item sim taken => exact .fired taken (ok_of_toOption done)

theorem Logged.follow {cues : List Cue} (logged : Logged s records)
    (done : RouteTable.follow cues s = some s') : Logged s' records := by
  induction cues generalizing s with
  | nil =>
    cases done
    exact logged
  | cons cue rest ih =>
    obtain ⟨mid, first, later⟩ := Option.bind_eq_some_iff.mp done
    exact ih (logged.worked (Cue.works first)) later

def reasonsOf (records : List RouteLogRecord) : List RouteReason :=
  records.filterMap fun record => record.event.added?.map (·.2)

/-- A destination is told of by two neighbours, of which the second goes on with a worse way. -/
def twoWays : List Cue :=
  [.hear (.ofIndex 1) ⟨[⟨.ofIndex 1, .ofIndex 1, 2, 0, 0, 60000⟩,
      ⟨.ofIndex 3, .ofIndex 3, 4, 1, 50, 60000⟩]⟩ (.good 100),
    .hear (.ofIndex 2) ⟨[⟨.ofIndex 2, .ofIndex 2, 2, 0, 0, 60000⟩,
      ⟨.ofIndex 3, .ofIndex 3, 4, 1, 40, 60000⟩, ⟨.ofIndex 3, .ofIndex 3, 4, 1, 90, 60000⟩]⟩
      (.good 100)]

/-- The way breaks and comes back; then both neighbours run out, and the way with them. -/
def comesAndGoes : List Cue :=
  [.hear (.ofIndex 2) ⟨[⟨.ofIndex 2, .ofIndex 2, 4, 0, 0, 60000⟩,
      ⟨.ofIndex 3, .ofIndex 3, 5, 0, 255, 60000⟩]⟩ (.good 100),
    .hear (.ofIndex 2) ⟨[⟨.ofIndex 2, .ofIndex 2, 4, 0, 0, 60000⟩,
      ⟨.ofIndex 3, .ofIndex 3, 6, 1, 40, 60000⟩]⟩ (.good 100), .fire, .fire, .fire]

def blankLogged : RouteTable × Air Transcript := (blank.setLog { node := .ofIndex 0 }, ⟨.empty, {}⟩)

def ranOutLater : Option ((RouteTable × Air Transcript) × List RouteLogRecord) :=
  (follow twoWays blankLogged).bind fun mid =>
    (follow comesAndGoes (mid.1.drainLog.2, mid.2)).map fun last => (last, mid.1.drainLog.1)

private theorem ranOutLater_seen : ranOutLater.map (fun s => (s.1.1.config.ignoreInvalidRoutes,
    reasonsOf s.2, reasonsOf s.1.1.drainLog.1)) = some (false,
      [.newDest, .newDest, .newDest, .betterMetric, .sameNextHop],
      [.newSeq, .brokenAdvert, .sameNextHop, .newSeq, .expired, .expired, .nextHopExpired]) := by
  decide +kernel

private theorem ranOutLater_logged {s : RouteTable × Air Transcript} {records : List RouteLogRecord}
    (ran : ranOutLater = some (s, records)) : Logged s records := by
  obtain ⟨mid, early, late⟩ := Option.bind_eq_some_iff.mp ran
  obtain ⟨last, later, same⟩ := Option.map_eq_some_iff.mp late
  obtain ⟨rfl, rfl⟩ := Prod.mk.inj same
  have begun : Logged blankLogged [] := .begun (blank_inUse _) (fun _ => rfl) _
  exact (begun.follow early).drained.follow later

/-- Lines for every reason there is, some of them taken, lead to the rows of the table. -/
theorem lines_of_every_reason : ∃ (s : RouteTable × Air Transcript) (records : List RouteLogRecord),
    Logged s records ∧ s.1.config.ignoreInvalidRoutes = false ∧
      reasonsOf records = [.newDest, .newDest, .newDest, .betterMetric, .sameNextHop] ∧
      reasonsOf s.1.drainLog.1 =
        [.newSeq, .brokenAdvert, .sameNextHop, .newSeq, .expired, .expired, .nextHopExpired] ∧
      ∀ ip, (replay (records ++ s.1.drainLog.1)).get? ip = (s.1.row? ip).map .ofRow := by
  obtain ⟨⟨s, records⟩, ran, same⟩ := Option.map_eq_some_iff.mp ranOutLater_seen
  obtain ⟨keeps, same⟩ := Prod.mk.inj same
  obtain ⟨taken, left⟩ := Prod.mk.inj same
  have logged := ranOutLater_logged ran
  exact ⟨s, records, logged, keeps, taken, left, (log_is_faithful_history logged keeps).1⟩

end RouteTable

end WirelessMesh
