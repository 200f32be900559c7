import WirelessMesh.Proofs.Route.Chronicle
import WirelessMesh.Proofs.Route.Occasions

/-!
What an advert makes of a table, told without checks, timers and their numbers: what the table knows of
each destination, when the trigger is due, the log, and the answer. Rows are taken one after another by
a rule that looks at the row that is there at that point, and all the rest follows the same decision.
-/
namespace WirelessMesh

/-- What a table knows of a destination: its row, the one before that, and when the row ends. -/
structure Knowledge where
  row : Option RouteRow
  old : Option RouteRow
  ends : Option Time

/-- What there is to see of a table that takes in an advert, and whether a row has changed. -/
structure Picture where
  knows : IPv4 → Knowledge
  /-- When the trigger is due, if one is set. -/
  trigger : Option Time
  log : Option RouteLog
  changed : Bool

namespace RouteTable

variable {t t' : RouteTable} {sim sim' : Simulator MeshEvent} {r accepted : RouteRow}
  {why : RouteReason} {ip : IPv4} {me e : AdvertEntry} {link : Metric} {after : Considered}
  {current : Option RouteRow} {changed : Bool} {now : Time}

def picture (t : RouteTable) (sim : Simulator MeshEvent) (changed : Bool) : Picture where
  knows ip := ⟨t.row? ip, t.old? ip, (t.expiryOf ip).due? sim⟩
  trigger := t.triggerTimer.due? sim
  log := t.log
  changed

/-- Whether a row that is offered is taken in place of the current one: there is none, or it is older, or
it is as old and the offered row has the same next hop or a better metric. -/
def Prevails (t : RouteTable) (current : Option RouteRow) (r : RouteRow) : Prop :=
  ¬ (t.config.ignoreInvalidRoutes = true ∧ r.metric = .bad) ∧
    ∀ cur ∈ current, cur.seq < r.seq ∨
      cur.seq = r.seq ∧ (cur.nextHopIp = r.nextHopIp ∨ r.metric.betterThan cur.metric = true)

instance (t : RouteTable) (current : Option RouteRow) (r : RouteRow) :
    Decidable (t.Prevails current r) := inferInstanceAs (Decidable (_ ∧ _))

/-- The row as it is taken: with an equal number the route settles when it would have. -/
def settledWith (current : Option RouteRow) (r : RouteRow) : RouteRow :=
  match current.filter (·.seq = r.seq) with
  | some cur => { r with settledAt := cur.settledAt }
  | none => r

/-- Why a row that prevails is taken. -/
def reasonOver : Option RouteRow → RouteRow → RouteReason
  | none, _ => .newDest
  | some cur, r =>
    if cur.seq < r.seq then .newSeq
    else if cur.nextHopIp = r.nextHopIp then .sameNextHop
    else .betterMetric

/-- The row of a destination as broken, under a number that was heard. -/
def wordOfBreak (t : RouteTable) (cur : RouteRow) (seq : UInt32) (now : Time) : RouteRow :=
  { cur with
    seq
    hops := 0
    metric := .bad
    ttl := t.config.timeout
    updatedAt := now
    settledAt := now }

end RouteTable

/-- The old row beside a new one: the row that was there, if it is to be used and was older. -/
def Knowledge.olderThan (k : Knowledge) (useOldRoute : Bool) (seq : UInt32) : Option RouteRow :=
  match k.row with
  | some cur => if useOldRoute = true ∧ cur.seq < seq then some cur else k.old
  | none => k.old

namespace Picture

variable (p : Picture) (t : RouteTable) (now : Time)

/-- A row is put in place of what was known of its destination. -/
def write (r : RouteRow) (why : RouteReason) : Picture where
  knows := Function.update p.knows r.ip
    ⟨some r, (p.knows r.ip).olderThan t.config.useOldRoute r.seq,
      if r.isGood then some (now + min r.ttl t.config.timeout) else none⟩
  trigger := p.trigger
  log := p.log.map fun log : RouteLog => log.write now (.addedRoute (.ofRow r) why)
  changed := true

/-- Nothing is known of a destination any more. -/
def forget (ip : IPv4) : Picture :=
  { p with knows := Function.update p.knows ip ⟨none, none, none⟩, changed := true }

/-- A trigger is set, unless one is. -/
def ask : Picture := { p with trigger := p.trigger.or (some (t.earliestAdvert now)) }

/-- A row is offered. -/
def offer (r : RouteRow) : Picture :=
  let current := (p.knows r.ip).row
  if t.Prevails current r then
    let taken := p.write t now (RouteTable.settledWith current r) (RouteTable.reasonOver current r)
    if RouteTable.isMove current r then taken.ask t now else taken
  else p

/-- There is word of a broken route. -/
def tell (e : AdvertEntry) : Picture :=
  match (p.knows e.ip).row with
  | none => p
  | some cur =>
    if cur.seq < e.seq then
      let broken :=
        if t.config.ignoreInvalidRoutes then p.forget e.ip
        else p.write t now (t.wordOfBreak cur e.seq now) .brokenAdvert
      broken.ask t now
    else p

variable (me : AdvertEntry) (link : Metric)

/-- An entry of an advert is taken in, unless it is about this node or the sender. -/
def hear (e : AdvertEntry) : Picture :=
  if e.eth = t.eth ∨ e.ip = t.ip ∨ e.eth = me.eth then p
  else if e.hops = 0 ∧ isOddSeq e.seq = true then p.tell t now e
  else if e.hops ≠ 0 ∧ isOddSeq e.seq = false then p.offer t now (t.relayedRow me e link now)
  else p

/-- The metric of the link to the sender goes into the log, its row is offered, and then the entries are
taken in one after another. -/
def hearAdvert (advert : RouteAdvert) : Picture :=
  let noted :=
    { p with log := p.log.map fun log : RouteLog => log.write now (.metricUpdate me.eth link.cost?) }
  advert.entries.foldl (fun p e => p.hear t now me link e) (noted.offer t now (t.hopRow me link now))

end Picture

namespace RouteTable

variable {t t' : RouteTable} {sim sim' : Simulator MeshEvent} {r accepted : RouteRow}
  {why : RouteReason} {ip : IPv4} {me e : AdvertEntry} {link : Metric} {after : Considered}
  {current : Option RouteRow} {changed : Bool} {now : Time} {p : Picture}

/-- The rule depends on the addresses, the settings and the last advert of a table only. -/
theorem Kept.hear (kept : t.Kept t') : p.hear t' now me link e = p.hear t now me link e := by
  obtain ⟨node, ip, eth, config, seq, random, advertTimer, dumpTimer, lastAdvert⟩ := kept
  cases t
  cases t'
  simp only at ip eth config lastAdvert
  subst ip eth config lastAdvert
  rfl

theorem verdict_eq (current : Option RouteRow) (r : RouteRow) (taken : t.passesOver r = false) :
    verdict current r =
      if t.Prevails current r then some (reasonOver current r, settledWith current r) else none := by
  have welcome : ¬ (t.config.ignoreInvalidRoutes = true ∧ r.metric = .bad) := by
    rintro ⟨ignores, bad⟩
    simp [passesOver, ignores, bad, Metric.isGood] at taken
  cases current with
  | none =>
    rw [if_pos ⟨welcome, fun cur member => absurd member (Option.not_mem_none cur)⟩]
    rfl
  | some cur =>
    unfold verdict reasonOver settledWith Prevails
    by_cases newer : cur.seq < r.seq
    · have differs : cur.seq ≠ r.seq := fun same => UInt32.lt_irrefl _ (same ▸ newer)
      simp [welcome, newer, differs, Option.filter_some]
    · by_cases same : cur.seq = r.seq
      · by_cases hop : cur.nextHopIp = r.nextHopIp
        · simp [welcome, same, hop, Option.filter_some]
        · by_cases better : r.metric.betterThan cur.metric = true
          · simp [welcome, same, hop, better, Option.filter_some]
          · simp [welcome, same, hop, better]
      · simp [welcome, newer, same]

theorem picture_ext {p q : Picture} (knows : ∀ ip, p.knows ip = q.knows ip)
    (trigger : p.trigger = q.trigger) (log : p.log = q.log) (changed : p.changed = q.changed) :
    p = q := by
  obtain ⟨k, _, _, _⟩ := p
  obtain ⟨k', _, _, _⟩ := q
  obtain rfl : k = k' := funext knows
  cases trigger
  cases log
  cases changed
  rfl

/-- What is done to the timer of one destination leaves those of all others. -/
theorem Sound.knows_other (sound : t.Sound sim)
    (changes : sim.Changes (· = expiryEvent t.node ip) sim') {d : IPv4} (other : d ≠ ip)
    (same : t'.routes.get? d = t.routes.get? d) :
    (t'.picture sim' changed).knows d = (t.picture sim changed).knows d := by
  have slot : t'.expiryOf d = t.expiryOf d := by rw [expiryOf, expiryOf, same]
  have due : (t.expiryOf d).due? sim' = (t.expiryOf d).due? sim :=
    TimerSlot.due?_changes (sound.expiryOf_owns d) sound.valid changes
      fun here => other (expiryEvent_inj.mp here)
  simp only [picture, row?, old?, same, slot, due]

theorem Sound.trigger_other (sound : t.Sound sim)
    (changes : sim.Changes (· = expiryEvent t.node ip) sim') :
    t.triggerTimer.due? sim' = t.triggerTimer.due? sim :=
  TimerSlot.due?_changes sound.trigger sound.valid changes nofun

theorem Sound.changes_disarm_self (sound : t.Sound sim) (ip : IPv4) :
    sim.Changes (· = expiryEvent t.node ip) ((t.expiryOf ip).disarm sim) :=
  TimerSlot.changes_disarm (sound.expiryOf_owns ip) rfl

theorem Sound.changes_install (sound : t.Sound sim) (accepted : RouteRow) (why : RouteReason) :
    sim.Changes (· = expiryEvent t.node accepted.ip) (t.install accepted why sim).2 := by
  rw [install_sim, placedSim_eq (expiry_ofRoute accepted.ip)]
  have changes := sound.changes_disarm_self accepted.ip
  split
  · refine changes.trans (Simulator.changes_schedule ?_ rfl)
    rw [changes.now]
    exact Time.le_add_right _ _
  · exact changes

private theorem kept_eq_olderThan (route : Option Route) (useOldRoute : Bool) (seq : UInt32)
    (ends : Option Time) : (Predecessor.ofRoute route).kept useOldRoute seq =
      Knowledge.olderThan ⟨route.map (·.row), route.bind (·.old), ends⟩ useOldRoute seq := by
  cases route with
  | none => rfl
  | some route => rw [kept_ofRoute]; rfl

theorem Sound.picture_install (sound : t.Sound sim) (changed : Bool) :
    (t.install accepted why sim).1.picture (t.install accepted why sim).2 true =
      (t.picture sim changed).write t sim.now accepted why := by
  have changes := sound.changes_install accepted why
  have rewrites := install_rewrites t accepted why sim
  apply picture_ext
  · intro d
    by_cases here : d = accepted.ip
    · subst here
      have self := rewrites.get?_self
      simp only [picture, Picture.write, Function.update_self, row?, old?, expiryOf, self,
        Option.map_some, Option.bind_some]
      refine congrArg₂ (Knowledge.mk (some accepted)) ?_ ?_
      · exact kept_eq_olderThan _ _ _ _
      · rw [install_sim, placedSim_eq (expiry_ofRoute accepted.ip)]
        simp only [acceptedRoute, placedExpiry]
        split
        · have valid := (sound.changes_disarm_self accepted.ip).valid sound.valid
          have number : ((t.expiryOf accepted.ip).disarm sim).nextId = sim.nextId :=
            TimerSlot.nextId_disarm
          rw [← number]
          exact TimerSlot.due?_schedule valid _ _ _
        · rfl
    · simp only [Picture.write, Function.update_of_ne here]
      exact sound.knows_other changes here (rewrites.get?_other here)
  · show (t.install accepted why sim).1.triggerTimer.due? _ = _
    exact sound.trigger_other changes
  · exact place_log t _ accepted why sim
  · rfl

private theorem Sound.picture_without (sound : t.Sound sim) (ip : IPv4) (changed : Bool) :
    (t.without ip).picture ((t.expiryOf ip).disarm sim) true = (t.picture sim changed).forget ip := by
  have changes := sound.changes_disarm_self ip
  have rewrites : t.Rewrites (t.without ip) ip none := erase_rewrites t ip
  apply picture_ext
  · intro d
    by_cases here : d = ip
    · subst here
      have self := rewrites.get?_self
      simp only [picture, Picture.forget, Function.update_self, row?, old?, expiryOf, self]
      rfl
    · simp only [Picture.forget, Function.update_of_ne here]
      exact sound.knows_other changes here (rewrites.get?_other here)
  · exact sound.trigger_other changes
  · rfl
  · rfl

/-- A trigger that is asked for is the one that is set, or one as soon as an advert may go out. -/
theorem Sound.picture_requestTrigger (sound : t.Sound sim) (changed : Bool) :
    (t.requestTrigger sim).1.picture (t.requestTrigger sim).2 changed =
      (t.picture sim changed).ask t sim.now := by
  have changes := changes_requestTrigger sound.trigger
  have armed : (t.triggerTimer.due? sim).isSome = t.triggerTimer.isArmed sim :=
    TimerSlot.isSome_due? sound.valid
  obtain ⟨slot, same⟩ := requestTrigger_eq t sim
  apply picture_ext
  · intro d
    have due : (t.expiryOf d).due? (t.requestTrigger sim).2 = (t.expiryOf d).due? sim :=
      TimerSlot.due?_changes (sound.expiryOf_owns d) sound.valid changes nofun
    rw [same]
    exact congrArg (Knowledge.mk (t.row? d) (t.old? d)) due
  · show (t.requestTrigger sim).1.triggerTimer.due? _ =
      (t.triggerTimer.due? sim).or (some (t.earliestAdvert sim.now))
    cases set : t.triggerTimer.isArmed sim with
    | true =>
      rw [set, Option.isSome_iff_exists] at armed
      obtain ⟨due, found⟩ := armed
      rw [requestTrigger_armed set, found]
      rfl
    | false =>
      rw [set, Option.isSome_eq_false_iff, Option.isNone_iff_eq_none] at armed
      rw [requestTrigger_idle set, armed]
      simp only [TimerSlot.due?_rearm sound.valid, Option.none_or, Option.some.injEq]
      apply Time.ext
      have later : sim.now.ns ≤ (t.earliestAdvert sim.now).ns := t.le_earliestAdvert sim.now
      have bound := (t.earliestAdvert sim.now).ns_le
      rw [Time.ns_add, Time.ns_sub]
      omega
  · rw [same]
    rfl
  · rfl

theorem Sound.installed (sound : t.Sound sim) (why : RouteReason) (row : accepted.check = .ok ())
    (later : ∀ cur, t.row? accepted.ip = some cur → cur.seq ≤ accepted.seq) :
    (t.install accepted why sim).1.Sound (t.install accepted why sim).2 :=
  sound.place (expiry_ofRoute accepted.ip) row (sound.older_ofRoute later)

/-- A row that is written shows in the picture, and so does the trigger that it asks for. -/
theorem Sound.picture_install_ask (sound : t.Sound sim) (row : accepted.check = .ok ())
    (later : ∀ cur, t.row? accepted.ip = some cur → cur.seq ≤ accepted.seq) :
    let next := (t.install accepted why sim).1.requestTrigger (t.install accepted why sim).2
    next.1.picture next.2 true =
      ((t.picture sim changed).write t sim.now accepted why).ask t sim.now := by
  have sound' := sound.installed why row later
  have kept := (install_rewrites t accepted why sim).kept
  have now : (t.install accepted why sim).2.now = sim.now := (sound.changes_install accepted why).now
  show Eq (picture _ _ true) _
  rw [sound'.picture_requestTrigger, sound.picture_install changed, now, Picture.ask,
    kept.earliestAdvert]
  rfl

/-- A row that breaks shows in the picture, or its destination is gone from it, and so does the trigger
that is asked for. -/
private theorem Sound.picture_break_ask (sound : t.Sound sim)
    (broken : t.breakRoute r why sim = .ok (t', sim'))
    (later : ∀ cur, t.row? r.ip = some cur → cur.seq ≤ r.seq) :
    (t'.requestTrigger sim').1.picture (t'.requestTrigger sim').2 true =
      (if t.config.ignoreInvalidRoutes then (t.picture sim changed).forget r.ip
        else (t.picture sim changed).write t sim.now r why).ask t sim.now := by
  unfold RouteTable.breakRoute RouteTable.writeBroken at broken
  split at broken
  · next ignores =>
    obtain ⟨rfl, rfl⟩ := removeRoute_ok broken
    have requested := (sound.erase r.ip).picture_requestTrigger true
    rw [if_pos ignores, expiry_ofRoute]
    refine requested.trans ?_
    rw [TimerSlot.now_disarm, ← sound.picture_without r.ip changed]
    rfl
  · next keeps =>
    obtain ⟨placed, row⟩ := write_ok broken
    obtain rfl : t' = (t.install r why sim).1 := congrArg Prod.fst placed
    obtain rfl : sim' = (t.install r why sim).2 := congrArg Prod.snd placed
    rw [if_neg keeps]
    exact sound.picture_install_ask row later

private theorem not_prevails (refused : t.passesOver r = true ∨ verdict current r = none) :
    ¬ t.Prevails current r := by
  intro prevails
  cases skipped : t.passesOver r with
  | true =>
    rw [passesOver, Bool.and_eq_true, Bool.not_eq_true'] at skipped
    refine prevails.1 ⟨skipped.1, ?_⟩
    cases metric : r.metric with
    | bad => rfl
    | good cost => simp [metric, Metric.isGood] at skipped
  | false =>
    have taken := verdict_eq current r skipped
    rw [if_pos prevails] at taken
    rcases refused with passed | none
    · exact Bool.false_ne_true (skipped.symm.trans passed)
    · cases none.symm.trans taken

private theorem prevails_of_verdict (welcome : t.passesOver r = false)
    (taken : verdict current r = some (why, accepted)) :
    t.Prevails current r ∧ reasonOver current r = why ∧ settledWith current r = accepted := by
  rw [verdict_eq current r welcome] at taken
  split at taken
  · next prevails =>
    obtain ⟨reason, row⟩ := Prod.mk.inj (Option.some.inj taken)
    exact ⟨prevails, reason, row⟩
  · cases taken

theorem Sound.picture_consider (sound : t.Sound sim) (changed : Bool)
    (done : t.consider r sim = .ok after) :
    after.table.picture after.sim (changed || after.changed) =
      (t.picture sim changed).offer t sim.now r := by
  have current : ((t.picture sim changed).knows r.ip).row = t.row? r.ip := rfl
  rw [Picture.offer, current]
  rcases consider_steps done with
    ⟨rfl, refused⟩ | ⟨why, accepted, mid, midSim, welcome, taken, inserted, moves⟩
  · simp only [if_neg (not_prevails refused), Bool.or_false]
  · obtain ⟨prevails, rfl, rfl⟩ := prevails_of_verdict welcome taken
    obtain ⟨placed, row⟩ := write_ok inserted
    obtain rfl : mid = (t.install _ _ sim).1 := congrArg Prod.fst placed
    obtain rfl : midSim = (t.install _ _ sim).2 := congrArg Prod.snd placed
    simp only [if_pos prevails]
    rcases moves with ⟨moves, rfl⟩ | ⟨stays, rfl⟩
    · rw [if_pos moves, Bool.or_true]
      exact sound.picture_install_ask row fun cur present =>
        verdict_later taken (verdict_ip taken ▸ present)
    · rw [if_neg (Bool.eq_false_iff.mp stays), Bool.or_true]
      exact sound.picture_install changed

private theorem Sound.picture_considerBroken (sound : t.Sound sim)
    (done : t.considerBroken e sim = .ok after) :
    after.table.picture after.sim (changed || after.changed) =
      (t.picture sim changed).tell t sim.now e := by
  have current : ((t.picture sim changed).knows e.ip).row = t.row? e.ip := rfl
  rw [Picture.tell, current]
  rcases considerBroken_steps done with
    ⟨rfl, stale⟩ | ⟨cur, mid, midSim, present, newer, broken, rfl⟩
  · rw [Bool.or_false]
    cases present : t.row? e.ip with
    | none => rfl
    | some cur => simp only [if_neg (UInt32.not_lt.mpr (stale cur present))]
  · obtain ⟨route, found, same⟩ := Option.map_eq_some_iff.mp present
    have keyed : cur.ip = e.ip := same ▸ (sound.routes e.ip route found).keyed
    simp only [present, if_pos newer, Bool.or_true]
    rw [← keyed]
    refine sound.picture_break_ask broken fun other known => ?_
    have here : t.row? e.ip = some other := keyed ▸ known
    cases present.symm.trans here
    exact UInt32.le_of_lt newer

private theorem Sound.picture_takeEntry (sound : t.Sound sim) (done : t.takeEntry me link e sim = .ok after) :
    after.table.picture after.sim (changed || after.changed) =
      (t.picture sim changed).hear t sim.now me link e := by
  unfold RouteTable.takeEntry at done
  unfold Picture.hear
  split at done
  · next familiar =>
    cases done
    rw [if_pos familiar, Bool.or_false]
  · next strange =>
    rw [if_neg strange]
    split at done
    · next word =>
      rw [if_pos word]
      exact sound.picture_considerBroken done
    · next other =>
      rw [if_neg other]
      split at done
      · next offers =>
        rw [if_pos (by simpa using offers)]
        exact sound.picture_consider _ done
      · next neither =>
        cases done
        rw [if_neg (by simpa using neither), Bool.or_false]

private theorem picture_takeEntries {entries : List AdvertEntry} : ∀ {sofar : Considered},
    sofar.table.Sound sofar.sim → takeEntries me link entries sofar = .ok after →
      after.table.picture after.sim after.changed =
        entries.foldl (fun p e => p.hear sofar.table sofar.sim.now me link e)
          (sofar.table.picture sofar.sim sofar.changed) := by
  induction entries with
  | nil =>
    intro sofar _ done
    cases done
    rfl
  | cons e rest ih =>
    intro sofar sound done
    obtain ⟨next, taken, rests⟩ := ok_of_bind done
    obtain ⟨kept, sound', changes⟩ := (hears_takeEntry taken).sound sound
    have later := @ih { next with changed := sofar.changed || next.changed } sound' rests
    have now : next.sim.now = sofar.sim.now := changes.now
    simp only [now, kept.hear] at later
    rw [later, List.foldl_cons, sound.picture_takeEntry taken]

theorem Sound.picture_handleAdvert (sound : t.Sound sim) {sender : EtherAddress}
    {advert : RouteAdvert} (counts : t.advertiser? sender advert = some me)
    (done : t.handleAdvert sender advert link sim = .ok after) :
    after.table.picture after.sim after.changed =
      (t.picture sim false).hearAdvert t sim.now me link advert := by
  rw [handleAdvert_eq, counts] at done
  obtain ⟨first, hop, rests⟩ := ok_of_bind done
  obtain ⟨kept, sound', changes⟩ := (hears_hearSender counts hop).sound sound
  have taken := (sound.noteLink me link sim.now).picture_consider false hop
  rw [Bool.false_or] at taken
  have now : first.sim.now = sim.now := changes.now
  rw [picture_takeEntries sound' rests]
  simp only [now, kept.hear, taken]
  rfl

/-- A sound table takes in every advert without broadcast addresses by the rule. An advert without an
entry of its sender, or from this node, changes nothing; any other changes exactly what the rule says. -/
theorem adverts_taken_by_the_rule (sound : t.Sound sim) (sender : EtherAddress) (advert : RouteAdvert)
    (link : Metric) (unicast : ∀ e ∈ advert.entries, e.eth.isBroadcast = false) :
    ∃ after, t.handleAdvert sender advert link sim = .ok after ∧
      t.Kept after.table ∧ after.table.Sound after.sim ∧ sim.Changes t.Owned after.sim ∧
      (entryOfSender? sender advert = none → after = ⟨false, t, sim⟩) ∧
      ∀ me, entryOfSender? sender advert = some me →
        if sender = t.eth ∨ me.ip = t.ip then after = ⟨false, t, sim⟩
        else after.table.picture after.sim after.changed =
          (t.picture sim false).hearAdvert t sim.now me link advert := by
  obtain ⟨after, done, kept, sound', changes⟩ := sound.handleAdvert link unicast
  refine ⟨after, done, kept, sound', changes, ?_, ?_⟩
  · intro silent
    rw [handleAdvert_eq, advertiser?, silent] at done
    exact (Except.ok.inj done).symm
  · intro me found
    split
    · next own =>
      have unheard : t.advertiser? sender advert = none := by
        rw [advertiser?, found, Option.filter_eq_none_iff]
        intro _ same
        cases same
        simpa [imp_iff_not_or] using own
      rw [handleAdvert_eq, unheard] at done
      exact (Except.ok.inj done).symm
    · next foreign =>
      have counts : t.advertiser? sender advert = some me := by
        rw [advertiser?, found, Option.filter_eq_some_iff]
        exact ⟨rfl, by simpa using foreign⟩
      exact sound.picture_handleAdvert counts done

/-- A neighbour tells of a destination twice, then that the way there is broken, and of another. -/
def mixedNews : RouteAdvert :=
  ⟨[⟨.ofIndex 1, .ofIndex 1, 2, 0, 0, 60000⟩, ⟨.ofIndex 3, .ofIndex 3, 4, 1, 50, 60000⟩,
    ⟨.ofIndex 3, .ofIndex 3, 4, 2, 90, 60000⟩, ⟨.ofIndex 3, .ofIndex 3, 5, 0, 255, 60000⟩,
    ⟨.ofIndex 4, .ofIndex 4, 6, 255, 255, 1000⟩]⟩

/-- By the rule the first destination ends as broken, the other with as many hops as before and a metric
that cannot be used, and a trigger is set at once. -/
theorem mixed_news_by_the_rule :
    ∃ after, blank.handleAdvert (.ofIndex 1) mixedNews (.good 100) .empty = .ok after ∧
      after.changed = true ∧ after.table.triggerTimer.due? after.sim = some .zero ∧
      after.table.row? (.ofIndex 3) = some ⟨.ofIndex 3, .ofIndex 3, .ofIndex 1, .ofIndex 1, 5, 0, .bad,
        .ofSeconds 60, .zero, .zero⟩ ∧
      after.table.row? (.ofIndex 4) = some ⟨.ofIndex 4, .ofIndex 4, .ofIndex 1, .ofIndex 1, 6, 255,
        .bad, .ofSeconds 1, .zero, .ofSeconds 3⟩ := by
  have sound : blank.Sound .empty := (blank_inUse ({} : Transcript)).sound
  obtain ⟨after, done, -, -, -, -, heard⟩ :=
    adverts_taken_by_the_rule sound (.ofIndex 1) mixedNews (.good 100) (by decide)
  have picture := heard ⟨.ofIndex 1, .ofIndex 1, 2, 0, 0, 60000⟩ (by decide)
  rw [if_neg (by decide)] at picture
  have row (ip : IPv4) := congrArg (fun p => (p.knows ip).row) picture
  refine ⟨after, done, ?_, ?_, ?_, ?_⟩
  · exact (congrArg Picture.changed picture).trans (by decide +kernel)
  · exact (congrArg Picture.trigger picture).trans (by decide +kernel)
  · refine (row (.ofIndex 3)).trans ?_
    decide +kernel
  · refine (row (.ofIndex 4)).trans ?_
    decide +kernel

end RouteTable

end WirelessMesh
