import WirelessMesh.Proofs.Route.Turns

namespace WirelessMesh

/-- Whether a way costs less than another, or alone can be used. -/
def RouteRecord.CheaperThan (r p : RouteRecord) : Prop :=
  ∃ cost, r.cost = some cost ∧ ∀ other, p.cost = some other → cost < other

/-- How a row that is written for a reason stands to the last one for its destination. -/
def RouteReason.Relates : RouteReason → Option RouteRecord → RouteRecord → Prop
  | newDest, previous, _ => previous = none
  | newSeq, some p, r => p.seq < r.seq ∧ isOddSeq r.seq = false
  | sameNextHop, some p, r => r.seq = p.seq ∧ r.nextHopIp = p.nextHopIp
  | betterMetric, some p, r => r.seq = p.seq ∧ r.nextHopIp ≠ p.nextHopIp ∧ r.CheaperThan p
  | brokenAdvert, some p, r => p.seq < r.seq ∧ isOddSeq r.seq = true
  | expired, some p, r | nextHopExpired, some p, r =>
    r.seq.toNat = p.seq.toNat + 1 ∧ isOddSeq r.seq = true
  | _, none, _ => False

/-- The row that an event of the log adds, and why. -/
def RouteLogEvent.added? : RouteLogEvent → Option (RouteRecord × RouteReason)
  | addedRoute route reason => some (route, reason)
  | metricUpdate .. | routeDump _ => none

namespace RouteTable

variable {t t' t'' : RouteTable} {sim sim' : Simulator MeshEvent} {now : Time}
  {r accepted cur : RouteRow} {why : RouteReason} {before : Predecessor} {after : Considered}
  {me e : AdvertEntry} {link : Metric} {ip : IPv4} {route : Route} {drops : Bool}

/-- A table gets from one state to another in a moment, and the log tells of each row that is
written, with its true reason. Rows that are taken out, where broken rows are not kept, are not told
of. -/
inductive Chronicles (drops : Bool) (now : Time) : RouteTable → RouteTable → Prop
  | quiet {t t' : RouteTable} (rows : ∀ ip, t'.row? ip = t.row? ip) (log : t'.log = t.log) :
      Chronicles drops now t t'
  | noted (t : RouteTable) {event : RouteLogEvent} (plain : event.added? = none) :
      Chronicles drops now t (t.note now event)
  | placed {t t' : RouteTable} {r : RouteRow} {why : RouteReason}
      (relates : why.Relates ((t.row? r.ip).map .ofRow) (.ofRow r))
      (rows : ∀ ip, t'.row? ip = if ip = r.ip then some r else t.row? ip)
      (log : t'.log = t.log.map (·.write now (.addedRoute (.ofRow r) why))) :
      Chronicles drops now t t'
  | dropped {t t' : RouteTable} (ip : IPv4) (lost : drops = true)
      (rows : ∀ d, t'.row? d = if d = ip then none else t.row? d) (log : t'.log = t.log) :
      Chronicles drops now t t'
  | trans {t t' t'' : RouteTable} (first : Chronicles drops now t t')
      (second : Chronicles drops now t' t'') : Chronicles drops now t t''

theorem Chronicles.refl (t : RouteTable) : Chronicles drops now t t := .quiet (fun _ => rfl) rfl

theorem Chronicles.of_routes (routes : t'.routes = t.routes) (log : t'.log = t.log) :
    Chronicles drops now t t' :=
  .quiet (fun ip => by rw [row?, row?, routes]) log

theorem chronicles_requestTrigger (t : RouteTable) (sim : Simulator MeshEvent) :
    Chronicles drops now t (t.requestTrigger sim).1 := by
  obtain ⟨_, same⟩ := requestTrigger_eq t sim
  rw [same]
  exact .of_routes rfl rfl

theorem place_log (t : RouteTable) (before : Predecessor) (r : RouteRow) (why : RouteReason)
    (sim : Simulator MeshEvent) : (t.place before r why sim).1.log =
      t.log.map (·.write sim.now (.addedRoute (.ofRow r) why)) := by
  cases good : r.isGood with
  | false =>
    rw [place_bad good]
    simp only [note, TimerSlot.now_disarm]
  | true =>
    rw [place_good good]
    have now (delay : Time) (event : MeshEvent) :
        (before.expiry.rearm sim delay event).2.now = sim.now := TimerSlot.now_disarm
    simp only [note, now]

/-- The row of a destination after it is written for, whatever was kept of it meanwhile. -/
theorem chronicles_place {t₀ : RouteTable} (log : t.log = t₀.log)
    (rows : ∀ d, d ≠ r.ip → t.row? d = t₀.row? d)
    (relates : why.Relates ((t₀.row? r.ip).map .ofRow) (.ofRow r)) :
    Chronicles drops sim.now t₀ (t.place before r why sim).1 := by
  refine .placed relates (fun d => ?_) (log ▸ place_log t before r why sim)
  rw [row?, (place_rewrites t before r why sim).get?]
  split
  · rfl
  · next other => exact rows d other

theorem now_of_place : (t.place before r why sim).2.now = sim.now := by
  rw [place_sim, placedSim]
  split <;> exact TimerSlot.now_disarm

/-- A broken row is written, or its destination is taken out. -/
theorem chronicles_writeBroken {t₀ : RouteTable} (log : t.log = t₀.log)
    (rows : ∀ d, d ≠ r.ip → t.row? d = t₀.row? d)
    (relates : why.Relates ((t₀.row? r.ip).map .ofRow) (.ofRow r))
    (done : t.writeBroken before r why sim = .ok (t', sim')) :
    Chronicles t.config.ignoreInvalidRoutes sim.now t₀ t' := by
  unfold writeBroken at done
  split at done
  · next ignored =>
    obtain ⟨rfl, -⟩ := removeRoute_ok done
    refine .dropped r.ip ignored (fun d => ?_) log
    rw [row?, (erase_rewrites t r.ip).get?]
    split
    · rfl
    · next other => exact rows d other
  · have same : t' = (t.place before r why sim).1 := congrArg Prod.fst (write_ok done).1
    rw [same]
    exact chronicles_place log rows relates

theorem now_of_writeBroken (done : t.writeBroken before r why sim = .ok (t', sim')) :
    sim'.now = sim.now := by
  unfold writeBroken at done
  split at done
  · rw [(removeRoute_ok done).2, TimerSlot.now_disarm]
  · have same : sim' = (t.place before r why sim).2 := congrArg Prod.snd (write_ok done).1
    rw [same, now_of_place]

theorem chronicles_breakRoute (relates : why.Relates ((t.row? r.ip).map .ofRow) (.ofRow r))
    (done : t.breakRoute r why sim = .ok (t', sim')) :
    Chronicles t.config.ignoreInvalidRoutes sim.now t t' :=
  chronicles_writeBroken rfl (fun _ _ => rfl) relates done

private theorem cheaper_of_better (better : r.metric.betterThan cur.metric = true) (settledAt : Time) :
    (RouteRecord.ofRow { r with settledAt }).CheaperThan (.ofRow cur) := by
  unfold RouteRecord.CheaperThan RouteRecord.ofRow
  cases mine : r.metric with
  | bad =>
    rw [mine] at better
    cases better
  | good cost =>
    refine ⟨cost, rfl, fun other costs => ?_⟩
    cases theirs : cur.metric with
    | bad =>
      rw [theirs] at costs
      cases costs
    | good cost' =>
      rw [theirs] at costs
      rw [mine, theirs] at better
      exact Option.some.inj costs ▸ of_decide_eq_true better

private theorem verdict_relates {current : Option RouteRow} (even : isOddSeq r.seq = false)
    (taken : verdict current r = some (why, accepted)) :
    why.Relates (current.map .ofRow) (.ofRow accepted) := by
  cases current with
  | none =>
    cases taken
    rfl
  | some cur =>
    simp only [verdict] at taken
    split at taken
    · next newer =>
      cases taken
      exact ⟨newer, even⟩
    · split at taken
      · next same =>
        cases taken
        exact ⟨same.1.symm, same.2.symm⟩
      · next other =>
        split at taken
        · next better =>
          cases taken
          exact ⟨better.1.symm, fun hop => other ⟨better.1, hop.symm⟩, cheaper_of_better better.2 _⟩
        · cases taken

/-- A whole row breaks under the next number, which is odd. -/
theorem broken_follows (coherent : cur.Coherent) (whole : cur.hops ≠ 0) :
    (RouteRecord.ofRow (t.brokenRow cur now)).seq.toNat = (RouteRecord.ofRow cur).seq.toNat + 1 ∧
      isOddSeq (RouteRecord.ofRow (t.brokenRow cur now)).seq = true := by
  have even : ¬ isOddSeq cur.seq = true := fun odd => whole (coherent.parity.mpr odd)
  exact ⟨(RouteRow.toNat_seq_invalidate now).trans (if_neg even), RouteRow.isOddSeq_invalidate now⟩

theorem Considers.chronicles (even : isOddSeq r.seq = false)
    (considers : t.Considers r sim t' sim') : Chronicles drops sim.now t t' := by
  have installed {why : RouteReason} {accepted : RouteRow}
      (taken : verdict (t.row? r.ip) r = some (why, accepted)) :
      Chronicles drops sim.now t (t.install accepted why sim).1 := by
    refine chronicles_place rfl (fun _ _ => rfl) ?_
    rw [verdict_ip taken]
    exact verdict_relates even taken
  cases considers with
  | passed table rest =>
    rw [table]
    exact .refl t
  | @moved why accepted taken moves both =>
    have table : t' = ((t.install accepted why sim).1.requestTrigger _).1 := congrArg Prod.fst both
    rw [table]
    exact (installed taken).trans (chronicles_requestTrigger _ _)
  | @renewed why accepted taken stays both =>
    have table : t' = (t.install accepted why sim).1 := congrArg Prod.fst both
    rw [table]
    exact installed taken

private theorem Sound.chronicles_considerBroken (sound : t.Sound sim) (odd : isOddSeq e.seq = true)
    (done : t.considerBroken e sim = .ok after) :
    Chronicles t.config.ignoreInvalidRoutes sim.now t after.table := by
  rcases considerBroken_steps done with ⟨rfl, -⟩ | ⟨cur, mid, midSim, present, newer, broken, rfl⟩
  · exact .refl t
  · obtain ⟨route, found, rfl⟩ := Option.map_eq_some_iff.mp present
    have here : t.row? route.row.ip = some route.row := by
      rw [(sound.routes e.ip route found).keyed, present]
    refine (chronicles_breakRoute ?_ broken).trans (chronicles_requestTrigger mid midSim)
    show RouteReason.Relates .brokenAdvert ((t.row? route.row.ip).map .ofRow) _
    rw [here]
    exact ⟨newer, odd⟩

private theorem Sound.chronicles_takeEntry (sound : t.Sound sim)
    (done : t.takeEntry me link e sim = .ok after) :
    Chronicles t.config.ignoreInvalidRoutes sim.now t after.table := by
  rcases takeEntry_ok done with ⟨-, -, even, considered⟩ | ⟨-, odd, broken⟩ | rfl
  · exact (considers considered).chronicles even
  · exact sound.chronicles_considerBroken odd broken
  · exact .refl t

private theorem chronicles_takeEntries {entries : List AdvertEntry} : ∀ {sofar : Considered},
    sofar.table.Sound sofar.sim → takeEntries me link entries sofar = .ok after →
      Chronicles sofar.table.config.ignoreInvalidRoutes sofar.sim.now sofar.table after.table := by
  induction entries with
  | nil =>
    intro sofar _ done
    cases done
    exact .refl _
  | cons e rest ih =>
    intro sofar sound done
    obtain ⟨next, taken, rests⟩ := ok_of_bind done
    obtain ⟨kept, sound', changes⟩ := (hears_takeEntry taken).sound sound
    have later := @ih { next with changed := sofar.changed || next.changed } sound' rests
    rw [show next.table.config = sofar.table.config from kept.config,
      show next.sim.now = sofar.sim.now from changes.now] at later
    exact (sound.chronicles_takeEntry taken).trans later

theorem Sound.chronicles_handleAdvert (sound : t.Sound sim) {sender : EtherAddress}
    {advert : RouteAdvert} (done : t.handleAdvert sender advert link sim = .ok after) :
    Chronicles t.config.ignoreInvalidRoutes sim.now t after.table := by
  rcases handleAdvert_ok done with ⟨-, rfl⟩ | ⟨me, first, counts, hop, rests⟩
  · exact .refl t
  · obtain ⟨-, -, -, even, -⟩ := advertiser?_some counts
    obtain ⟨kept, sound', changes⟩ := (hears_hearSender counts hop).sound sound
    have later := chronicles_takeEntries sound' rests
    rw [show first.table.config = t.config from kept.config,
      show first.sim.now = sim.now from changes.now] at later
    exact (Chronicles.noted t rfl).trans (((considers hop).chronicles even).trans later)

private theorem chronicles_breakAll {rows : List RouteRow} (distinct : (rows.map (·.ip)).Nodup) :
    ∀ {t : RouteTable} {sim : Simulator MeshEvent},
      (∀ r ∈ rows, t.row? r.ip = some r ∧ r.Coherent ∧ r.hops ≠ 0) → sim.now = now →
      breakAll now rows (t, sim) = .ok (t', sim') →
        Chronicles t.config.ignoreInvalidRoutes now t t' := by
  induction rows with
  | nil =>
    intro t sim _ _ done
    cases done
    exact .refl _
  | cons r rest ih =>
    intro t sim present moment done
    obtain ⟨apart, distinct⟩ := List.nodup_cons.mp distinct
    rw [breakAll_cons] at done
    obtain ⟨⟨mid, midSim⟩, broken, rests⟩ := ok_of_bind done
    obtain ⟨here, coherent, whole⟩ := present r List.mem_cons_self
    have rewrites := writeBroken_rewrites rfl broken
    have still : ∀ row ∈ rest, mid.row? row.ip = some row ∧ row.Coherent ∧ row.hops ≠ 0 := by
      intro row member
      obtain ⟨there, rowCoherent, rowWhole⟩ := present row (List.mem_cons_of_mem _ member)
      refine ⟨?_, rowCoherent, rowWhole⟩
      rw [row?, rewrites.get?_other fun same => apart (List.mem_map.mpr ⟨row, member, same⟩)]
      exact there
    have later := ih distinct still ((now_of_writeBroken broken).trans moment) rests
    rw [rewrites.kept.config] at later
    refine .trans ?_ later
    rw [← moment]
    refine chronicles_breakRoute ?_ broken
    show RouteReason.Relates .nextHopExpired ((t.row? r.ip).map .ofRow) _
    rw [here]
    exact broken_follows coherent whole

/-- The log tells what becomes of a route that runs out and of those that go by way of it. -/
theorem chronicles_expireRow (sound : (t.without route.row.ip).Sound sim)
    (present : t.routes.get? route.row.ip = some route) (row : route.row.check = .ok ())
    (good : route.row.isGood = true) (done : t.expireRow route sim = .ok (t', sim')) :
    Chronicles t.config.ignoreInvalidRoutes sim.now t t' := by
  obtain ⟨mid, midSim, last, lastSim, written, fallen, rfl, -⟩ := expireRow_steps done
  have elsewhere (d : IPv4) (other : d ≠ route.row.ip) :
      (t.without route.row.ip).row? d = t.row? d := by
    rw [row?, without, get?_erase_route, if_neg other, row?]
  have here : t.row? route.row.ip = some route.row := by rw [row?, present]; rfl
  have first : Chronicles t.config.ignoreInvalidRoutes sim.now t mid := by
    refine chronicles_writeBroken (t := t.without route.row.ip)
      (r := t.brokenRow route.row sim.now) rfl elsewhere ?_ written
    show RouteReason.Relates .expired ((t.row? route.row.ip).map .ofRow) _
    rw [here]
    exact broken_follows (RouteRow.check_ok row).1 (RouteRow.isGood_iff.mp good).1
  have rewrites := writeBroken_rewrites rfl written
  have via : ∀ r ∈ t.brokenBy route, mid.row? r.ip = some r ∧ r.Coherent ∧ r.hops ≠ 0 := by
    intro r member
    obtain ⟨listed, usable, -⟩ := brokenBy_mem member
    have there := sound.row?_of_mem listed
    have other : r.ip ≠ route.row.ip := by
      intro gone
      rw [row?, without, get?_erase_route, if_pos gone] at there
      cases there
    obtain ⟨ρ, found, rfl⟩ := Option.map_eq_some_iff.mp there
    have whole := sound.routes _ ρ found
    refine ⟨?_, (RouteRow.check_ok whole.row).1, (RouteRow.isGood_iff.mp usable).1⟩
    rw [row?, rewrites.get?_other other]
    exact there
  have rest := chronicles_breakAll (brokenBy_distinct sound) via (now_of_writeBroken written) fallen
  rw [show mid.config = t.config from rewrites.kept.config] at rest
  exact (first.trans rest).trans (chronicles_requestTrigger last lastSim)

end RouteTable

end WirelessMesh
