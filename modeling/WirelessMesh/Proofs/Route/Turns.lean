import WirelessMesh.Proofs.Route.Stages
import WirelessMesh.Proofs.Route.Tending

namespace WirelessMesh

namespace RouteTable

variable {t t' : RouteTable} {sim sim' : Simulator MeshEvent} {s s' : RouteTable × Simulator MeshEvent}
  {r accepted : RouteRow} {why : RouteReason} {before : Predecessor} {e : AdvertEntry}
  {after : Considered} {ip : IPv4} {route : Route}

/-- The table with an accepted row in place of the one that it has. -/
def install (t : RouteTable) (accepted : RouteRow) (why : RouteReason) (sim : Simulator MeshEvent) :
    RouteTable × Simulator MeshEvent :=
  t.place (.ofRoute (t.routes.get? accepted.ip)) accepted why sim

theorem install_rewrites (t : RouteTable) (accepted : RouteRow) (why : RouteReason)
    (sim : Simulator MeshEvent) :
    t.Rewrites (t.install accepted why sim).1 accepted.ip (some (t.acceptedRoute accepted sim)) :=
  place_rewrites t _ accepted why sim

theorem install_sim (t : RouteTable) (accepted : RouteRow) (why : RouteReason)
    (sim : Simulator MeshEvent) : (t.install accepted why sim).2 =
      t.placedSim (.ofRoute (t.routes.get? accepted.ip)) accepted sim :=
  place_sim

/-- What a row that is offered comes to: it is passed over, or it is put in place, and if it moves the
route a trigger is asked for. -/
inductive Considers (t : RouteTable) (r : RouteRow) (sim : Simulator MeshEvent) (t' : RouteTable)
    (sim' : Simulator MeshEvent) : Prop
  | passed (table : t' = t) (rest : sim' = sim)
  | moved {why : RouteReason} {accepted : RouteRow}
      (taken : verdict (t.row? r.ip) r = some (why, accepted))
      (moves : isMove (t.row? r.ip) r = true)
      (both : (t', sim') =
        (t.install accepted why sim).1.requestTrigger (t.install accepted why sim).2)
  | renewed {why : RouteReason} {accepted : RouteRow}
      (taken : verdict (t.row? r.ip) r = some (why, accepted))
      (stays : isMove (t.row? r.ip) r = false) (both : (t', sim') = t.install accepted why sim)

/-- A row is passed over, or it is put in place and the table counts as changed. -/
theorem consider_cases (done : t.consider r sim = .ok after) : after = ⟨false, t, sim⟩ ∨
    ∃ why accepted, verdict (t.row? r.ip) r = some (why, accepted) ∧
      ((isMove (t.row? r.ip) r = true ∧ (after.table, after.sim) =
          (t.install accepted why sim).1.requestTrigger (t.install accepted why sim).2) ∨
        (isMove (t.row? r.ip) r = false ∧
          (after.table, after.sim) = t.install accepted why sim)) := by
  rcases consider_steps done with ⟨rfl, -⟩ | ⟨why, accepted, mid, midSim, -, taken, inserted, moves⟩
  · exact .inl rfl
  · have placed : (mid, midSim) = t.install accepted why sim := (write_ok inserted).1
    refine .inr ⟨why, accepted, taken, ?_⟩
    rw [← placed]
    rcases moves with ⟨moves, rfl⟩ | ⟨stays, rfl⟩
    · exact .inl ⟨moves, rfl⟩
    · exact .inr ⟨stays, rfl⟩

theorem considers (done : t.consider r sim = .ok after) :
    t.Considers r sim after.table after.sim := by
  rcases consider_cases done with rfl | ⟨why, accepted, taken, ⟨moves, both⟩ | ⟨stays, both⟩⟩
  · exact .passed rfl rfl
  · exact .moved taken moves both
  · exact .renewed taken stays both

/-- What may become of a destination when nothing is offered for it: nothing new, a broken row in place
of its row, or, where broken rows are not kept, nothing at all. -/
inductive Breaks (t : RouteTable) : Option Route → Option Route → Prop
  | same (route : Option Route) : Breaks t route route
  | broken {route : Route} {r : RouteRow} {old : Option RouteRow} (gone : r.hops = 0)
      (ip : r.ip = route.row.ip) (eth : r.eth = route.row.eth) (newer : route.row.seq < r.seq)
      (kept : old = route.old ∨ old = some route.row) :
      Breaks t (some route) (some ⟨r, old, none⟩)
  | removed {route : Route} (ignored : t.config.ignoreInvalidRoutes = true) :
      Breaks t (some route) none

/-- What may become of a destination: it breaks or stays, or an offered row is accepted. -/
inductive Turns (t : RouteTable) (sim sim' : Simulator MeshEvent) :
    Option Route → Option Route → Prop
  | breaks {route route' : Option Route} (breaks : t.Breaks route route') :
      Turns t sim sim' route route'
  | accepted {route : Option Route} {why : RouteReason} {r accepted : RouteRow} {slot : TimerSlot}
      (offered : t.Offered sim.now r)
      (taken : verdict (route.map (·.row)) r = some (why, accepted))
      (timed : slot.DueBy sim' (sim.now + min accepted.ttl t.config.timeout)) :
      Turns t sim sim' route
        (some ⟨accepted, (Predecessor.ofRoute route).kept t.config.useOldRoute accepted.seq, slot⟩)

theorem breaks_brokenRoute (gone : r.hops = 0) (sameIp : r.ip = route.row.ip)
    (sameEth : r.eth = route.row.eth) (newer : route.row.seq < r.seq)
    (from_ : before = ⟨none, route.old, none⟩ ∨ before = .ofRoute (some route)) :
    t.Breaks (some route) (t.brokenRoute before r) := by
  unfold brokenRoute
  split
  · next ignored => exact .removed ignored
  · apply Breaks.broken gone sameIp sameEth newer
    rcases from_ with rfl | rfl
    · exact .inl rfl
    · exact kept_cases route _ _

/-- The timer of a row that is put in place is due when its time is over. -/
private theorem Sound.placedExpiry_dueBy (sound : t.Sound sim) (held : before.expiry = t.expiryOf r.ip) :
    (t.placedExpiry r sim).DueBy (t.placedSim before r sim)
      (sim.now + min r.ttl t.config.timeout) := by
  intro timer slot
  unfold placedExpiry at slot
  split at slot
  · next good =>
    cases slot
    constructor
    · rw [placedSim_eq held, if_pos good]
      exact Nat.lt_succ_of_le (Nat.le_of_eq TimerSlot.nextId_disarm.symm)
    · intro x member same
      rcases (live_placedSim sound.valid held x).mp member with ⟨-, rfl⟩ | old
      · exact Nat.le_refl _
      · have given := sound.valid.live_given (TimerSlot.live_disarm.mp old).1
        rw [same] at given
        exact absurd given (Nat.lt_irrefl _)
  · cases slot

theorem Offered.kept {now : Time} (offered : t.Offered now r) (kept : t.Kept t') :
    t'.Offered now r where
  coherent := offered.coherent
  whole := offered.whole
  updated := offered.updated
  settled := by
    rw [kept.config]
    exact offered.settled
  foreignIp := by
    rw [kept.ip]
    exact offered.foreignIp
  foreignEth := by
    rw [kept.eth]
    exact offered.foreignEth

/-- What becomes of a destination depends on the addresses and the settings of the table only. -/
theorem Turns.kept {a b : Option Route} (turns : t.Turns sim sim' a b) (kept : t.Kept t') :
    t'.Turns sim sim' a b := by
  cases turns with
  | breaks breaks =>
    cases breaks with
    | same => exact .breaks (.same _)
    | broken gone ip eth newer old => exact .breaks (.broken gone ip eth newer old)
    | removed ignored => exact .breaks (.removed (kept.config ▸ ignored))
  | accepted offered taken timed =>
    rw [← kept.config] at timed ⊢
    exact .accepted (offered.kept kept) taken timed

theorem Turns.spares {owned : MeshEvent → Prop} {route route' : Option Route}
    {later : Simulator MeshEvent} (turns : t.Turns sim sim' route route') (valid : sim'.WellFormed)
    (spares : sim'.Spares owned later) : t.Turns sim later route route' := by
  cases turns with
  | breaks breaks => exact .breaks breaks
  | accepted offered taken timed => exact .accepted offered taken (timed.spares valid spares)

private theorem Sound.install_turns (sound : t.Sound sim) (offered : t.Offered sim.now r)
    (taken : verdict (t.row? r.ip) r = some (why, accepted)) (d : IPv4) :
    t.Turns sim (t.install accepted why sim).2 (t.routes.get? d)
      ((t.install accepted why sim).1.routes.get? d) := by
  have timed := sound.placedExpiry_dueBy (expiry_ofRoute (t := t) accepted.ip)
  rw [← install_sim t accepted why] at timed
  rw [(install_rewrites t accepted why sim).get?]
  split
  · next here =>
    subst here
    rw [row?, ← verdict_ip taken] at taken
    exact .accepted offered taken timed
  · exact .breaks (.same _)

private theorem Sound.install_trigger (sound : t.Sound sim) (accepted : RouteRow) (why : RouteReason) :
    (t.install accepted why sim).2.WellFormed ∧
      (t.install accepted why sim).2.Spares (fun _ => False)
        ((t.install accepted why sim).1.requestTrigger (t.install accepted why sim).2).2 := by
  have changes := sound.changes_place (expiry_ofRoute (t := t) accepted.ip)
  rw [← install_sim t accepted why] at changes
  refine ⟨changes.valid sound.valid, ?_⟩
  have owns := sound.trigger.changes sound.valid changes
  have requested := changes_requestTrigger (t := (t.install accepted why sim).1) owns
  exact requested.spares fun _ _ => id

private theorem Sound.consider_turns (sound : t.Sound sim) (offered : t.Offered sim.now r)
    (done : t.consider r sim = .ok after) (d : IPv4) :
    t.Turns sim after.sim (t.routes.get? d) (after.table.routes.get? d) := by
  cases considers done with
  | passed table rest =>
    rw [table]
    exact .breaks (.same _)
  | @moved why accepted taken moves both =>
    obtain ⟨valid, spares⟩ := sound.install_trigger accepted why
    have routes := congrArg (·.1.routes) both
    rw [← congrArg Prod.snd both] at spares
    simp only [requestTrigger_routes] at routes
    rw [routes]
    exact (sound.install_turns offered taken d).spares valid spares
  | renewed taken stays both =>
    have turns := sound.install_turns offered taken d
    rwa [← both] at turns

private theorem Sound.considerBroken_breaks (sound : t.Sound sim)
    (done : t.considerBroken e sim = .ok after) (d : IPv4) :
    t.Breaks (t.routes.get? d) (after.table.routes.get? d) := by
  rcases considerBroken_ok done with ⟨rfl, -⟩ | ⟨cur, present, newer, rewrites⟩
  · exact .same _
  · rw [rewrites.get?]
    split
    · next here =>
      obtain ⟨route, found, rfl⟩ := Option.map_eq_some_iff.mp present
      rw [← (sound.routes e.ip route found).keyed] at found
      rw [here, found]
      exact breaks_brokenRoute rfl rfl rfl newer (.inr rfl)
    · exact .same _

theorem Hears.turns (hears : Hears s s') (sound : s.1.Sound s.2) (d : IPv4) :
    s.1.Turns s.2 s'.2 (s.1.routes.get? d) (s'.1.routes.get? d) := by
  cases hears with
  | passed s => exact .breaks (.same _)
  | @offered t sim r after log offered done =>
    have logged : { t with log }.Sound sim :=
      sound.congr rfl rfl sound.advert sound.trigger sound.dump
    have kept : t.Kept { t with log } := (Proceeds.noted t log sim).kept
    have turns := logged.consider_turns (offered.kept kept) done d
    exact turns.kept ⟨rfl, rfl, rfl, rfl, rfl, rfl, rfl, rfl, rfl⟩
  | told odd done => exact .breaks (sound.considerBroken_breaks done d)

/-- A route that runs out breaks, and so do those that go by way of it. -/
theorem Sound.expireRow_breaks_each {past : Simulator MeshEvent} (sound : t.Sound past)
    (rest : (t.without route.row.ip).Sound sim)
    (present : t.routes.get? route.row.ip = some route) (good : route.row.isGood = true)
    (done : t.expireRow route sim = .ok (t', sim')) :
    t.Kept t' ∧ (∀ d, t.Breaks (t.routes.get? d) (t'.routes.get? d)) ∧ t'.Sound sim' ∧
      sim.Changes t.Owned sim' := by
  have whole := sound.routes _ route present
  obtain ⟨t'', sim'', done', -, sound', changes⟩ := rest.expireRow whole.row whole.older
  rw [done] at done'
  cases done'
  obtain ⟨kept, each⟩ := expireRow_breaks rest present good done
  refine ⟨kept, fun d => ?_, sound', changes⟩
  rcases each d with same | ⟨ρ, before, found, usable, from_, after⟩
  · rw [same]
    exact .same _
  · have coherent := (RouteRow.check_ok (sound.routes d ρ found).row).1
    have newer := coherent.seq_lt_invalidate (RouteRow.isGood_iff.mp usable).1 sim.now
    rw [found, after]
    exact breaks_brokenRoute rfl rfl rfl newer from_

end RouteTable

end WirelessMesh
