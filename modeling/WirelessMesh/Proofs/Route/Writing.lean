import WirelessMesh.Proofs.Route.Row
import WirelessMesh.Proofs.Simulation.Ownership

namespace WirelessMesh

theorem ok_of_map {ε α β : Type} {x : Except ε α} {f : α → β} {y : β} (done : x.map f = .ok y) :
    ∃ a, x = .ok a ∧ f a = y := by
  cases x with
  | error _ => cases done
  | ok a => exact ⟨a, rfl, Except.ok.inj done⟩

theorem ok_of_toOption {ε α : Type} {x : Except ε α} {a : α} (done : x.toOption = some a) :
    x = .ok a := by
  cases x with
  | error _ => cases done
  | ok a => exact congrArg Except.ok (Option.some.inj done)

theorem ok_of_bind {ε α β : Type} {x : Except ε α} {f : α → Except ε β} {y : β}
    (done : x.bind f = .ok y) : ∃ a, x = .ok a ∧ f a = .ok y := by
  cases x with
  | error _ => cases done
  | ok a => exact ⟨a, rfl, done⟩

theorem ok_of_isOk {ε α : Type} {x : Except ε α} (succeeds : x.isOk = true) : ∃ a, x = .ok a := by
  cases x with
  | error _ => cases succeeds
  | ok a => exact ⟨a, rfl⟩

namespace RouteTable

/-- What of a table stays the same while it takes in adverts and gives up routes. -/
structure Kept (t t' : RouteTable) : Prop where
  node : t'.node = t.node
  ip : t'.ip = t.ip
  eth : t'.eth = t.eth
  config : t'.config = t.config
  seq : t'.seq = t.seq
  random : t'.random = t.random
  advertTimer : t'.advertTimer = t.advertTimer
  dumpTimer : t'.dumpTimer = t.dumpTimer
  lastAdvert : t'.lastAdvert = t.lastAdvert

theorem Kept.refl (t : RouteTable) : t.Kept t := ⟨rfl, rfl, rfl, rfl, rfl, rfl, rfl, rfl, rfl⟩

theorem Kept.trans {t t' t'' : RouteTable} (first : t.Kept t') (second : t'.Kept t'') :
    t.Kept t'' where
  node := second.node.trans first.node
  ip := second.ip.trans first.ip
  eth := second.eth.trans first.eth
  config := second.config.trans first.config
  seq := second.seq.trans first.seq
  random := second.random.trans first.random
  advertTimer := second.advertTimer.trans first.advertTimer
  dumpTimer := second.dumpTimer.trans first.dumpTimer
  lastAdvert := second.lastAdvert.trans first.lastAdvert

/-- A table that differs from another in what it knows of one destination. -/
structure Rewrites (t t' : RouteTable) (ip : IPv4) (route : Option Route) : Prop where
  kept : t.Kept t'
  get? : ∀ d, t'.routes.get? d = if d = ip then route else t.routes.get? d

variable {t t' : RouteTable} {before : Predecessor} {r : RouteRow} {why : RouteReason}
  {sim sim' : Simulator MeshEvent} {ip : IPv4} {route : Option Route}

theorem Rewrites.get?_self (rewrites : t.Rewrites t' ip route) : t'.routes.get? ip = route := by
  rw [rewrites.get?, if_pos rfl]

theorem Rewrites.get?_other (rewrites : t.Rewrites t' ip route) {d : IPv4} (other : d ≠ ip) :
    t'.routes.get? d = t.routes.get? d := by
  rw [rewrites.get?, if_neg other]

theorem Rewrites.followed {t'' : RouteTable} (rewrites : t.Rewrites t' ip route)
    (kept : t'.Kept t'') (same : t''.routes = t'.routes) : t.Rewrites t'' ip route :=
  ⟨rewrites.kept.trans kept, fun d => by rw [same, rewrites.get?]⟩

theorem get?_insert_route (route : Route) (d : IPv4) :
    (t.routes.insert ip route).get? d = if d = ip then some route else t.routes.get? d := by
  rw [Directory.get?_insert]
  exact if_congr (Ranked.rank_inj.trans eq_comm) rfl rfl

theorem get?_erase_route (d : IPv4) :
    (t.routes.erase ip).get? d = if d = ip then none else t.routes.get? d := by
  rw [Directory.get?_erase]
  exact if_congr (Ranked.rank_inj.trans eq_comm) rfl rfl

/-- The row that is replaced is kept if the table uses old rows and the new one is newer. -/
theorem kept_ofRoute (route : Route) (useOld : Bool) (seq : UInt32) :
    (Predecessor.ofRoute (some route)).kept useOld seq =
      if useOld = true ∧ route.row.seq < seq then some route.row else route.old := by
  simp [Predecessor.ofRoute, Predecessor.kept]

theorem kept_cases (route : Route) (useOld : Bool) (seq : UInt32) :
    (Predecessor.ofRoute (some route)).kept useOld seq = route.old ∨
      (Predecessor.ofRoute (some route)).kept useOld seq = some route.row := by
  rw [kept_ofRoute]
  split
  · exact .inr rfl
  · exact .inl rfl

/-- The timer of a row that is put in place: none if the row is of no use. -/
def placedExpiry (t : RouteTable) (r : RouteRow) (sim : Simulator MeshEvent) : TimerSlot :=
  if r.isGood then some ⟨sim.nextId, sim.now + min r.ttl t.config.timeout⟩ else none

def placedSim (t : RouteTable) (before : Predecessor) (r : RouteRow)
    (sim : Simulator MeshEvent) : Simulator MeshEvent :=
  if r.isGood then
    ((before.expiry.disarm sim).schedule (sim.now + min r.ttl t.config.timeout)
      (.timer t.node (.expiry r.ip))).2
  else before.expiry.disarm sim

private theorem placed_timer :
    (if r.isGood then
      TimerSlot.rearm none (before.expiry.disarm sim) (min r.ttl t.config.timeout)
        (.timer t.node (.expiry r.ip))
    else (none, before.expiry.disarm sim)) = (t.placedExpiry r sim, t.placedSim before r sim) := by
  have now : (before.expiry.disarm sim).now = sim.now := TimerSlot.now_disarm
  have nextId : (before.expiry.disarm sim).nextId = sim.nextId := TimerSlot.nextId_disarm
  unfold placedExpiry placedSim
  cases r.isGood with
  | false => rfl
  | true =>
    rw [← now, ← nextId]
    rfl

private theorem place_routes :
    (t.place before r why sim).1.routes =
      t.routes.insert r.ip ⟨r, before.kept t.config.useOldRoute r.seq, t.placedExpiry r sim⟩ := by
  simp only [place, placed_timer]
  rfl

theorem place_sim : (t.place before r why sim).2 = t.placedSim before r sim := by
  simp only [place, placed_timer]

theorem place_rewrites (t : RouteTable) (before : Predecessor) (r : RouteRow) (why : RouteReason)
    (sim : Simulator MeshEvent) :
    t.Rewrites (t.place before r why sim).1 r.ip
      (some ⟨r, before.kept t.config.useOldRoute r.seq, t.placedExpiry r sim⟩) := by
  refine ⟨⟨rfl, rfl, rfl, rfl, rfl, rfl, rfl, rfl, rfl⟩, fun d => ?_⟩
  rw [place_routes, get?_insert_route]

/-- A write is checked before and after, and so is the row. -/
theorem write_eq_ok_iff {next : RouteTable × Simulator MeshEvent} :
    t.write before r why sim = .ok next ↔
      t.check sim = .ok () ∧ r.check = .ok () ∧
        (t.config.ignoreInvalidRoutes && !r.metric.isGood) = false ∧
        (t.place before r why sim).1.check (t.place before r why sim).2 = .ok () ∧
        t.place before r why sim = next := by
  unfold write
  cases t.check sim with
  | error _ => simp [bind, Except.bind]
  | ok _ =>
    cases r.check with
    | error _ => simp [bind, Except.bind]
    | ok _ =>
      cases t.config.ignoreInvalidRoutes && !r.metric.isGood with
      | true => simp [bind, Except.bind]
      | false =>
        obtain ⟨t', sim'⟩ := t.place before r why sim
        cases checked : t'.check sim' with
        | error _ => simp [checked, bind, Except.bind]
        | ok _ => simp [checked, bind, Except.bind, pure, Except.pure]

theorem write_ok (done : t.write before r why sim = .ok (t', sim')) :
    (t', sim') = t.place before r why sim ∧ r.check = .ok () := by
  obtain ⟨-, row, -, -, same⟩ := write_eq_ok_iff.mp done
  exact ⟨same.symm, row⟩

theorem write_rewrites (done : t.write before r why sim = .ok (t', sim')) :
    t.Rewrites t' r.ip
      (some ⟨r, before.kept t.config.useOldRoute r.seq, t.placedExpiry r sim⟩) := by
  have same : t' = (t.place before r why sim).1 := congrArg Prod.fst (write_ok done).1
  rw [same]
  exact place_rewrites t before r why sim

theorem removeRoute_ok (done : t.removeRoute ip sim = .ok (t', sim')) :
    t' = { t with routes := t.routes.erase ip } ∧
      sim' = (Predecessor.ofRoute (t.routes.get? ip)).expiry.disarm sim := by
  simp only [removeRoute, bind, Except.bind] at done
  split at done
  · cases done
  · cases done
    exact ⟨rfl, rfl⟩

theorem erase_rewrites (t : RouteTable) (ip : IPv4) :
    t.Rewrites { t with routes := t.routes.erase ip } ip none :=
  ⟨⟨rfl, rfl, rfl, rfl, rfl, rfl, rfl, rfl, rfl⟩, fun _ => get?_erase_route _⟩

def brokenRoute (t : RouteTable) (before : Predecessor) (r : RouteRow) : Option Route :=
  if t.config.ignoreInvalidRoutes then none
  else some ⟨r, before.kept t.config.useOldRoute r.seq, none⟩

theorem brokenRoute_kept (keeps : t.config.ignoreInvalidRoutes = false) :
    t.brokenRoute before r = some ⟨r, before.kept t.config.useOldRoute r.seq, none⟩ := by
  rw [brokenRoute, keeps]
  rfl

theorem writeBroken_rewrites (bad : r.isGood = false)
    (done : t.writeBroken before r why sim = .ok (t', sim')) :
    t.Rewrites t' r.ip (t.brokenRoute before r) := by
  unfold writeBroken at done
  unfold brokenRoute
  cases ignored : t.config.ignoreInvalidRoutes with
  | true =>
    rw [ignored] at done
    rw [(removeRoute_ok done).1]
    exact erase_rewrites t r.ip
  | false =>
    rw [ignored] at done
    have written := write_rewrites done
    rwa [placedExpiry, bad] at written

/-- The table after a request for a trigger differs in the timer of the trigger. -/
theorem requestTrigger_eq (t : RouteTable) (sim : Simulator MeshEvent) :
    ∃ triggerTimer, (t.requestTrigger sim).1 = { t with triggerTimer } := by
  unfold requestTrigger
  split
  · exact ⟨t.triggerTimer, rfl⟩
  · exact ⟨_, rfl⟩

theorem requestTrigger_kept (t : RouteTable) (sim : Simulator MeshEvent) :
    t.Kept (t.requestTrigger sim).1 := by
  obtain ⟨_, same⟩ := requestTrigger_eq t sim
  rw [same]
  exact ⟨rfl, rfl, rfl, rfl, rfl, rfl, rfl, rfl, rfl⟩

@[simp] theorem requestTrigger_routes : (t.requestTrigger sim).1.routes = t.routes := by
  obtain ⟨_, same⟩ := requestTrigger_eq t sim
  rw [same]

/-- The row that is written if one is accepted, and the route it belongs to. -/
def acceptedRoute (t : RouteTable) (accepted : RouteRow) (sim : Simulator MeshEvent) : Route :=
  ⟨accepted,
    (Predecessor.ofRoute (t.routes.get? accepted.ip)).kept t.config.useOldRoute accepted.seq,
    t.placedExpiry accepted sim⟩

/-- Whether a table that keeps usable rows only passes a row over. -/
def passesOver (t : RouteTable) (r : RouteRow) : Bool :=
  t.config.ignoreInvalidRoutes && !r.metric.isGood

/-- A row that has been considered was passed over, or it was inserted, and if it moved the route a
trigger was asked for. -/
theorem consider_steps {after : Considered} (done : t.consider r sim = .ok after) :
    (after = ⟨false, t, sim⟩ ∧ (t.passesOver r = true ∨ verdict (t.row? r.ip) r = none)) ∨
      ∃ why accepted mid midSim, t.passesOver r = false ∧
        verdict (t.row? r.ip) r = some (why, accepted) ∧
        t.insertRoute accepted why sim = .ok (mid, midSim) ∧
        ((isMove (t.row? r.ip) r = true ∧
            after = ⟨true, (mid.requestTrigger midSim).1, (mid.requestTrigger midSim).2⟩) ∨
          (isMove (t.row? r.ip) r = false ∧ after = ⟨true, mid, midSim⟩)) := by
  unfold consider at done
  cases skipped : t.config.ignoreInvalidRoutes && !r.metric.isGood with
  | true =>
    rw [skipped, if_pos rfl] at done
    exact .inl ⟨(Except.ok.inj done).symm, .inl skipped⟩
  | false =>
    rw [skipped, if_neg Bool.false_ne_true] at done
    cases taken : verdict (t.row? r.ip) r with
    | none =>
      simp only [taken] at done
      exact .inl ⟨(Except.ok.inj done).symm, .inr rfl⟩
    | some answer =>
      obtain ⟨why, accepted⟩ := answer
      simp only [taken] at done
      obtain ⟨⟨mid, midSim⟩, inserted, same⟩ := ok_of_bind done
      refine .inr ⟨why, accepted, mid, midSim, skipped, rfl, inserted, ?_⟩
      obtain rfl := (Except.ok.inj same).symm
      cases isMove (t.row? r.ip) r with
      | true => exact .inl ⟨rfl, rfl⟩
      | false => exact .inr ⟨rfl, rfl⟩

theorem consider_ok {after : Considered} (done : t.consider r sim = .ok after) :
    (after = ⟨false, t, sim⟩ ∧ (t.passesOver r = true ∨ verdict (t.row? r.ip) r = none)) ∨
      ∃ why accepted, t.passesOver r = false ∧ verdict (t.row? r.ip) r = some (why, accepted) ∧
        t.Rewrites after.table accepted.ip (some (t.acceptedRoute accepted sim)) := by
  refine (consider_steps done).imp_right ?_
  rintro ⟨why, accepted, mid, midSim, prevails, taken, inserted, ⟨-, rfl⟩ | ⟨-, rfl⟩⟩
  all_goals
    refine ⟨why, accepted, prevails, taken, ?_⟩
    have rewrites := write_rewrites inserted
  · exact rewrites.followed (requestTrigger_kept mid midSim) requestTrigger_routes
  · exact rewrites

/-- Word of a broken route that has been considered was passed over, or the row broke and a trigger was
asked for. -/
theorem considerBroken_steps {e : AdvertEntry} {after : Considered}
    (done : t.considerBroken e sim = .ok after) :
    (after = ⟨false, t, sim⟩ ∧ ∀ cur, t.row? e.ip = some cur → e.seq ≤ cur.seq) ∨
      ∃ cur mid midSim, t.row? e.ip = some cur ∧ cur.seq < e.seq ∧
        t.breakRoute { t.brokenRow cur sim.now with seq := e.seq } .brokenAdvert sim =
          .ok (mid, midSim) ∧
        after = ⟨true, (mid.requestTrigger midSim).1, (mid.requestTrigger midSim).2⟩ := by
  unfold considerBroken at done
  cases present : t.row? e.ip with
  | none =>
    simp only [present] at done
    exact .inl ⟨(Except.ok.inj done).symm, nofun⟩
  | some cur =>
    simp only [present] at done
    split at done
    · next stale =>
      refine .inl ⟨(Except.ok.inj done).symm, fun row same => ?_⟩
      cases same
      exact stale
    · next newer =>
      obtain ⟨⟨mid, midSim⟩, broken, same⟩ := ok_of_bind done
      exact .inr ⟨cur, mid, midSim, rfl, UInt32.not_le.mp newer, broken,
        (Except.ok.inj same).symm⟩

theorem considerBroken_ok {e : AdvertEntry} {after : Considered}
    (done : t.considerBroken e sim = .ok after) :
    (after = ⟨false, t, sim⟩ ∧ ∀ cur, t.row? e.ip = some cur → e.seq ≤ cur.seq) ∨
      ∃ cur, t.row? e.ip = some cur ∧ cur.seq < e.seq ∧
        t.Rewrites after.table cur.ip
          (t.brokenRoute (.ofRoute (t.routes.get? cur.ip))
            { t.brokenRow cur sim.now with seq := e.seq }) := by
  refine (considerBroken_steps done).imp_right ?_
  rintro ⟨cur, mid, midSim, present, newer, broken, rfl⟩
  have rewrites := writeBroken_rewrites rfl broken
  exact ⟨cur, present, newer, rewrites.followed (requestTrigger_kept mid midSim)
    requestTrigger_routes⟩

end RouteTable

end WirelessMesh
