import WirelessMesh.Proofs.Route.Listening

namespace WirelessMesh

namespace RouteTable

variable {t t' : RouteTable} {r : RouteRow} {sim sim' : Simulator MeshEvent} {ip : IPv4}
  {route : Route} {now : Time}

theorem Sound.row?_of_mem (sound : t.Sound sim) (member : r ∈ t.rows) : t.row? r.ip = some r := by
  obtain ⟨route, value, rfl⟩ := List.mem_map.mp member
  obtain ⟨ip, present⟩ := Sound.mem_values value
  rw [(sound.routes ip route present).keyed, row?, present]
  rfl

private theorem Sound.rows_distinct (sound : t.Sound sim) : (t.rows.map (·.ip)).Nodup := by
  have keys : t.rows.map (·.ip) = t.routes.entries.map (·.1) := by
    simp only [rows, Directory.values, List.map_map]
    apply List.map_congr_left
    intro entry member
    exact (sound.routes entry.1 entry.2 (Directory.get?_eq_some_iff.mpr member)).keyed
  rw [keys, List.Nodup, List.pairwise_map]
  refine t.routes.ascending.imp fun before same => ?_
  rw [same] at before
  exact Nat.lt_irrefl _ before

def breakAll (now : Time) (rows : List RouteRow) (start : RouteTable × Simulator MeshEvent) :
    Except RouteViolation (RouteTable × Simulator MeshEvent) :=
  rows.foldlM (fun (t, sim) r => t.breakRoute (t.brokenRow r now) .nextHopExpired sim) start

theorem breakAll_cons (now : Time) (r : RouteRow) (rest : List RouteRow)
    (t : RouteTable) (sim : Simulator MeshEvent) :
    breakAll now (r :: rest) (t, sim) =
      (t.breakRoute (t.brokenRow r now) .nextHopExpired sim).bind (breakAll now rest) := by
  rw [breakAll, List.foldlM_cons]
  rfl

/-- The rows that break are broken afterwards, and nothing else has changed. -/
structure Broken (now : Time) (rows : List RouteRow) (t t' : RouteTable) : Prop where
  kept : t.Kept t'
  within : ∀ r ∈ rows, t'.routes.get? r.ip =
    t.brokenRoute (.ofRoute (t.routes.get? r.ip)) (t.brokenRow r now)
  others : ∀ d, d ∉ rows.map (·.ip) → t'.routes.get? d = t.routes.get? d

theorem Kept.brokenRow (kept : t.Kept t') (r : RouteRow) (now : Time) :
    t'.brokenRow r now = t.brokenRow r now := by
  unfold RouteTable.brokenRow
  rw [kept.config]

theorem Kept.brokenRoute (kept : t.Kept t') (before : Predecessor) (r : RouteRow) :
    t'.brokenRoute before r = t.brokenRoute before r := by
  unfold RouteTable.brokenRoute
  rw [kept.config]

private theorem breakAll_ok {rows : List RouteRow} (distinct : (rows.map (·.ip)).Nodup) :
    ∀ {t : RouteTable} {sim : Simulator MeshEvent},
      breakAll now rows (t, sim) = .ok (t', sim') → Broken now rows t t' := by
  induction rows with
  | nil =>
    intro t sim done
    cases done
    exact ⟨.refl _, nofun, fun _ _ => rfl⟩
  | cons r rest ih =>
    intro t sim done
    obtain ⟨apart, distinct⟩ := List.nodup_cons.mp distinct
    rw [breakAll_cons] at done
    obtain ⟨⟨mid, midSim⟩, broken, broke⟩ := ok_of_bind done
    have first := writeBroken_rewrites rfl broken
    have rests := ih distinct broke
    refine ⟨first.kept.trans rests.kept, ?_, ?_⟩
    · intro row member
      rcases List.mem_cons.mp member with rfl | later
      · rw [rests.others _ apart]
        exact first.get?_self
      · have other : row.ip ≠ r.ip := fun same => apart (List.mem_map.mpr ⟨row, later, same⟩)
        rw [rests.within row later, first.kept.brokenRow, first.kept.brokenRoute,
          first.get?_other other]
    · intro d outside
      rw [List.map_cons, List.mem_cons, not_or] at outside
      rw [rests.others d outside.2]
      exact first.get?_other outside.1

theorem Sound.breakAll {rows : List RouteRow} (distinct : (rows.map (·.ip)).Nodup) :
    ∀ {t : RouteTable} {sim : Simulator MeshEvent}, t.Sound sim →
      (∀ r ∈ rows, t.row? r.ip = some r) → t.Upkeep sim (breakAll now rows (t, sim)) := by
  induction rows with
  | nil => exact fun {t sim} sound _ => ⟨t, sim, rfl, .refl t, sound, .refl sim⟩
  | cons r rest ih =>
    intro t sim sound present
    obtain ⟨apart, distinct⟩ := List.nodup_cons.mp distinct
    obtain ⟨route, found, same⟩ := Option.map_eq_some_iff.mp (present r List.mem_cons_self)
    have whole : r.check = .ok () := same ▸ (sound.routes r.ip route found).row
    have row : (t.brokenRow r now).check = .ok () :=
      RouteRow.check_eq_ok_iff.mpr ⟨brokenRow_coherent t r now, (RouteRow.check_ok whole).2⟩
    obtain ⟨mid, midSim, done, kept, whole', changes⟩ :=
      sound.breakRoute .nextHopExpired row fun cur here => by
        have here' : t.row? r.ip = some cur := here
        rw [present r List.mem_cons_self] at here'
        cases here'
        exact RouteRow.seq_le_invalidate now
    have rewrites := writeBroken_rewrites rfl done
    have still : ∀ row ∈ rest, mid.row? row.ip = some row := fun row member => by
      have other : row.ip ≠ r.ip := fun same => apart (List.mem_map.mpr ⟨row, member, same⟩)
      rw [row?, rewrites.get?_other other]
      exact present row (List.mem_cons_of_mem _ member)
    obtain ⟨t', sim', done', kept', sound', changes'⟩ := ih distinct whole' still
    refine ⟨t', sim', ?_, kept.trans kept', sound', changes.trans (owned_congr kept.node ▸ changes')⟩
    rw [breakAll_cons, done]
    exact done'

def without (t : RouteTable) (ip : IPv4) : RouteTable := { t with routes := t.routes.erase ip }

theorem without_kept (t : RouteTable) (ip : IPv4) : t.Kept (t.without ip) :=
  (erase_rewrites t ip).kept

def brokenBy (t : RouteTable) (route : Route) : List RouteRow :=
  if route.row.hops = 1 then (t.without route.row.ip).rowsVia route.row.ip else []

theorem expireRow_eq (t : RouteTable) (route : Route) (sim : Simulator MeshEvent) :
    t.expireRow route sim =
      (((t.without route.row.ip).writeBroken ⟨none, route.old, none⟩
          (t.brokenRow route.row sim.now) .expired sim).bind
        (RouteTable.breakAll sim.now (t.brokenBy route))).map
          fun next => next.1.requestTrigger next.2 := by
  change Except.bind ((t.without route.row.ip).writeBroken ⟨none, route.old, none⟩
    (t.brokenRow route.row sim.now) .expired sim) (fun next =>
      Except.bind (RouteTable.breakAll sim.now (t.brokenBy route) next) fun next =>
        .ok (next.1.requestTrigger next.2)) = _
  cases (t.without route.row.ip).writeBroken ⟨none, route.old, none⟩
    (t.brokenRow route.row sim.now) .expired sim with
  | error _ => rfl
  | ok next =>
    simp only [Except.bind]
    cases RouteTable.breakAll sim.now (t.brokenBy route) next <;> rfl

/-- A row that has run out was written as a broken one, then those that went by way of it, and then a
trigger was asked for. -/
theorem expireRow_steps (done : t.expireRow route sim = .ok (t', sim')) :
    ∃ mid midSim last lastSim,
      (t.without route.row.ip).writeBroken ⟨none, route.old, none⟩ (t.brokenRow route.row sim.now)
        .expired sim = .ok (mid, midSim) ∧
      breakAll sim.now (t.brokenBy route) (mid, midSim) = .ok (last, lastSim) ∧
      t' = (last.requestTrigger lastSim).1 ∧ sim' = (last.requestTrigger lastSim).2 := by
  rw [expireRow_eq] at done
  obtain ⟨⟨last, lastSim⟩, broken, same⟩ := ok_of_map done
  obtain ⟨⟨mid, midSim⟩, written, fallen⟩ := ok_of_bind broken
  obtain ⟨rfl, rfl⟩ := Prod.mk.inj same
  exact ⟨mid, midSim, last, lastSim, written, fallen, rfl, rfl⟩

theorem brokenBy_mem (member : r ∈ t.brokenBy route) :
    r ∈ (t.without route.row.ip).rows ∧ r.isGood = true ∧ r.nextHopIp = route.row.ip ∧
      route.row.hops = 1 := by
  unfold brokenBy at member
  split at member
  · next near =>
    obtain ⟨row, via⟩ := List.mem_filter.mp member
    rw [Bool.and_eq_true, beq_iff_eq] at via
    exact ⟨row, via.1, via.2, near⟩
  · cases member

theorem brokenBy_distinct (sound : (t.without route.row.ip).Sound sim) :
    ((t.brokenBy route).map (·.ip)).Nodup := by
  unfold brokenBy
  split
  · exact sound.rows_distinct.sublist (List.filter_sublist.map _)
  · exact List.nodup_nil

/-- A row that has run out breaks, and all that go by way of it with it. -/
theorem Sound.expireRow (sound : (t.without route.row.ip).Sound sim)
    (row : route.row.check = .ok ())
    (older : ∀ old, route.old = some old →
      old.ip = route.row.ip ∧ old.check = .ok () ∧ old.seq < route.row.seq) :
    t.Upkeep sim (t.expireRow route sim) := by
  have broken : (t.brokenRow route.row sim.now).check = .ok () :=
    RouteRow.check_eq_ok_iff.mpr ⟨brokenRow_coherent t _ _, (RouteRow.check_ok row).2⟩
  have idle : (none : TimerSlot) = (t.without route.row.ip).expiryOf route.row.ip := by
    rw [expiryOf, without, get?_erase_route, if_pos rfl]
    rfl
  have first : (t.without route.row.ip).Upkeep sim ((t.without route.row.ip).writeBroken
      ⟨none, route.old, none⟩ (t.brokenRow route.row sim.now) .expired sim) :=
    sound.writeBroken .expired idle broken fun old kept => by
      obtain ⟨keyed, fine, lt⟩ := older old kept
      exact ⟨keyed, fine, UInt32.lt_of_lt_of_le lt (RouteRow.seq_le_invalidate sim.now)⟩
  obtain ⟨mid, midSim, done, kept, whole, changes⟩ := first
  have rewrites := writeBroken_rewrites rfl done
  have present : ∀ r ∈ t.brokenBy route, mid.row? r.ip = some r := fun r member => by
    obtain ⟨row, -⟩ := brokenBy_mem member
    have here := sound.row?_of_mem row
    have other : r.ip ≠ route.row.ip := by
      intro same
      rw [row?, without, get?_erase_route, if_pos same] at here
      cases here
    rw [row?, rewrites.get?_other other]
    exact here
  have rest : mid.Upkeep midSim (RouteTable.breakAll sim.now (t.brokenBy route) (mid, midSim)) :=
    whole.breakAll (brokenBy_distinct sound) present
  obtain ⟨t', sim', done', kept', sound', changes'⟩ := rest
  rw [expireRow_eq, done]
  refine Upkeep.requestTrigger ⟨t', sim', done', ((without_kept t _).trans kept).trans kept',
    sound', ?_⟩
  exact Simulator.Changes.trans (owned_congr (without_kept t route.row.ip).node ▸ changes)
    (owned_congr ((without_kept t route.row.ip).trans kept).node ▸ changes')

/-- The destinations whose rows break when one of them runs out: that one and, if it is a neighbour,
all that are reached by way of it. -/
def Falls (t : RouteTable) (gone ip : IPv4) : Prop :=
  ip = gone ∨ (∃ cur, t.row? gone = some cur ∧ cur.hops = 1) ∧
    ∃ r, t.row? ip = some r ∧ r.isGood = true ∧ r.nextHopIp = gone

private theorem row?_without (other : ip ≠ route.row.ip) :
    (t.without route.row.ip).row? ip = t.row? ip := by
  rw [row?, without, get?_erase_route, if_neg other]
  rfl

theorem mem_brokenBy_iff (rest : (t.without route.row.ip).Sound sim) :
    r ∈ t.brokenBy route ↔ route.row.hops = 1 ∧ r.ip ≠ route.row.ip ∧ t.row? r.ip = some r ∧
      r.isGood = true ∧ r.nextHopIp = route.row.ip := by
  constructor
  · intro member
    obtain ⟨row, usable, via, near⟩ := brokenBy_mem member
    have here := rest.row?_of_mem row
    have other : r.ip ≠ route.row.ip := by
      intro same
      rw [row?, without, get?_erase_route, if_pos same] at here
      cases here
    rw [row?_without other] at here
    exact ⟨near, other, here, usable, via⟩
  · rintro ⟨near, other, here, usable, via⟩
    rw [← row?_without other] at here
    obtain ⟨ρ, found, rfl⟩ := Option.map_eq_some_iff.mp here
    have value : ρ ∈ (t.without route.row.ip).routes.values :=
      List.mem_map.mpr ⟨_, Directory.get?_eq_some_iff.mp found, rfl⟩
    rw [brokenBy, if_pos near]
    exact List.mem_filter.mpr ⟨List.mem_map_of_mem value, by simp [usable, via]⟩

private theorem falls_iff (rest : (t.without route.row.ip).Sound sim)
    (present : t.routes.get? route.row.ip = some route) (other : ip ≠ route.row.ip) :
    t.Falls route.row.ip ip ↔ ip ∈ (t.brokenBy route).map (·.ip) := by
  have here : t.row? route.row.ip = some route.row := by
    rw [row?, present]
    rfl
  constructor
  · rintro (same | ⟨⟨cur, known, near⟩, r, found, usable, via⟩)
    · exact absurd same other
    · rw [here] at known
      cases known
      obtain ⟨ρ, found', same⟩ := Option.map_eq_some_iff.mp found
      have keyed : r.ip = ip := by
        rw [← same]
        exact (rest.routes ip ρ (by rw [without, get?_erase_route, if_neg other, found'])).keyed
      subst keyed
      exact List.mem_map.mpr ⟨r, (mem_brokenBy_iff rest).mpr ⟨near, other, found, usable, via⟩, rfl⟩
  · intro member
    obtain ⟨r, breaks, rfl⟩ := List.mem_map.mp member
    obtain ⟨near, -, found, usable, via⟩ := (mem_brokenBy_iff rest).mp breaks
    exact .inr ⟨⟨route.row, here, near⟩, r, found, usable, via⟩

/-- What there was of a destination when its row breaks: the row that runs out has been taken out. -/
def fallenFrom (gone ip : IPv4) (ρ : Route) : Predecessor :=
  if ip = gone then ⟨none, ρ.old, none⟩ else .ofRoute (some ρ)

/-- A row that runs out breaks the rows that fall with it, and changes no others. -/
theorem expireRow_falls (rest : (t.without route.row.ip).Sound sim)
    (present : t.routes.get? route.row.ip = some route)
    (done : t.expireRow route sim = .ok (t', sim')) :
    t.Kept t' ∧
    (∀ d ρ, t.Falls route.row.ip d → t.routes.get? d = some ρ →
      t'.routes.get? d =
        t.brokenRoute (fallenFrom route.row.ip d ρ) (t.brokenRow ρ.row sim.now)) ∧
    ∀ d, ¬ t.Falls route.row.ip d → t'.routes.get? d = t.routes.get? d := by
  obtain ⟨mid, midSim, last, lastSim, written, fallen, rfl, -⟩ := expireRow_steps done
  have first := writeBroken_rewrites rfl written
  have breaks := breakAll_ok (brokenBy_distinct rest) fallen
  have kept : t.Kept mid := (without_kept t route.row.ip).trans first.kept
  have before : ∀ d, d ≠ route.row.ip → mid.routes.get? d = t.routes.get? d := by
    intro d other
    rw [first.get?_other other, without, get?_erase_route, if_neg other]
  have apart : route.row.ip ∉ (t.brokenBy route).map (·.ip) := by
    intro member
    obtain ⟨r, breaks, same⟩ := List.mem_map.mp member
    exact ((mem_brokenBy_iff rest).mp breaks).2.1 same
  refine ⟨(kept.trans breaks.kept).trans (requestTrigger_kept last lastSim), ?_, ?_⟩
  · intro d ρ falls found
    rw [requestTrigger_routes, fallenFrom]
    by_cases own : d = route.row.ip
    · subst own
      rw [present] at found
      cases found
      rw [breaks.others _ apart, if_pos rfl]
      exact first.get?_self
    · obtain ⟨r, member, rfl⟩ := List.mem_map.mp ((falls_iff rest present own).mp falls)
      have here := ((mem_brokenBy_iff rest).mp member).2.2.1
      rw [row?, found] at here
      cases here
      have broken := breaks.within ρ.row member
      rw [before _ own, found, kept.brokenRoute, kept.brokenRow] at broken
      rw [if_neg own]
      exact broken
  · intro d stands
    have own : d ≠ route.row.ip := fun here => stands (.inl here)
    have outside : d ∉ (t.brokenBy route).map (·.ip) := fun member =>
      stands ((falls_iff rest present own).mpr member)
    rw [requestTrigger_routes, breaks.others d outside, before d own]

/-- A row that runs out breaks usable rows and changes no others. -/
theorem expireRow_breaks (sound : (t.without route.row.ip).Sound sim)
    (present : t.routes.get? route.row.ip = some route) (good : route.row.isGood = true)
    (done : t.expireRow route sim = .ok (t', sim')) :
    t.Kept t' ∧ ∀ d, t'.routes.get? d = t.routes.get? d ∨
      ∃ ρ before, t.routes.get? d = some ρ ∧ ρ.row.isGood = true ∧
        (before = ⟨none, ρ.old, none⟩ ∨ before = .ofRoute (some ρ)) ∧
        t'.routes.get? d = t.brokenRoute before (t.brokenRow ρ.row sim.now) := by
  obtain ⟨kept, falls, stands⟩ := expireRow_falls sound present done
  refine ⟨kept, fun d => ?_⟩
  by_cases fallen : t.Falls route.row.ip d
  · right
    by_cases own : d = route.row.ip
    · subst own
      refine ⟨route, _, present, good, .inl ?_, falls _ _ fallen present⟩
      rw [fallenFrom, if_pos rfl]
    · obtain ⟨-, r, known, usable, -⟩ := fallen.resolve_left own
      obtain ⟨ρ, found, rfl⟩ := Option.map_eq_some_iff.mp known
      refine ⟨ρ, _, found, usable, .inr ?_, falls d ρ fallen found⟩
      rw [fallenFrom, if_neg own]
  · exact .inl (stands d fallen)

/-- Where broken rows are kept, a row that runs out stays as a broken one. -/
theorem expireRow_ok (sound : (t.without route.row.ip).Sound sim)
    (present : t.routes.get? route.row.ip = some route) (good : route.row.isGood = true)
    (keeps : t.config.ignoreInvalidRoutes = false)
    (done : t.expireRow route sim = .ok (t', sim')) :
    t.Kept t' ∧ ∀ d, t'.routes.get? d = t.routes.get? d ∨
      ∃ ρ old, t.routes.get? d = some ρ ∧ ρ.row.isGood = true ∧
        (old = ρ.old ∨ old = some ρ.row) ∧
        t'.routes.get? d = some ⟨t.brokenRow ρ.row sim.now, old, none⟩ := by
  obtain ⟨kept, each⟩ := expireRow_breaks sound present good done
  refine ⟨kept, fun d => (each d).imp_right ?_⟩
  intro breaks
  obtain ⟨ρ, before, found, usable, from_, after⟩ := breaks
  rw [brokenRoute_kept keeps] at after
  refine ⟨ρ, _, found, usable, ?_, after⟩
  rcases from_ with rfl | rfl
  · exact .inl rfl
  · exact kept_cases ρ _ _

variable {limit : Option Time} {item : Scheduled MeshEvent}

/-- The event was that of a usable route, and the table is sound without it. -/
theorem Sound.fired (sound : t.Sound sim) (taken : sim.next? limit = some (item, sim'))
    (event : item.event = expiryEvent t.node ip) :
    ∃ route, t.routes.get? ip = some route ∧ route.row.isGood = true ∧
      route.expiry.isNone = false ∧ route.expiry.isArmed sim' = false ∧
      (t.without ip).Sound sim' := by
  have live : item ∈ sim.live := sound.valid.next?_live taken
  obtain ⟨route, timer, present, held, same⟩ := sound.held item live ip event
  have valid := sound.valid.next? taken
  have slot : t.expiryOf ip = some timer := by
    rw [expiryOf, present]
    exact held
  have remain : ∀ x, x ∈ sim'.live ↔ x ∈ ((t.expiryOf ip).disarm sim).live := fun x => by
    rw [sound.valid.mem_next? taken, TimerSlot.live_disarm, slot, ← same]
    simp
  refine ⟨route, present, ?_, by rw [held]; rfl, ?_, (sound.erase ip).spares ⟨fun _ => valid, ?_,
    fun _ x member _ => (remain x).mp member, fun _ x _ => remain x⟩⟩
  · by_contra bad
    have idle := (sound.routes ip route present).idle (Bool.eq_false_iff.mpr bad)
    rw [held] at idle
    cases idle
  · rw [held]
    apply Bool.eq_false_iff.mpr
    intro armed
    obtain ⟨x, member, number⟩ := valid.isPending_iff.mp armed
    exact ((sound.valid.mem_next? taken).mp member).2 (number.trans same)
  · rw [TimerSlot.nextId_disarm]
    exact Nat.le_of_eq (Simulator.next?_nextId taken).symm

theorem onExpiry_eq {route : Route} (present : t.routes.get? ip = some route)
    (good : route.row.isGood = true) (held : route.expiry.isNone = false)
    (fired : route.expiry.isArmed sim = false) : t.onExpiry ip sim = t.expireRow route sim := by
  rw [onExpiry, present]
  simp [good, held, fired]

theorem Sound.onExpiry (sound : t.Sound sim) (taken : sim.next? limit = some (item, sim'))
    (event : item.event = expiryEvent t.node ip) : t.Upkeep sim' (t.onExpiry ip sim') := by
  obtain ⟨route, present, good, held, fired, rest⟩ := sound.fired taken event
  have whole := sound.routes ip route present
  rw [onExpiry_eq present good held fired]
  rw [← whole.keyed] at rest
  exact rest.expireRow whole.row (whole.keyed ▸ whole.older)

end RouteTable

end WirelessMesh
