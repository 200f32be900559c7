import WirelessMesh.Proofs.Route.Routewise

/-!
How old a row in use may be. A row is given up when its timer fires, which is due when its time is
over. The old row beside it has no timer: it is in use until the new one has settled, which is due a
fixed time after it came, and it came while the old one was still good.
-/
namespace WirelessMesh

namespace RouteTable

variable {t t' : RouteTable} {sim sim' : Simulator MeshEvent} {ip : IPv4} {r accepted cur : RouteRow}
  {why : RouteReason} {route : Route}

private theorem settled_of_newer (offered : t.Offered sim.now r)
    (taken : verdict (some cur) r = some (why, accepted)) (newer : cur.seq < accepted.seq) :
    accepted.settledAt = sim.now + t.config.settle := by
  rw [verdict_seq taken] at newer
  simp only [verdict, if_pos newer] at taken
  cases taken
  exact offered.settled

/-- A row that replaces one with the same number settles when that one does. -/
private theorem settled_of_same (taken : verdict (some cur) r = some (why, accepted))
    (same : ¬ cur.seq < accepted.seq) : accepted.settledAt = cur.settledAt ∧ accepted.seq = cur.seq := by
  rw [verdict_seq taken] at same ⊢
  rcases (verdict_some taken).2 cur rfl with newer | ⟨equal, settled, -⟩
  · exact absurd newer same
  · exact ⟨settled, equal.symm⟩

/-- How long a route lasts: the timer of its row is due when the row's time is over, and the row has
settled, if it is whole, no later than a fixed time after the old row's time is over. -/
structure Lasts (t : RouteTable) (sim : Simulator MeshEvent) (route : Route) : Prop where
  timed : route.row.isGood = true →
    route.expiry.DueBy sim (route.row.updatedAt + min route.row.ttl t.config.timeout)
  overlaid : t.config.useOldRoute = true → route.row.hops ≠ 0 → ∀ old, route.old = some old →
    old.isGood = true → route.row.settledAt.ns ≤
      old.updatedAt.ns + (min old.ttl t.config.timeout).ns + t.config.settle.ns

/-- A usable row was updated no longer ago than it lasts. -/
theorem Lasts.fresh (lasts : t.Lasts sim route) (sound : route.Sound t.node ip sim)
    (timely : sim.Timely) (good : route.row.isGood = true) :
    sim.now.ns ≤ route.row.updatedAt.ns + (min route.row.ttl t.config.timeout).ns := by
  obtain ⟨timer, held, x, member, same, -⟩ := sound.armed good
  have due := (lasts.timed good timer held).2 x member same
  have later := timely x member
  rw [Time.le_def] at due later
  rw [Time.ns_add] at due
  omega

private theorem overlaid_accepted (sound : t.Sound sim) (timely : sim.Timely)
    (known : ∀ route, t.routes.get? ip = some route → t.Lasts sim route)
    (offered : t.Offered sim.now r) (taken : verdict (t.row? ip) r = some (why, accepted))
    (useOld : t.config.useOldRoute = true) {old : RouteRow} (good : old.isGood = true)
    (kept : (Predecessor.ofRoute (t.routes.get? ip)).kept t.config.useOldRoute accepted.seq = some old) :
    accepted.settledAt.ns ≤
      old.updatedAt.ns + (min old.ttl t.config.timeout).ns + t.config.settle.ns := by
  cases present : t.routes.get? ip with
  | none =>
    rw [present] at kept
    cases kept
  | some route =>
    have whole := sound.routes ip route present
    have lasts := known route present
    rw [present, kept_ofRoute, useOld] at kept
    rw [row?, present] at taken
    split at kept
    · next newer =>
      cases kept
      have fresh := lasts.fresh whole timely good
      rw [settled_of_newer offered taken newer.2, Time.ns_add]
      omega
    · next older =>
      obtain ⟨settled, seq⟩ := settled_of_same taken fun newer => older ⟨rfl, newer⟩
      rw [settled]
      -- The number is even, so the row that is replaced was whole as well.
      have coherent := (RouteRow.check_ok whole.row).1
      apply lasts.overlaid useOld _ old kept good
      intro gone
      apply offered.whole
      rw [offered.coherent.parity, ← verdict_seq taken, seq]
      exact coherent.parity.mp gone

private theorem lasts_routewise : Routewise Lasts := by
  constructor
  · intro t t' sim sim' route _ _ config valid spares lasts
    constructor
    · intro good
      rw [config]
      exact (lasts.timed good).spares valid spares
    · rw [config]
      exact lasts.overlaid
  · intro t sim sim' ip r accepted why slot sound timely known offered taken timed
    constructor
    · intro _
      obtain ⟨settledAt, rfl⟩ := verdict_row taken
      simp only [offered.updated]
      exact timed
    · intro useOld _ old kept good
      exact overlaid_accepted sound timely known offered taken useOld good kept
  · intro t sim sim' route r old lasts gone _ _ _
    constructor
    · intro good
      exact absurd gone (RouteRow.isGood_iff.mp good).1
    · intro _ whole
      exact absurd gone whole

variable {μ : Type} [Medium μ] [LawfulMedium μ] {s : RouteTable × Air μ}

theorem InUse.lasts (used : InUse s) (present : s.1.routes.get? ip = some route) :
    s.1.Lasts s.2.sim route :=
  lasts_routewise.in_use used ip route present

/-- In every run, the row by which packets go now was updated no longer ago than it lasts, if it is the
current one; an old row that is still in use, no longer than that and the time in which rows settle. -/
theorem served_rows_fresh (used : InUse s) (served : s.1.lookup? ip s.2.sim.now = some r) :
    (s.1.servesOld ip s.2.sim.now = false → s.1.row? ip = some r ∧
      s.2.sim.now.ns ≤ r.updatedAt.ns + (min r.ttl s.1.config.timeout).ns) ∧
    (s.1.servesOld ip s.2.sim.now = true → s.1.old? ip = some r ∧
      s.2.sim.now.ns ≤
        r.updatedAt.ns + (min r.ttl s.1.config.timeout).ns + s.1.config.settle.ns) := by
  obtain ⟨t, air⟩ := s
  obtain ⟨found, good⟩ := Option.filter_eq_some_iff.mp served
  obtain ⟨route, present, rfl⟩ := Option.map_eq_some_iff.mp found
  have lasts : t.Lasts air.sim route := used.lasts present
  have whole := used.sound.routes ip route present
  have serves : t.servesOld ip air.sim.now =
      (t.config.useOldRoute && route.usesOld air.sim.now) := by
    simp only [servesOld, present, Option.any_some]
  rw [serves]
  constructor
  · intro current
    simp only [RouteTable.served, current, Bool.false_eq_true, if_false] at good ⊢
    exact ⟨by simp [row?, present], lasts.fresh whole used.timely good⟩
  · intro overlaid
    simp only [RouteTable.served, overlaid, if_true] at good ⊢
    obtain ⟨useOld, uses⟩ := Bool.and_eq_true_iff.mp overlaid
    unfold Route.usesOld at uses
    cases kept : route.old with
    | none => simp [kept] at uses
    | some old =>
      simp only [kept, Bool.and_eq_true, decide_eq_true_eq] at uses
      obtain ⟨⟨⟨rowGood, oldGood⟩, unsettled⟩, -⟩ := uses
      have settled := lasts.overlaid useOld (RouteRow.isGood_iff.mp rowGood).1 old kept oldGood
      refine ⟨by simp [old?, present, kept], ?_⟩
      have before : air.sim.now.ns < route.row.settledAt.ns := unsettled
      simp only [Option.getD_some]
      omega

/-- A table hears of a way to a destination, and ten seconds later of another under a newer number. -/
def overtaken : Option (RouteTable × Air Transcript) :=
  follow
    [.wait (.ofSeconds 1),
      .hear (.ofIndex 1) ⟨[⟨.ofIndex 1, .ofIndex 1, 2, 0, 0, 60000⟩,
        ⟨.ofIndex 3, .ofIndex 3, 4, 1, 10, 60000⟩]⟩ (.good 100),
      .fire, .wait (.ofSeconds 11),
      .hear (.ofIndex 2) ⟨[⟨.ofIndex 2, .ofIndex 2, 2, 0, 0, 60000⟩,
        ⟨.ofIndex 3, .ofIndex 3, 6, 2, 30, 60000⟩]⟩ (.good 100)]
    (blank, ⟨.empty, {}⟩)

/-- The old row is then still in use, and was updated no longer ago than it may have been. -/
theorem overtaken_row_fresh : ∃ (s : RouteTable × Air Transcript) (r : RouteRow),
    InUse s ∧ s.1.lookup? (.ofIndex 3) s.2.sim.now = some r ∧ r.nextHopIp = .ofIndex 1 ∧
      s.1.servesOld (.ofIndex 3) s.2.sim.now = true ∧
      s.2.sim.now.ns ≤
        r.updatedAt.ns + (min r.ttl s.1.config.timeout).ns + s.1.config.settle.ns := by
  have seen : overtaken.map (fun s => ((s.1.lookup? (.ofIndex 3) s.2.sim.now).map (·.nextHopIp),
      s.1.servesOld (.ofIndex 3) s.2.sim.now)) = some (some (.ofIndex 1), true) := by
    decide +kernel
  obtain ⟨s, done, same⟩ := Option.map_eq_some_iff.mp seen
  obtain ⟨found, serves⟩ := Prod.mk.inj same
  obtain ⟨r, served, hop⟩ := Option.map_eq_some_iff.mp found
  have used : InUse s := (blank_inUse _).runs (runs_follow done)
  exact ⟨s, r, used, served, hop, serves, ((served_rows_fresh used served).2 serves).2⟩

end RouteTable

end WirelessMesh
