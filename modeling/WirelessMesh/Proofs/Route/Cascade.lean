import WirelessMesh.Proofs.Route.Notice

namespace WirelessMesh

namespace RouteTable

variable {t t' : RouteTable} {r : RouteRow} {sim sim' past : Simulator MeshEvent} {gone ip : IPv4}
  {route : Route} {now : Time}

/-- A usable row as broken: under the next number, which is odd, without hops and metric. -/
private theorem brokenRow_eq (t : RouteTable) (now : Time) (row : r.check = .ok ())
    (good : r.isGood = true) :
    t.brokenRow r now = { r with
      seq := r.seq + 1
      hops := 0
      metric := .bad
      ttl := t.config.timeout
      updatedAt := now
      settledAt := now } ∧ (r.seq + 1).toNat = r.seq.toNat + 1 ∧ isOddSeq (r.seq + 1) = true := by
  have coherent := (RouteRow.check_ok row).1
  have even : ¬ isOddSeq r.seq = true := fun odd =>
    (RouteRow.isGood_iff.mp good).1 (coherent.parity.mpr odd)
  have next : (r.invalidate now).seq = r.seq + 1 := if_neg even
  refine ⟨?_, ?_, ?_⟩
  · rw [brokenRow, RouteRow.invalidate, if_neg even]
  · rw [← next, RouteRow.toNat_seq_invalidate, if_neg even]
  · rw [← next]
    exact RouteRow.isOddSeq_invalidate now

/-- A table after the route to a destination has run out at some time. -/
structure RunsOut (t : RouteTable) (past : Simulator MeshEvent) (gone : IPv4) (now : Time)
    (t' : RouteTable) (sim' : Simulator MeshEvent) : Prop where
  kept : t.Kept t'
  broken : t.config.ignoreInvalidRoutes = false → ∀ ip r, t.Falls gone ip → t.row? ip = some r →
    t'.row? ip = some { r with
      seq := r.seq + 1
      hops := 0
      metric := .bad
      ttl := t.config.timeout
      updatedAt := now
      settledAt := now } ∧ (r.seq + 1).toNat = r.seq.toNat + 1 ∧ isOddSeq (r.seq + 1) = true
  /-- The row that runs out is not used any more; one that falls with it may be the old row now. -/
  older : t.config.ignoreInvalidRoutes = false → ∀ ip r, t.Falls gone ip → t.row? ip = some r →
    t'.old? ip = if ip ≠ gone ∧ t.config.useOldRoute = true then some r else t.old? ip
  removed : t.config.ignoreInvalidRoutes = true → ∀ ip, t.Falls gone ip →
    t'.row? ip = none ∧ t'.old? ip = none
  silent : ∀ ip, t.Falls gone ip → ∀ x ∈ sim'.live, x.event ≠ expiryEvent t.node ip
  spared : ∀ ip, ¬ t.Falls gone ip → t'.routes.get? ip = t.routes.get? ip
  deadlines : ∀ ip, ¬ t.Falls gone ip → ∀ x, x.event = expiryEvent t.node ip →
    (x ∈ sim'.live ↔ x ∈ past.live)
  triggered : ∃ x ∈ sim'.live, x.event = .timer t.node .trigger

private theorem Sound.falls_good (sound : t.Sound past) (present : t.routes.get? gone = some route)
    (good : route.row.isGood = true) (falls : t.Falls gone ip) :
    ∃ ρ, t.routes.get? ip = some ρ ∧ ρ.row.check = .ok () ∧ ρ.row.isGood = true := by
  rcases falls with rfl | ⟨-, r, found, usable, -⟩
  · exact ⟨route, present, (sound.routes _ route present).row, good⟩
  · obtain ⟨ρ, here, rfl⟩ := Option.map_eq_some_iff.mp found
    exact ⟨ρ, here, (sound.routes ip ρ here).row, usable⟩

/-- The row that was there is kept beside its broken successor, but not the one that runs out. -/
private theorem kept_fallenFrom {seq : UInt32} (newer : route.row.seq < seq) :
    (fallenFrom gone ip route).kept t.config.useOldRoute seq =
      if ip ≠ gone ∧ t.config.useOldRoute = true then some route.row else route.old := by
  unfold fallenFrom
  by_cases own : ip = gone
  · rw [if_pos own, if_neg fun here => here.1 own]
    rfl
  · rw [if_neg own, kept_ofRoute]
    exact if_congr (by simp [own, newer]) rfl rfl

private theorem Sound.silent_brokenRoute {before : Predecessor} (sound' : t'.Sound sim')
    (after : t'.routes.get? ip = t.brokenRoute before r) {x : Scheduled MeshEvent}
    (member : x ∈ sim'.live) : x.event ≠ expiryEvent t'.node ip := by
  intro event
  obtain ⟨route, timer, present, held, -⟩ := sound'.held x member ip event
  rw [after, brokenRoute] at present
  split at present
  · cases present
  · cases present
    cases held

theorem Sound.runsOut (sound : t.Sound past) {limit : Option Time} {item : Scheduled MeshEvent}
    (taken : past.next? limit = some (item, sim)) (event : item.event = expiryEvent t.node gone) :
    ∃ cur t' sim', t.row? gone = some cur ∧ cur.isGood = true ∧
      t.onExpiry gone sim = .ok (t', sim') ∧ t.RunsOut past gone item.due t' sim' := by
  obtain ⟨route, present, good, held, fired, rest⟩ := sound.fired taken event
  have whole := sound.routes gone route present
  obtain rfl := whole.keyed
  obtain ⟨t', sim', done, -, sound', changes⟩ := rest.expireRow whole.row whole.older
  obtain ⟨kept, fallen, spared⟩ := expireRow_falls rest present done
  have now : sim.now = item.due := Simulator.next?_now taken
  have broken : ∀ ip r, t.Falls route.row.ip ip → t.row? ip = some r →
      ∃ ρ, t.routes.get? ip = some ρ ∧ ρ.row = r ∧ r.check = .ok () ∧ r.isGood = true ∧
        t'.routes.get? ip =
          t.brokenRoute (fallenFrom route.row.ip ip ρ) (t.brokenRow r item.due) := by
    intro ip r falls found
    obtain ⟨ρ, here, row, usable⟩ := sound.falls_good present good falls
    rw [row?, here] at found
    cases found
    exact ⟨ρ, here, rfl, row, usable, now ▸ fallen ip ρ falls here⟩
  refine ⟨route.row, t', sim', by rw [row?, present]; rfl, good, ?_, kept, ?_, ?_, ?_, ?_, spared,
    ?_, ?_⟩
  · rw [onExpiry_eq present good held fired, done]
  · intro keeps ip r falls found
    obtain ⟨ρ, -, -, row, usable, after⟩ := broken ip r falls found
    obtain ⟨same, next, odd⟩ := brokenRow_eq t item.due row usable
    rw [row?, after, brokenRoute_kept keeps, Option.map_some, same]
    exact ⟨rfl, next, odd⟩
  · intro keeps ip r falls found
    obtain ⟨ρ, here, rfl, row, usable, after⟩ := broken ip r falls found
    have newer : ρ.row.seq < (t.brokenRow ρ.row item.due).seq :=
      (RouteRow.check_ok row).1.seq_lt_invalidate (RouteRow.isGood_iff.mp usable).1 item.due
    rw [old?, old?, after, brokenRoute_kept keeps, here]
    exact kept_fallenFrom newer
  · intro ignores ip falls
    obtain ⟨ρ, here, row, usable⟩ := sound.falls_good present good falls
    have after := fallen ip ρ falls here
    rw [brokenRoute, if_pos ignores] at after
    rw [row?, old?, after]
    exact ⟨rfl, rfl⟩
  · intro ip falls x member
    obtain ⟨ρ, here, -⟩ := sound.falls_good present good falls
    rw [← kept.node]
    exact sound'.silent_brokenRoute (fallen ip ρ falls here) member
  · intro ip stands x event'
    have other : ip ≠ route.row.ip := fun own => stands (.inl own)
    have untouched : t'.routes.get? ip = (t.without route.row.ip).routes.get? ip := by
      rw [spared ip stands, without, get?_erase_route, if_neg other]
    have begun : past.Spares (· = expiryEvent t.node ip) sim := .next? taken fun same =>
      other (expiryEvent_inj.mp (same.symm.trans event))
    rw [rest.live_iff sound' changes kept.node untouched event']
    exact begun.same sound.valid x event'
  · rw [← kept.node]
    exact sound'.trigger.live sound'.valid (isArmed_expireRow done)

/-- A destination whose timer is still to fire, or that has none, does not run out. -/
private theorem onExpiry_idle (idle : t.expiryOf ip = none ∨ (t.expiryOf ip).isArmed sim = true) :
    t.onExpiry ip sim = .ok (t, sim) := by
  unfold onExpiry
  unfold expiryOf at idle
  cases present : t.routes.get? ip with
  | none => rfl
  | some route =>
    simp only [present, Option.bind_some] at idle
    rcases idle with none | armed
    · simp [none]
    · simp [armed]

variable {μ : Type} [Medium μ] [LawfulMedium μ] {s : RouteTable × Air μ}

/-- In every table in use, when the event of a destination begins, its row and, if it was a neighbour,
exactly the usable rows by way of it break or go, and nothing else is touched. Told of a destination
that has no timer, or one that is still to fire, a table does nothing. -/
theorem expiry_breaks_exactly (used : InUse s) :
    (∀ limit item sim gone, s.2.sim.next? limit = some (item, sim) →
      item.event = expiryEvent s.1.node gone →
      ∃ cur t' sim', s.1.row? gone = some cur ∧ cur.isGood = true ∧
        s.1.onExpiry gone sim = .ok (t', sim') ∧ s.1.RunsOut s.2.sim gone item.due t' sim') ∧
    ∀ ip sim, s.1.expiryOf ip = none ∨ (s.1.expiryOf ip).isArmed sim = true →
      s.1.onExpiry ip sim = .ok (s.1, sim) :=
  ⟨fun _ _ _ _ taken event => used.sound.runsOut taken event, fun _ _ => onExpiry_idle⟩

/-- A table that reaches a destination by way of a neighbour and has told so. -/
def relying : Option (RouteTable × Air Transcript) :=
  follow [.hear (.ofIndex 1) ⟨[⟨.ofIndex 1, .ofIndex 1, 2, 0, 0, 60000⟩,
    ⟨.ofIndex 3, .ofIndex 3, 4, 1, 50, 60000⟩]⟩ (.good 100), .fire] (blank, ⟨.empty, {}⟩)

/-- What comes next is the end of the neighbour's row, and the other row goes by way of it. -/
private theorem relying_eq : (relying.bind fun s => (s.2.sim.next? none).map fun next =>
    (next.1.event, s.1.node, s.1.config.ignoreInvalidRoutes, s.1.row? (.ofIndex 1),
      s.1.row? (.ofIndex 3))) =
      some (expiryEvent 0 (.ofIndex 1), 0, false,
        some ⟨.ofIndex 1, .ofIndex 1, .ofIndex 1, .ofIndex 1, 2, 1, .good 100, .ofSeconds 60, .zero,
          .ofSeconds 3⟩,
        some ⟨.ofIndex 3, .ofIndex 3, .ofIndex 1, .ofIndex 1, 4, 2, .good 600, .ofSeconds 60, .zero,
          .ofSeconds 3⟩) := by
  decide +kernel

/-- The row that goes by way of the neighbour then breaks with the neighbour's. -/
theorem row_falls_with_neighbor : ∃ (s : RouteTable × Air Transcript) (item : Scheduled MeshEvent)
    (sim sim' : Simulator MeshEvent) (t' : RouteTable), InUse s ∧
      s.2.sim.next? none = some (item, sim) ∧ item.event = expiryEvent s.1.node (.ofIndex 1) ∧
      s.1.onExpiry (.ofIndex 1) sim = .ok (t', sim') ∧ s.1.Falls (.ofIndex 1) (.ofIndex 3) ∧
      (t'.row? (.ofIndex 3)).map (fun r => (r.seq, r.hops, r.metric)) = some (5, 0, .bad) := by
  obtain ⟨s, done, next⟩ := Option.bind_eq_some_iff.mp relying_eq
  obtain ⟨⟨item, sim⟩, taken, same⟩ := Option.map_eq_some_iff.mp next
  simp only [Prod.mk.injEq] at same
  obtain ⟨event, node, keeps, near, far⟩ := same
  have used : InUse s := (blank_inUse _).runs (runs_follow done)
  rw [← node] at event
  obtain ⟨cur, t', sim', -, -, expired, runsOut⟩ :=
    (expiry_breaks_exactly used).1 none item sim (.ofIndex 1) taken event
  have falls : s.1.Falls (.ofIndex 1) (.ofIndex 3) :=
    .inr ⟨⟨_, near, rfl⟩, _, far, by decide, rfl⟩
  have broken := (runsOut.broken keeps _ _ falls far).1
  refine ⟨s, item, sim, sim', t', used, taken, event, expired, falls, ?_⟩
  rw [broken]
  rfl

end RouteTable

end WirelessMesh
