import WirelessMesh.Proofs.Route.Freshness
import WirelessMesh.Proofs.Route.Honesty

namespace WirelessMesh

/-- A row that is worth telling: the route is broken, or its time is not over. -/
def RouteRow.Lives (r : RouteRow) (now : Time) : Prop := r.isBroken = true ∨ r.remaining now ≠ .zero

instance (r : RouteRow) (now : Time) : Decidable (r.Lives now) := inferInstanceAs (Decidable (_ ∨ _))

namespace RouteTable

variable {t : RouteTable} {sim : Simulator MeshEvent} {now : Time} {ip : IPv4} {r cur : RouteRow}
  {e : AdvertEntry} {route : Route}

theorem lives_iff : r.Lives now ↔ ∃ e, entryOf now r = some e := by
  unfold RouteRow.Lives
  simp only [entryOf]
  split
  · next spent =>
    rw [Bool.and_eq_true, Bool.not_eq_true', decide_eq_true_eq] at spent
    simp [spent]
  · next lives =>
    rw [Bool.and_eq_true, Bool.not_eq_true', decide_eq_true_eq, not_and_or,
      Bool.not_eq_false] at lives
    exact ⟨fun _ => ⟨_, rfl⟩, fun _ => lives⟩

theorem Sound.served_ip (sound : t.Sound sim) (present : t.routes.get? ip = some route) :
    (t.served now route).ip = ip := by
  have whole := sound.routes ip route present
  have row : t.served now route ∈ route.rows := Route.served_mem t
  rcases Route.mem_rows.mp row with current | old
  · rw [current]
    exact whole.keyed
  · exact (whole.older _ old).1

/-- What is told of a destination comes from the row in use for it. -/
theorem Sound.told_of_served (sound : t.Sound sim) (present : t.routes.get? ip = some route)
    (entry : entryOf now (t.served now route) = some e) : e ∈ t.told now ∧ e.ip = ip := by
  constructor
  · apply List.mem_filterMap.mpr
    exact ⟨t.served now route, List.mem_map.mpr ⟨route, value_of_get? present, rfl⟩, entry⟩
  · rw [(entryOf_some entry).1]
    exact sound.served_ip present

private theorem Sound.served_of_told (sound : t.Sound sim) (member : e ∈ t.told now) :
    ∃ route, t.routes.get? e.ip = some route ∧ entryOf now (t.served now route) = some e := by
  obtain ⟨r, served, entry⟩ := List.mem_filterMap.mp member
  obtain ⟨route, value, rfl⟩ := List.mem_map.mp served
  obtain ⟨ip, present⟩ := Sound.mem_values value
  have same := (sound.told_of_served present entry).2
  exact ⟨route, same ▸ present, entry⟩

/-- A destination is listed exactly if the row in use for it is worth telling. -/
private theorem Sound.listed_iff (sound : t.Sound sim) :
    (∃ e ∈ t.told now, e.ip = ip) ↔
      ∃ route, t.routes.get? ip = some route ∧ (t.served now route).Lives now := by
  constructor
  · rintro ⟨e, member, rfl⟩
    obtain ⟨route, present, entry⟩ := sound.served_of_told member
    exact ⟨route, present, lives_iff.mpr ⟨e, entry⟩⟩
  · rintro ⟨route, present, lives⟩
    obtain ⟨e, entry⟩ := lives_iff.mp lives
    exact ⟨e, sound.told_of_served present entry⟩

private theorem Sound.told_ascending (sound : t.Sound sim) (now : Time) :
    ((t.told now).map (·.ip)).Pairwise fun a b => rank a < rank b := by
  rw [told, servedRows, Directory.values, List.map_map, List.pairwise_map, List.pairwise_filterMap,
    List.pairwise_map]
  refine t.routes.ascending.imp_of_mem fun {x y} here there before => ?_
  intro e first e' second
  have present := Directory.get?_eq_some_iff.mpr here
  have present' := Directory.get?_eq_some_iff.mpr there
  rw [(sound.told_of_served present first).2, (sound.told_of_served present' second).2]
  exact before

/-- An old row is in use for a destination although its time is over. -/
def Overdue (t : RouteTable) (ip : IPv4) (now : Time) : Prop :=
  t.servesOld ip now = true ∧ ∃ old, t.old? ip = some old ∧ old.remaining now = .zero

theorem served_of_servesOld (present : t.routes.get? ip = some route)
    (serves : t.servesOld ip now = true) :
    ∃ old, route.old = some old ∧ route.row.isGood = true ∧ old.isGood = true ∧
      t.served now route = old := by
  rw [servesOld, present, Option.any_some] at serves
  have uses := (Bool.and_eq_true_iff.mp serves).2
  unfold Route.usesOld at uses
  cases kept : route.old with
  | none => simp [kept] at uses
  | some old =>
    simp only [kept, Bool.and_eq_true, decide_eq_true_eq] at uses
    refine ⟨old, rfl, uses.1.1.1, uses.1.1.2, ?_⟩
    rw [served, serves, if_pos rfl, kept]
    rfl

theorem served_of_current (present : t.routes.get? ip = some route)
    (current : t.servesOld ip now = false) : t.served now route = route.row := by
  rw [servesOld, present, Option.any_some] at current
  rw [served, current, if_neg Bool.false_ne_true]

/-- A current row that is worth telling is passed over only for an old one whose time is over. -/
private theorem lives_served_iff (present : t.routes.get? ip = some route) (lives : route.row.Lives now) :
    (t.served now route).Lives now ↔ ¬ t.Overdue ip now := by
  unfold Overdue
  cases serves : t.servesOld ip now with
  | false =>
    rw [served_of_current present serves]
    exact ⟨fun _ overdue => Bool.false_ne_true overdue.1, fun _ => lives⟩
  | true =>
    obtain ⟨old, kept, -, good, same⟩ := served_of_servesOld present serves
    have whole : old.isBroken = false := by
      simpa using (Bool.and_eq_true_iff.mp good).1
    have found : t.old? ip = some old := by
      rw [old?, present]
      exact kept
    rw [same, RouteRow.Lives, whole, found]
    simp

variable {μ : Type} [Medium μ] [LawfulMedium μ] {s : RouteTable × Air μ}

/-- An advert begins with the node itself and lists its destinations in ascending order, each once: those
for which the row in use is broken or has time left. Of the destinations whose current row is so, those
are missing for which an old row is in use and its time is over. -/
theorem only_overdue_destinations_left_out (used : InUse s) (now : Time) :
    (s.1.buildAdvert now).entries = s.1.selfEntry :: s.1.told now ∧
    ((s.1.told now).map (·.ip)).Pairwise (fun a b => rank a < rank b) ∧
    (∀ ip, (∃ e ∈ s.1.told now, e.ip = ip) ↔
      ∃ route, s.1.routes.get? ip = some route ∧ (s.1.served now route).Lives now) ∧
    ∀ ip cur, s.1.row? ip = some cur → cur.Lives now →
      ((∃ e ∈ s.1.told now, e.ip = ip) ↔ ¬ s.1.Overdue ip now) := by
  have sound := used.sound
  refine ⟨rfl, sound.told_ascending now, fun ip => sound.listed_iff, fun ip cur found lives => ?_⟩
  obtain ⟨route, present, rfl⟩ := Option.map_eq_some_iff.mp found
  rw [sound.listed_iff]
  constructor
  · rintro ⟨route', present', served⟩
    obtain rfl := Option.some.inj (present.symm.trans present')
    exact (lives_served_iff present lives).mp served
  · intro intime
    exact ⟨route, present, (lives_served_iff present lives).mpr intime⟩

/-- A table hears of a way to a destination that lasts a second, and half a second later of another
under a newer number. The next advert goes out when the time of the first is over. -/
def shadowed : Option (RouteTable × Air Transcript) :=
  follow
    [.hear (.ofIndex 1) ⟨[⟨.ofIndex 1, .ofIndex 1, 2, 0, 0, 60000⟩,
        ⟨.ofIndex 3, .ofIndex 3, 4, 1, 10, 1000⟩]⟩ (.good 100),
      .fire, .wait (.ofMillis 500),
      .hear (.ofIndex 2) ⟨[⟨.ofIndex 2, .ofIndex 2, 2, 0, 0, 60000⟩,
        ⟨.ofIndex 3, .ofIndex 3, 6, 1, 10, 60000⟩]⟩ (.good 100),
      .fire]
    (blank, ⟨.empty, {}⟩)

/-- The destination has time left then, and both neighbours are listed, but it is not. -/
theorem shadowed_missing : ∃ s : RouteTable × Air Transcript, InUse s ∧
    s.2.sim.next? (some s.2.sim.now) = none ∧
    ∃ cur, s.1.row? (.ofIndex 3) = some cur ∧ cur.Lives s.2.sim.now ∧
      ∀ e ∈ (s.1.buildAdvert s.2.sim.now).entries, e.ip ≠ .ofIndex 3 := by
  have seen : shadowed.map (fun s => ((s.1.buildAdvert s.2.sim.now).entries.map (·.ip),
      (s.1.row? (.ofIndex 3)).map (·.remaining s.2.sim.now),
      (s.2.sim.next? (some s.2.sim.now)).isNone)) =
        some ([.ofIndex 0, .ofIndex 1, .ofIndex 2], some (.ofMillis 59500), true) := by
    decide +kernel
  obtain ⟨s, done, same⟩ := Option.map_eq_some_iff.mp seen
  simp only [Prod.mk.injEq] at same
  obtain ⟨listed, left, idle⟩ := same
  obtain ⟨cur, found, time⟩ := Option.map_eq_some_iff.mp left
  have used : InUse s := (blank_inUse _).runs (runs_follow done)
  refine ⟨s, used, Option.isNone_iff_eq_none.mp idle, cur, found, .inr ?_, fun e member here => ?_⟩
  · rw [time]
    decide
  · have known := List.mem_map.mpr ⟨e, member, here⟩
    rw [listed] at known
    exact absurd known (by decide)

/-- The old row is the reason. -/
theorem shadowed_overdue : ∃ s : RouteTable × Air Transcript, InUse s ∧
    s.1.Overdue (.ofIndex 3) s.2.sim.now ∧
    ∃ cur, s.1.row? (.ofIndex 3) = some cur ∧ cur.Lives s.2.sim.now := by
  obtain ⟨s, used, -, cur, found, lives, missing⟩ := shadowed_missing
  obtain ⟨whole, -, -, exactly⟩ := only_overdue_destinations_left_out used s.2.sim.now
  refine ⟨s, used, ?_, cur, found, lives⟩
  by_contra intime
  obtain ⟨e, member, here⟩ := (exactly _ cur found lives).mpr intime
  apply missing e _ here
  rw [whole]
  exact List.mem_cons_of_mem _ member

/-- Not every destination whose current row is broken or has time left is in the advert. -/
theorem not_every_live_destination_listed :
    ¬ ∀ s : RouteTable × Air Transcript, InUse s → s.2.sim.next? (some s.2.sim.now) = none →
      ∀ ip cur, s.1.row? ip = some cur → cur.Lives s.2.sim.now →
        ∃ e ∈ (s.1.buildAdvert s.2.sim.now).entries, e.ip = ip := by
  intro complete
  obtain ⟨s, used, idle, cur, found, lives, missing⟩ := shadowed_missing
  obtain ⟨e, member, here⟩ := complete s used idle _ cur found lives
  exact missing e member here

end RouteTable

end WirelessMesh
