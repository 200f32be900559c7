import WirelessMesh.Proofs.Metric.Weight
import WirelessMesh.Proofs.Route.Listing

/-!
The three ways to read a table: all rows in use at once, the way to one destination, and the advert.
Each of them chooses anew between the row of a destination and the old one beside it. Main statement:
they make the same choice, so packets go by just the routes that neighbours are told of.
-/
namespace WirelessMesh

namespace RouteTable

variable {t : RouteTable} {sim : Simulator MeshEvent} {now : Time} {ip : IPv4} {r : RouteRow}
  {e : AdvertEntry} {route : Route}

/-- The row of a destination that is in use: the old one for as long as it is, else the current one. -/
def standing? (t : RouteTable) (ip : IPv4) (now : Time) : Option RouteRow :=
  if t.servesOld ip now then t.old? ip else t.row? ip

theorem standing?_of_present (present : t.routes.get? ip = some route) :
    t.standing? ip now = some (t.served now route) := by
  unfold standing?
  cases serves : t.servesOld ip now with
  | true =>
    obtain ⟨old, kept, -, -, same⟩ := served_of_servesOld present serves
    rw [if_pos rfl, same, old?, present]
    exact kept
  | false =>
    rw [if_neg Bool.false_ne_true, served_of_current present serves, row?, present]
    rfl

theorem standing?_of_absent (absent : t.routes.get? ip = none) : t.standing? ip now = none := by
  have current : t.servesOld ip now = false := by simp [servesOld, absent]
  rw [standing?, current, if_neg Bool.false_ne_true, row?, absent]
  rfl

/-- The way to a destination is the row that stands for it, if that can be used. -/
theorem lookup?_eq (t : RouteTable) (ip : IPv4) (now : Time) :
    t.lookup? ip now = (t.standing? ip now).filter (·.isGood) := by
  unfold lookup?
  cases present : t.routes.get? ip with
  | none => rw [standing?_of_absent present]; rfl
  | some route => rw [standing?_of_present present]; rfl

/-- An old row is in use while the current one has yet to settle, if both can be used. -/
private theorem Sound.servesOld_iff (sound : t.Sound sim) : t.servesOld ip now = true ↔
    t.config.useOldRoute = true ∧ ∃ cur old, t.row? ip = some cur ∧ t.old? ip = some old ∧
      cur.isGood = true ∧ old.isGood = true ∧ now < cur.settledAt := by
  unfold servesOld row? old?
  cases present : t.routes.get? ip with
  | none => simp
  | some route =>
    unfold Route.usesOld
    cases kept : route.old with
    | none => simp [kept]
    | some old =>
      have older := ((sound.routes ip route present).older old kept).2.2
      simp [kept, older, and_assoc]

private theorem Sound.ips_servedRows (sound : t.Sound sim) (now : Time) :
    (t.servedRows now).map (·.ip) = t.routes.keys := by
  rw [servedRows, Directory.values, Directory.keys, List.map_map, List.map_map]
  refine List.map_congr_left fun entry member => ?_
  exact sound.served_ip (Directory.get?_eq_some_iff.mpr member)

private theorem mem_keys_iff : ip ∈ t.routes.keys ↔ (t.row? ip).isSome = true := by
  rw [row?, Option.isSome_map, Directory.mem_keys_iff]

/-- The rows in use are those that stand for their destinations. -/
theorem Sound.mem_servedRows_iff (sound : t.Sound sim) :
    r ∈ t.servedRows now ↔ t.standing? r.ip now = some r := by
  rw [servedRows, List.mem_map]
  constructor
  · rintro ⟨route, value, rfl⟩
    obtain ⟨ip, present⟩ := Sound.mem_values value
    rw [sound.served_ip present]
    exact standing?_of_present present
  · intro stands
    cases present : t.routes.get? r.ip with
    | none =>
      rw [standing?_of_absent present] at stands
      cases stands
    | some route =>
      rw [standing?_of_present present] at stands
      exact ⟨route, value_of_get? present, Option.some.inj stands⟩

theorem Sound.standing?_ip (sound : t.Sound sim) (stands : t.standing? ip now = some r) :
    r.ip = ip := by
  cases present : t.routes.get? ip with
  | none =>
    rw [standing?_of_absent present] at stands
    cases stands
  | some route =>
    rw [standing?_of_present present] at stands
    cases stands
    exact sound.served_ip present

/-- To look for a destination among the rows in use is to find the row that stands for it. -/
private theorem Sound.find?_servedRows (sound : t.Sound sim) (ip : IPv4) (now : Time) :
    (t.servedRows now).find? (·.ip = ip) = t.standing? ip now := by
  cases found : (t.servedRows now).find? (·.ip = ip) with
  | some r =>
    have own : r.ip = ip := by simpa using List.find?_some found
    have stands := sound.mem_servedRows_iff.mp (List.mem_of_find?_eq_some found)
    exact (own ▸ stands).symm
  | none =>
    cases stands : t.standing? ip now with
    | none => rfl
    | some r =>
      have own := sound.standing?_ip stands
      have member : r ∈ t.servedRows now := sound.mem_servedRows_iff.mpr (own.symm ▸ stands)
      exact absurd (decide_eq_true own) (List.find?_eq_none.mp found r member)

/-- What an advert says of a row. -/
def wordOf (now : Time) (r : RouteRow) : AdvertEntry where
  ip := r.ip
  eth := r.eth
  seq := r.seq
  hops := r.hops
  metric := r.metric.quantize
  ttlMillis := UInt32.ofNat (min (r.remaining now).millis maxAdvertMillis)

private theorem entryOf_eq (now : Time) (r : RouteRow) :
    entryOf now r = if r.Lives now then some (wordOf now r) else none := by
  by_cases lives : r.Lives now
  · obtain ⟨e, entry⟩ := lives_iff.mp lives
    rw [if_pos lives, entry]
    simp only [entryOf] at entry
    split at entry
    · cases entry
    · exact entry.symm
  · rw [if_neg lives]
    cases entry : entryOf now r with
    | none => rfl
    | some e => exact absurd (lives_iff.mpr ⟨e, entry⟩) lives

/-- An advert tells of the rows in use in their order, except for those whose time is over. -/
theorem told_eq (t : RouteTable) (now : Time) :
    t.told now = ((t.servedRows now).filter (·.Lives now)).map (wordOf now) := by
  unfold told
  induction t.servedRows now with
  | nil => rfl
  | cons r rest ih =>
    rw [List.filterMap_cons, entryOf_eq, ih]
    by_cases lives : r.Lives now <;> simp [lives]

theorem mem_told_iff : e ∈ t.told now ↔ ∃ r ∈ t.servedRows now, r.Lives now ∧ wordOf now r = e := by
  rw [told_eq]
  simp [and_assoc]

/-- The rows in use, the way to each destination and the advert of a table at a time tell the same. -/
structure ReadsAlike (t : RouteTable) (now : Time) : Prop where
  /-- An old row is in use for as long as the current one has not settled. -/
  unsettled : ∀ ip, t.servesOld ip now = true ↔
    t.config.useOldRoute = true ∧ ∃ cur old, t.row? ip = some cur ∧ t.old? ip = some old ∧
      cur.isGood = true ∧ old.isGood = true ∧ now < cur.settledAt
  /-- Of every destination that the table knows one row is in use. -/
  known : ∀ ip, ip ∈ (t.servedRows now).map (·.ip) ↔ (t.row? ip).isSome = true
  ascending : ((t.servedRows now).map (·.ip)).Pairwise fun a b => rank a < rank b
  stands : ∀ r ∈ t.servedRows now, t.standing? r.ip now = some r
  looked : ∀ ip, t.lookup? ip now = ((t.servedRows now).find? (·.ip = ip)).filter (·.isGood)
  advert : (t.buildAdvert now).entries =
    t.selfEntry :: ((t.servedRows now).filter (·.Lives now)).map (wordOf now)
  /-- Of the way to a destination neighbours are told, unless its time is over. -/
  announced : ∀ ip r, t.lookup? ip now = some r → r.remaining now ≠ .zero →
    wordOf now r ∈ (t.buildAdvert now).entries.tail ∧
      ∀ e ∈ (t.buildAdvert now).entries.tail, e.ip = ip → e = wordOf now r
  /-- Of a route that they are told they can use, packets go that way. -/
  followed : ∀ e ∈ (t.buildAdvert now).entries.tail, e.hops ≠ 0 → e.metric ≠ Metric.badByte →
    ∃ r, t.lookup? e.ip now = some r ∧ e = wordOf now r

theorem Sound.announced (sound : t.Sound sim) (way : t.lookup? ip now = some r)
    (left : r.remaining now ≠ .zero) :
    wordOf now r ∈ t.told now ∧ ∀ e ∈ t.told now, e.ip = ip → e = wordOf now r := by
  rw [lookup?_eq] at way
  have stands := (Option.filter_eq_some_iff.mp way).1
  have own := sound.standing?_ip stands
  have member : r ∈ t.servedRows now := sound.mem_servedRows_iff.mpr (own.symm ▸ stands)
  refine ⟨mem_told_iff.mpr ⟨r, member, .inr left, rfl⟩, fun e told here => ?_⟩
  obtain ⟨r', member', -, rfl⟩ := mem_told_iff.mp told
  have stands' := sound.mem_servedRows_iff.mp member'
  have same : r'.ip = ip := here
  rw [same, stands] at stands'
  rw [Option.some.inj stands']

theorem Sound.followed (sound : t.Sound sim) (told : e ∈ t.told now) (whole : e.hops ≠ 0)
    (usable : e.metric ≠ Metric.badByte) : ∃ r, t.lookup? e.ip now = some r ∧ e = wordOf now r := by
  obtain ⟨r, member, -, rfl⟩ := mem_told_iff.mp told
  have good : r.isGood = true := by
    refine RouteRow.isGood_iff.mpr ⟨whole, fun bad => usable ?_⟩
    show r.metric.quantize = _
    rw [bad]
    rfl
  refine ⟨r, ?_, rfl⟩
  rw [lookup?_eq]
  exact Option.filter_eq_some_iff.mpr ⟨sound.mem_servedRows_iff.mp member, good⟩

variable {μ : Type} [Medium μ] [LawfulMedium μ] {s : RouteTable × Air μ}

/-- However a table has been used, its readings agree at every time. -/
theorem readings_agree (used : InUse s) (now : Time) : s.1.ReadsAlike now := by
  have sound := used.sound
  have ips := sound.ips_servedRows now
  constructor
  · exact fun ip => sound.servesOld_iff
  · intro ip
    rw [ips]
    exact mem_keys_iff
  · rw [ips]
    exact s.1.routes.keys_ascending
  · exact fun r member => sound.mem_servedRows_iff.mp member
  · intro ip
    rw [lookup?_eq, sound.find?_servedRows]
  · exact congrArg (s.1.selfEntry :: ·) (s.1.told_eq now)
  · exact fun ip r way left => sound.announced way left
  · exact fun e told whole usable => sound.followed told whole usable

/-- Of a destination with a newer way that has yet to settle, the older way is the one by which packets
go and of which neighbours are told; once it has settled, the newer one. -/
theorem overtaken_read_alike : ∃ (s : RouteTable × Air Transcript) (before after : RouteRow),
    InUse s ∧ s.1.ReadsAlike (.ofSeconds 11) ∧ s.1.ReadsAlike (.ofSeconds 14) ∧
      s.1.lookup? (.ofIndex 3) (.ofSeconds 11) = some before ∧ before.nextHopIp = .ofIndex 1 ∧
      wordOf (.ofSeconds 11) before ∈ (s.1.buildAdvert (.ofSeconds 11)).entries.tail ∧
      s.1.lookup? (.ofIndex 3) (.ofSeconds 14) = some after ∧ after.nextHopIp = .ofIndex 2 ∧
      wordOf (.ofSeconds 14) after ∈ (s.1.buildAdvert (.ofSeconds 14)).entries.tail := by
  have seen : overtaken.map (fun s =>
      ((s.1.lookup? (.ofIndex 3) (.ofSeconds 11)).map fun r =>
          (r.nextHopIp, decide (r.remaining (.ofSeconds 11) = .zero)),
        (s.1.lookup? (.ofIndex 3) (.ofSeconds 14)).map fun r =>
          (r.nextHopIp, decide (r.remaining (.ofSeconds 14) = .zero)))) =
        some (some (.ofIndex 1, false), some (.ofIndex 2, false)) := by
    decide +kernel
  obtain ⟨s, done, same⟩ := Option.map_eq_some_iff.mp seen
  obtain ⟨first, second⟩ := Prod.mk.inj same
  obtain ⟨before, way, told⟩ := Option.map_eq_some_iff.mp first
  obtain ⟨after, way', told'⟩ := Option.map_eq_some_iff.mp second
  obtain ⟨hop, left⟩ := Prod.mk.inj told
  obtain ⟨hop', left'⟩ := Prod.mk.inj told'
  have used : InUse s := (blank_inUse _).runs (runs_follow done)
  have early := readings_agree used (.ofSeconds 11)
  have late := readings_agree used (.ofSeconds 14)
  exact ⟨s, before, after, used, early, late, way, hop,
    (early.announced _ _ way (of_decide_eq_false left)).1, way', hop',
    (late.announced _ _ way' (of_decide_eq_false left')).1⟩

end RouteTable

end WirelessMesh
