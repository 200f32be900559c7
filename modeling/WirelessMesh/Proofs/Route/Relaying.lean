import WirelessMesh.Proofs.Route.Insertion
import WirelessMesh.Proofs.Route.Listing
import WirelessMesh.Proofs.Route.Memory

/-!
How long a route lasts that is passed on. An advert carries the time that is left of a row in whole
milliseconds, rounded down, and a table that takes the row over cuts it to the longest time that it
keeps rows. So no time is ever gained on the way; but a row with less than a millisecond left is told
as one that lasts no time at all.
-/
namespace WirelessMesh

/-- When the time of a row is over, in nanoseconds. -/
def RouteRow.ends (r : RouteRow) : Nat := r.updatedAt.ns + r.ttl.ns

namespace RouteTable

variable {t t' sender u : RouteTable} {sim sim' : Simulator MeshEvent} {sent : Time}
  {teller : EtherAddress} {advert : RouteAdvert} {link : Metric} {me e : AdvertEntry}
  {next : Considered} {r adv row origin accepted : RouteRow} {why : RouteReason} {ip : IPv4}
  {flight : Nat}

theorem ttlMillis_eq (entry : entryOf sent adv = some e) :
    e.ttlMillis.toNat = min ((adv.remaining sent).ns / 1_000_000) maxAdvertMillis := by
  simp only [entryOf] at entry
  split at entry
  · cases entry
  · cases entry
    refine UInt32.toNat_ofNat_of_lt' ?_
    have most : min (adv.remaining sent).millis maxAdvertMillis ≤ maxAdvertMillis :=
      Nat.min_le_right _ _
    exact Nat.lt_of_le_of_lt most (by decide)

/-- A table gives a row no more time than its neighbour has left for it, and no more than its own rows
may last. -/
theorem heardTtl_le (u : RouteTable) (entry : entryOf sent adv = some e) :
    (u.heardTtl e).ns ≤ (adv.remaining sent).ns ∧ (u.heardTtl e).ns ≤ u.config.timeout.ns := by
  have millis := ttlMillis_eq entry
  have carried : (Time.ofMillis e.ttlMillis.toNat).ns ≤ e.ttlMillis.toNat * 1_000_000 :=
    Nat.min_le_left _ _
  rw [heardTtl, Time.ns_min]
  omega

theorem remaining_pos (entry : entryOf sent adv = some e) (whole : e.hops ≠ 0) :
    0 < (adv.remaining sent).ns := by
  have hops := (entryOf_some entry).2.2.2.1
  rcases lives_iff.mpr ⟨e, entry⟩ with broken | left
  · exact absurd (hops.trans (RouteRow.isBroken_iff.mp broken)) whole
  · exact Nat.pos_of_ne_zero fun spent => left (Time.ext spent)

theorem served_of_whole (member : e ∈ (sender.buildAdvert sent).entries) (whole : e.hops ≠ 0) :
    ∃ adv ∈ sender.servedRows sent, entryOf sent adv = some e ∧ 0 < (adv.remaining sent).ns := by
  rcases List.mem_cons.mp member with rfl | told
  · exact absurd rfl whole
  · obtain ⟨adv, served, entry⟩ := List.mem_filterMap.mp told
    exact ⟨adv, served, entry, remaining_pos entry whole⟩

private theorem mem_of_decoded (decoded : RouteAdvert.decode (sender.buildAdvert sent).encode = .ok advert)
    (member : e ∈ advert.entries) : e ∈ (sender.buildAdvert sent).entries := by
  rw [RouteAdvert.decode_encode] at decoded
  cases decoded
  exact List.mem_of_mem_take member

/-- A table after it has taken in an entry of an advert and those before it, if the entry changed a
row. -/
def taken? (u : RouteTable) (sim : Simulator MeshEvent) (sender : EtherAddress) (advert : RouteAdvert)
    (link : Metric) (before : List AdvertEntry) (e : AdvertEntry) : Option Considered :=
  (u.advertiser? sender advert).bind fun me =>
    (((u.hearSender me link sim).bind fun first =>
      (takeEntries me link before first).bind fun mid =>
        mid.table.takeEntry me link e mid.sim).toOption).filter (·.changed)

/-- A table that hears an advert installs a row from one of its entries. -/
def Installs (u : RouteTable) (sim : Simulator MeshEvent) (sender : EtherAddress)
    (advert : RouteAdvert) (link : Metric) (e : AdvertEntry) (next : Considered) : Prop :=
  ∃ before rest, advert.entries = before ++ e :: rest ∧
    u.taken? sim sender advert link before e = some next

theorem Proceeds.now (proceeds : t.Proceeds sim t' sim') : sim'.now = sim.now := by
  induction proceeds with
  | still t sim => rfl
  | noted t log sim => rfl
  | placed why sim held => exact now_of_place
  | removed t ip sim => exact TimerSlot.now_disarm
  | forgotten idle => rfl
  | requested t sim =>
    unfold requestTrigger
    split
    · rfl
    · exact TimerSlot.now_disarm
  | trans first second ih ih' => exact ih'.trans ih

/-- A row that changes the table is put in place, and then a trigger may be asked for. -/
private theorem installed_of_changed (done : t.consider r sim = .ok next) (changed : next.changed = true) :
    ∃ why accepted, verdict (t.row? r.ip) r = some (why, accepted) ∧
      ((next.table, next.sim) = t.install accepted why sim ∨ (next.table, next.sim) =
        (t.install accepted why sim).1.requestTrigger (t.install accepted why sim).2) := by
  rcases consider_cases done with rfl | ⟨why, accepted, taken, ⟨-, both⟩ | ⟨-, both⟩⟩
  · cases changed
  · exact ⟨why, accepted, taken, .inr both⟩
  · exact ⟨why, accepted, taken, .inl both⟩

private theorem considered_of_changed (done : t.takeEntry me link e sim = .ok next)
    (changed : next.changed = true) (whole : e.hops ≠ 0) :
    t.consider (t.relayedRow me e link sim.now) sim = .ok next := by
  rcases takeEntry_ok done with ⟨-, -, -, considered⟩ | ⟨gone, -⟩ | rfl
  · exact considered
  · exact absurd gone whole
  · cases changed

/-- How far a table has got with an advert when an entry installs a row, which row that is, and what is
done then. -/
theorem Installs.placed (installs : u.Installs sim teller advert link e next) (whole : e.hops ≠ 0) :
    ∃ mid midSim why accepted, u.Proceeds sim mid midSim ∧ accepted.ip = e.ip ∧
      accepted.updatedAt = sim.now ∧ accepted.ttl = u.heardTtl e ∧
      next.table.row? e.ip = some accepted ∧
      (next.sim = (mid.install accepted why midSim).2 ∨ next.sim =
        ((mid.install accepted why midSim).1.requestTrigger (mid.install accepted why midSim).2).2) := by
  obtain ⟨before, rest, -, taken⟩ := installs
  obtain ⟨me, -, reached⟩ := Option.bind_eq_some_iff.mp taken
  obtain ⟨done, changed⟩ := Option.filter_eq_some_iff.mp reached
  obtain ⟨first, heard, later⟩ := ok_of_bind (ok_of_toOption done)
  obtain ⟨⟨_, mid, midSim⟩, entries, last⟩ := ok_of_bind later
  have noted : u.Proceeds sim (u.noteLink me link sim.now) sim := .noted u _ sim
  have proceeds : u.Proceeds sim mid midSim :=
    (noted.trans (proceeds_consider heard)).trans (proceeds_takeEntries first entries)
  obtain ⟨why, accepted, decided, placed⟩ :=
    installed_of_changed (considered_of_changed last changed whole) changed
  have ip : accepted.ip = e.ip := verdict_ip decided
  have routes : next.table.routes = (mid.install accepted why midSim).1.routes := by
    rcases placed with same | same
    · exact congrArg (·.1.routes) same
    · exact (congrArg (·.1.routes) same).trans requestTrigger_routes
  have found : next.table.row? e.ip = some accepted := by
    rw [row?, routes, ← ip, (install_rewrites mid accepted why midSim).get?_self]
    rfl
  refine ⟨mid, midSim, why, accepted, proceeds, ip, ?_, ?_, found,
    placed.imp (congrArg Prod.snd) (congrArg Prod.snd)⟩
  · obtain ⟨settledAt, rfl⟩ := verdict_row decided
    exact proceeds.now
  · obtain ⟨settledAt, rfl⟩ := verdict_row decided
    simp only [relayedRow, heardTtl, proceeds.kept.config]

/-- The row that an entry installs is as of now and lasts as long as the entry says, within what the
table allows. -/
theorem Installs.lasting (installs : u.Installs sim teller advert link e next) (whole : e.hops ≠ 0)
    (found : next.table.row? e.ip = some row) :
    row.updatedAt = sim.now ∧ row.ttl = u.heardTtl e := by
  obtain ⟨_, _, _, accepted, -, -, updated, ttl, found', -⟩ := installs.placed whole
  obtain rfl : accepted = row := Option.some.inj (found'.symm.trans found)
  exact ⟨updated, ttl⟩

private theorem Accounted.dueTimes_requestTrigger (accounted : t.Accounted sim) (ip : IPv4) :
    (t.requestTrigger sim).2.dueTimes (expiryEvent t.node ip) =
      sim.dueTimes (expiryEvent t.node ip) := by
  have after := accounted.requestTrigger
  have trigger := (accounted.holds .trigger trivial).owns
  have changes := changes_requestTrigger (t := t) trigger
  have before := accounted.expiry ip
  have holds := after.expiry ip
  rw [(requestTrigger_kept t sim).node, expiryOf, requestTrigger_routes] at holds
  rw [before.dueTimes accounted.valid, holds.dueTimes after.valid]
  exact congrArg Option.toList
    (TimerSlot.due?_changes before.owns accounted.valid changes triggerEvent_ne_expiry.symm)

/-- The timer of a usable row that an entry installs is the only one for its destination, and is due when
the time of the row is over. -/
theorem Installs.due (installs : u.Installs sim teller advert link e next) (whole : e.hops ≠ 0)
    (accounted : u.Accounted sim) (found : next.table.row? e.ip = some row)
    (good : row.isGood = true) :
    next.sim.dueTimes (expiryEvent u.node e.ip) = [sim.now + min row.ttl u.config.timeout] := by
  obtain ⟨mid, midSim, why, accepted, proceeds, ip, -, -, found', placed⟩ := installs.placed whole
  obtain rfl : accepted = row := Option.some.inj (found'.symm.trans found)
  have reached := accounted.proceeds proceeds
  have after : (mid.install accepted why midSim).1.Accounted (mid.install accepted why midSim).2 :=
    reached.place why (expiry_ofRoute _)
  have pending := reached.pending_install accepted why
  rw [if_pos good, ip, proceeds.kept.node, proceeds.kept.config, proceeds.now] at pending
  have asked := after.dueTimes_requestTrigger e.ip
  rw [(install_rewrites mid accepted why midSim).kept.node, proceeds.kept.node, pending] at asked
  rcases placed with same | same
  · rw [same]
    exact pending
  · rw [same]
    exact asked

private theorem Installs.teller_serves
    (decoded : RouteAdvert.decode (sender.buildAdvert sent).encode = .ok advert)
    (installs : u.Installs sim teller advert link e next) (whole : e.hops ≠ 0) :
    ∃ adv ∈ sender.servedRows sent, entryOf sent adv = some e := by
  obtain ⟨before, rest, split, -⟩ := installs
  have member : e ∈ advert.entries := by
    rw [split]
    exact List.mem_append_right _ List.mem_cons_self
  obtain ⟨adv, served, entry, -⟩ := served_of_whole (mem_of_decoded decoded member) whole
  exact ⟨adv, served, entry⟩

/-- A row that is passed on ends no later, but for the time that it takes to be heard. -/
theorem Installs.ends_le (installs : u.Installs sim teller advert link e next) (whole : e.hops ≠ 0)
    (entry : entryOf sent adv = some e) (found : next.table.row? e.ip = some row) :
    row.ends ≤ adv.ends + (sim.now.ns - sent.ns) ∧
      row.ends ≤ sim.now.ns + u.config.timeout.ns := by
  obtain ⟨updated, ttl⟩ := installs.lasting whole found
  obtain ⟨within, most⟩ := heardTtl_le u entry
  have left := remaining_pos entry whole
  simp only [RouteRow.remaining, Time.ns_sub] at within left
  simp only [RouteRow.ends, updated, ttl]
  omega

/-- A row comes by way of adverts from another, after so much time on the way. -/
inductive Relayed (origin : RouteRow) : RouteRow → Nat → Prop
  | origin : Relayed origin origin 0
  | heard {sender u : RouteTable} {sim : Simulator MeshEvent} {sent : Time} {teller : EtherAddress}
      {advert : RouteAdvert} {link : Metric} {e : AdvertEntry} {next : Considered}
      {adv row : RouteRow} {flight : Nat} (relayed : Relayed origin adv flight)
      (served : adv ∈ sender.servedRows sent) (entry : entryOf sent adv = some e)
      (decoded : RouteAdvert.decode (sender.buildAdvert sent).encode = .ok advert)
      (installs : u.Installs sim teller advert link e next) (whole : e.hops ≠ 0)
      (found : next.table.row? e.ip = some row) :
      Relayed origin row (flight + (sim.now.ns - sent.ns))

private theorem Relayed.ends_le (relayed : Relayed origin row flight) : row.ends ≤ origin.ends + flight := by
  induction relayed with
  | origin => exact Nat.le_refl _
  | heard _ _ entry _ installs whole found ih =>
    have one := (installs.ends_le whole entry found).1
    omega

variable {M : Type} [Medium M] [LawfulMedium M] {s : RouteTable × Air M}

/-- A destination can be reached only as long as the time of its current row. -/
private theorem InUse.reached_until (used : InUse s) (found : s.1.row? ip = some row)
    (reached : (s.1.lookup? ip s.2.sim.now).isSome = true) : s.2.sim.now.ns ≤ row.ends := by
  obtain ⟨route, present, rfl⟩ := Option.map_eq_some_iff.mp found
  obtain ⟨r, served⟩ := Option.isSome_iff_exists.mp reached
  obtain ⟨same, good⟩ := Option.filter_eq_some_iff.mp served
  rw [present] at same
  obtain rfl : s.1.served s.2.sim.now route = r := Option.some.inj same
  have usable : route.row.isGood = true := by
    cases serves : s.1.servesOld ip s.2.sim.now with
    | false => rwa [served_of_current present serves] at good
    | true =>
      obtain ⟨old, -, usable, -⟩ := served_of_servesOld present serves
      exact usable
  have fresh := (used.lasts present).fresh (used.sound.routes ip route present) used.timely usable
  rw [Time.ns_min] at fresh
  unfold RouteRow.ends
  omega

/-- A row that a table installs from an advert that it hears ends no later than the row that its
neighbour told of, but for the time in between, and no later than its own rows may last from now on. So
however often a row is passed on, and in whatever circle, no table that has come by it can reach the
destination any longer than the first one could, but for the time on the way. -/
theorem relaying_never_prolongs :
    (∀ {sender u : RouteTable} {sim : Simulator MeshEvent} {sent : Time} {teller : EtherAddress}
      {advert : RouteAdvert} {link : Metric} {e : AdvertEntry} {next : Considered} {row : RouteRow},
      RouteAdvert.decode (sender.buildAdvert sent).encode = .ok advert →
      u.Installs sim teller advert link e next → e.hops ≠ 0 → next.table.row? e.ip = some row →
      ∃ adv ∈ sender.servedRows sent, entryOf sent adv = some e ∧ row.updatedAt = sim.now ∧
        row.ends ≤ adv.ends + (sim.now.ns - sent.ns) ∧
        row.ends ≤ sim.now.ns + u.config.timeout.ns) ∧
    ∀ {s : RouteTable × Air M} {ip : IPv4} {origin row : RouteRow} {flight : Nat}, InUse s →
      s.1.row? ip = some row → Relayed origin row flight → row.ends ≤ origin.ends + flight ∧
        ((s.1.lookup? ip s.2.sim.now).isSome = true →
          s.2.sim.now.ns ≤ origin.ends + flight) := by
  constructor
  · intro sender u sim sent teller advert link e next row decoded installs whole found
    obtain ⟨adv, served, entry⟩ := installs.teller_serves decoded whole
    exact ⟨adv, served, entry, (installs.lasting whole found).1, installs.ends_le whole entry found⟩
  · intro s ip origin row flight used found relayed
    have most := relayed.ends_le
    refine ⟨most, fun reached => ?_⟩
    have limit := used.reached_until found reached
    exact Nat.le_trans limit most

/-- A table that heard of a destination by way of a neighbour, some time ago. -/
def speaker (ttlMillis : UInt32) (pause : Time) : Option (RouteTable × Air Transcript) :=
  follow
    [.hear (.ofIndex 1) ⟨[⟨.ofIndex 1, .ofIndex 1, 2, 0, 0, 60000⟩,
        ⟨.ofIndex 3, .ofIndex 3, 4, 1, 10, ttlMillis⟩]⟩ (.good 100),
      .fire, .wait pause]
    (blank, ⟨.empty, {}⟩)

def listener (pause : Time) : Option (RouteTable × Air Transcript) :=
  follow [.wait pause] (stranger, ⟨.empty, {}⟩)

/-- What the first one tells: of itself, of its neighbour and of the destination. -/
def ownWords : AdvertEntry := ⟨.ofIndex 0, .ofIndex 0, 0, 0, 0, 60000⟩

def wordOfNeighbor (ttlMillis : UInt32) : AdvertEntry := ⟨.ofIndex 1, .ofIndex 1, 2, 1, 10, ttlMillis⟩

def wordOfFar (ttlMillis : UInt32) : AdvertEntry := ⟨.ofIndex 3, .ofIndex 3, 4, 2, 20, ttlMillis⟩

def words (neighbor far : UInt32) : RouteAdvert :=
  ⟨[ownWords, wordOfNeighbor neighbor, wordOfFar far]⟩

def rowOfFar : RouteRow :=
  ⟨.ofIndex 3, .ofIndex 3, .ofIndex 0, .ofIndex 0, 4, 3, .good 300, .ofSeconds 58, .ofSeconds 3,
    .ofSeconds 6⟩

/-- A row is told of after two seconds and heard of after another. Where it is heard it ends a second
later than where it came from, and the destination can be reached meanwhile. -/
theorem relayed_row_ends_a_second_later : ∃ (s u : RouteTable × Air Transcript)
    (origin row : RouteRow), InUse s ∧ InUse u ∧ origin ∈ s.1.servedRows s.2.sim.now ∧
      u.1.row? (.ofIndex 3) = some row ∧ Relayed origin row 1_000_000_000 ∧
      row.ends ≤ origin.ends + 1_000_000_000 ∧
      (u.1.lookup? (.ofIndex 3) u.2.sim.now).isSome = true ∧
      u.2.sim.now.ns ≤ origin.ends + 1_000_000_000 := by
  have told : (speaker 60000 (.ofSeconds 2)).map (fun s => ((s.1.buildAdvert s.2.sim.now).entries,
      s.2.sim.now)) = some ((words 58000 58000).entries, .ofSeconds 2) := by
    decide +kernel
  have heard : (listener (.ofSeconds 3)).bind (fun u =>
      (u.1.taken? u.2.sim (.ofIndex 0) (words 58000 58000) (.good 100)
        [ownWords, wordOfNeighbor 58000] (wordOfFar 58000)).bind fun next =>
      (u.1.handleAdvert (.ofIndex 0) (words 58000 58000) (.good 100) u.2.sim).toOption.map
        fun after =>
      (next.table.row? (.ofIndex 3), after.table.row? (.ofIndex 3),
        (after.table.lookup? (.ofIndex 3) after.sim.now).isSome, u.2.sim.now)) =
        some (some rowOfFar, some rowOfFar, true, .ofSeconds 3) := by
    decide +kernel
  obtain ⟨s, run, same⟩ := Option.map_eq_some_iff.mp told
  obtain ⟨entries, sent⟩ := Prod.mk.inj same
  obtain ⟨u, waited, hears⟩ := Option.bind_eq_some_iff.mp heard
  obtain ⟨next, taken, handles⟩ := Option.bind_eq_some_iff.mp hears
  obtain ⟨after, done, same'⟩ := Option.map_eq_some_iff.mp handles
  simp only [Prod.mk.injEq] at same'
  obtain ⟨installed, current, reached, now⟩ := same'
  have used : InUse s := (blank_inUse _).runs (runs_follow run)
  have used' : InUse (after.table, ({ u.2 with sim := after.sim } : Air Transcript)) :=
    (stranger_inUse.runs (runs_follow waited)).step (.heard (ok_of_toOption done))
  have advert : s.1.buildAdvert s.2.sim.now = words 58000 58000 := congrArg RouteAdvert.mk entries
  have decoded : RouteAdvert.decode (s.1.buildAdvert s.2.sim.now).encode =
      .ok (words 58000 58000) := by
    rw [advert, RouteAdvert.decode_encode]
    rfl
  have installs : u.1.Installs u.2.sim (.ofIndex 0) (words 58000 58000) (.good 100)
      (wordOfFar 58000) next := ⟨_, [], rfl, taken⟩
  obtain ⟨origin, served, entry, -, -, -⟩ :=
    (relaying_never_prolongs (M := Transcript)).1 decoded installs (by decide) installed
  have relayed := Relayed.origin.heard served entry decoded installs (by decide) installed
  rw [sent, now] at relayed
  obtain ⟨ends, within⟩ := (relaying_never_prolongs (M := Transcript)).2 used' current relayed
  exact ⟨s, _, origin, _, used, used', served, current, relayed, ends, reached, within reached⟩

private theorem InUse.timeout_pos (used : InUse s) : 0 < s.1.config.timeout.ns := by
  induction used with
  | @created node ip eth config random t medium done =>
    have valid : config.timeoutMillis ≠ 0 := by
      intro none
      simp only [create, RoutingConfig.validate, none, bind, Except.bind, if_true] at done
      split at done
      · cases done
      · next checked => split at checked <;> cases checked
    rw [create_eq done]
    simp only [RoutingConfig.timeout, Time.ofMillis, Time.ns_ofNanos]
    omega
  | step used step ih =>
    rw [step.config used.sound]
    exact ih

/-- An entry with hops tells of a row that has time left, if only less than a millisecond: then it tells
of none. Such a row, if it can be used, ends at the moment at which a table installs it, and no other
row does. -/
theorem untold_time_ends_at_once (member : e ∈ (sender.buildAdvert sent).entries)
    (whole : e.hops ≠ 0) :
    ∃ adv ∈ sender.servedRows sent, entryOf sent adv = some e ∧ 0 < (adv.remaining sent).ns ∧
      (e.ttlMillis = 0 ↔ (adv.remaining sent).ns < 1_000_000) ∧
      ∀ {u : RouteTable × Air M} {teller : EtherAddress} {advert : RouteAdvert} {link : Metric}
        {next : Considered} {row : RouteRow}, InUse u →
        u.1.Installs u.2.sim teller advert link e next → next.table.row? e.ip = some row →
        row.isGood = true →
        next.sim.dueTimes (expiryEvent u.1.node e.ip) = [u.2.sim.now + u.1.heardTtl e] ∧
          (u.2.sim.now.ns < 0xffff_ffff_ffff_ffff →
            (u.2.sim.now + u.1.heardTtl e = u.2.sim.now ↔ e.ttlMillis = 0)) := by
  obtain ⟨adv, served, entry, left⟩ := served_of_whole member whole
  have millis := ttlMillis_eq entry
  have none : e.ttlMillis = 0 ↔ e.ttlMillis.toNat = 0 := by
    rw [← UInt32.toNat_inj]
    rfl
  refine ⟨adv, served, entry, left, ?_, ?_⟩
  · rw [none, millis]
    unfold maxAdvertMillis
    omega
  · intro u teller advert link next row used installs found good
    have most := (heardTtl_le u.1 entry).2
    have ttl := (installs.lasting whole found).2
    have pos := used.timeout_pos
    constructor
    · have due := installs.due whole used.handled.accounted found good
      have same : min (u.1.heardTtl e) u.1.config.timeout = u.1.heardTtl e := by
        apply Time.ext
        rw [Time.ns_min]
        omega
      rwa [ttl, same] at due
    · intro early
      have told : (u.1.heardTtl e).ns = 0 ↔ e.ttlMillis.toNat = 0 := by
        simp only [heardTtl, Time.ns_min, Time.ofMillis, Time.ns_ofNanos]
        omega
      rw [none, ← told]
      constructor
      · intro same
        have sum := congrArg Time.ns same
        rw [Time.ns_add] at sum
        omega
      · intro zero
        apply Time.ext
        rw [Time.ns_add]
        omega

/-- With half a millisecond left a row is told of as one without any, and another table that hears this
sets a timer for the very same moment. -/
theorem half_a_millisecond_untold : ∃ (s u : RouteTable × Air Transcript) (e : AdvertEntry)
    (next : Considered) (row : RouteRow), InUse s ∧ InUse u ∧
      e ∈ (s.1.buildAdvert s.2.sim.now).entries ∧ e.hops ≠ 0 ∧ e.ttlMillis = 0 ∧
      u.1.Installs u.2.sim s.1.eth (s.1.buildAdvert s.2.sim.now) (.good 100) e next ∧
      next.table.row? e.ip = some row ∧ row.isGood = true ∧
      next.sim.dueTimes (expiryEvent u.1.node e.ip) = [u.2.sim.now] := by
  have told : (speaker 1000 (.ofNanos 999_500_000)).map (fun s =>
      ((s.1.buildAdvert s.2.sim.now).entries, s.1.eth)) =
        some ((words 59000 0).entries, .ofIndex 0) := by
    decide +kernel
  have heard : (listener (.ofNanos 999_500_000)).bind (fun u =>
      (u.1.taken? u.2.sim (.ofIndex 0) (words 59000 0) (.good 100)
        [ownWords, wordOfNeighbor 59000] (wordOfFar 0)).bind fun next =>
      (next.table.row? (.ofIndex 3)).map fun row => (row.isGood, u.2.sim.now)) =
        some (true, .ofNanos 999_500_000) := by
    decide +kernel
  obtain ⟨s, run, same⟩ := Option.map_eq_some_iff.mp told
  obtain ⟨entries, eth⟩ := Prod.mk.inj same
  obtain ⟨u, waited, hears⟩ := Option.bind_eq_some_iff.mp heard
  obtain ⟨next, taken, found⟩ := Option.bind_eq_some_iff.mp hears
  obtain ⟨row, installed, same'⟩ := Option.map_eq_some_iff.mp found
  obtain ⟨good, now⟩ := Prod.mk.inj same'
  have used : InUse s := (blank_inUse _).runs (runs_follow run)
  have used' : InUse u := stranger_inUse.runs (runs_follow waited)
  have advert : s.1.buildAdvert s.2.sim.now = words 59000 0 := congrArg RouteAdvert.mk entries
  have member : wordOfFar 0 ∈ (s.1.buildAdvert s.2.sim.now).entries := by
    rw [entries]
    exact List.mem_append_right [ownWords, wordOfNeighbor 59000] List.mem_cons_self
  have installs : u.1.Installs u.2.sim s.1.eth (s.1.buildAdvert s.2.sim.now) (.good 100)
      (wordOfFar 0) next := by
    rw [eth, advert]
    exact ⟨_, [], rfl, taken⟩
  obtain ⟨adv, -, -, -, -, ends⟩ :=
    untold_time_ends_at_once (M := Transcript) member (by decide)
  obtain ⟨due, once⟩ := ends used' installs installed good
  have early : u.2.sim.now.ns < 0xffff_ffff_ffff_ffff := by
    rw [now]
    decide
  refine ⟨s, u, wordOfFar 0, next, row, used, used', member, by decide, rfl, installs, installed, good,
    due.trans ?_⟩
  rw [(once early).mpr rfl]

/-- Not every entry with hops tells of a row that lasts a millisecond or more. -/
theorem not_every_told_row_lasts : ¬ ∀ s : RouteTable × Air Transcript, InUse s →
    s.2.sim.next? (some s.2.sim.now) = none →
      ∀ e ∈ (s.1.buildAdvert s.2.sim.now).entries, e.hops ≠ 0 → 1 ≤ e.ttlMillis.toNat := by
  intro lasts
  have seen : (speaker 1000 (.ofNanos 999_500_000)).map (fun s =>
      ((s.1.buildAdvert s.2.sim.now).entries,
        (s.2.sim.next? (some s.2.sim.now)).isNone)) =
        some ((words 59000 0).entries, true) := by
    decide +kernel
  obtain ⟨s, run, same⟩ := Option.map_eq_some_iff.mp seen
  obtain ⟨entries, idle⟩ := Prod.mk.inj same
  have used : InUse s := (blank_inUse _).runs (runs_follow run)
  have short := lasts s used (Option.isNone_iff_eq_none.mp idle) (wordOfFar 0)
  rw [entries] at short
  exact absurd (short (by decide) (by decide)) (by decide)

end RouteTable

end WirelessMesh
