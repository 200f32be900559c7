import WirelessMesh.Proofs.Air.Channels
import WirelessMesh.Proofs.Forwarding.Standing
import WirelessMesh.Proofs.Route.Refusal
import WirelessMesh.Proofs.Route.Routewise
import WirelessMesh.Proofs.Wire.Advert

namespace WirelessMesh

namespace RouteTable

variable {t sender : RouteTable} {sim : Simulator MeshEvent} {route : Route} {r : RouteRow}
  {me e : AdvertEntry} {link : Metric} {now : Time} {ip : IPv4}

def Foreign (t : RouteTable) (_ : Simulator MeshEvent) (route : Route) : Prop :=
  ∀ r ∈ route.rows, r.eth ≠ t.eth

private theorem foreign_routewise : Routewise Foreign := by
  constructor
  · intro t t' sim sim' route _ eth _ _ _ foreign
    rw [Foreign, eth]
    exact foreign
  · intro t sim sim' ip r accepted why slot _ _ known offered taken _ x member
    rcases Route.mem_rows.mp member with rfl | old
    · obtain ⟨settledAt, rfl⟩ := verdict_row taken
      exact offered.foreignEth
    · obtain ⟨route, present, before⟩ := Route.mem_rows_of_predecessor old
      exact known route present x before
  · intro t sim sim' route r old foreign _ _ eth before x member
    rcases Route.mem_rows.mp member with rfl | kept
    · rw [eth]
      exact foreign _ route.row_mem_rows
    · exact foreign x (Route.mem_rows_of_kept before kept)

private theorem Sound.check_rows (sound : t.Sound sim) (present : t.routes.get? ip = some route)
    (member : r ∈ route.rows) : r.check = .ok () := by
  have whole := sound.routes ip route present
  rcases Route.mem_rows.mp member with rfl | old
  · exact whole.row
  · exact (whole.older r old).2.1

theorem isOddSeq_add_two (seq : UInt32) : isOddSeq (seq + 2) = isOddSeq seq := by
  apply Bool.eq_iff_iff.mpr
  rw [RouteRow.isOddSeq_iff, RouteRow.isOddSeq_iff, UInt32.toNat_add]
  have two : (2 : UInt32).toNat = 2 := rfl
  omega

section Running

variable {μ : Type} [Medium μ] [LawfulMedium μ] {o : Occasion} {s s' : RouteTable × Air μ}

theorem Step.seq (step : Step o s s') (sound : s.1.Sound s.2.sim) :
    s'.1.seq = s.1.seq ∨ s'.1.seq = s.1.seq + 2 := by
  cases step.effect sound with
  | heard done => exact .inl (sound.handleAdvert_ok done).1.seq
  | ranOut taken kept _ _ _ => exact .inl kept.seq
  | stopped t air => exact .inl rfl
  | stays stays => exact stays.seq

private theorem InUse.seq_even (used : InUse s) : isOddSeq s.1.seq = false := by
  induction used with
  | created medium done =>
    rw [create_eq done]
    rfl
  | step used step ih =>
    rcases step.seq used.sound with same | next
    · rw [same]
      exact ih
    · rw [next, isOddSeq_add_two]
      exact ih

end Running

/-- An entry about another node whose hops and number go together. -/
structure Honest (t : RouteTable) (e : AdvertEntry) : Prop where
  parity : e.hops = 0 ↔ isOddSeq e.seq = true
  single : e.eth.isBroadcast = false
  foreign : e.eth ≠ t.eth

/-- The entries of an advert after the first. -/
def told (t : RouteTable) (now : Time) : List AdvertEntry :=
  (t.servedRows now).filterMap (entryOf now)

private theorem Sound.honest_told (sound : t.Sound sim) (foreign : Each Foreign t sim)
    (member : e ∈ t.told now) : t.Honest e := by
  obtain ⟨r, served, entry⟩ := List.mem_filterMap.mp member
  obtain ⟨route, value, rfl⟩ := List.mem_map.mp served
  obtain ⟨⟨ip, ρ⟩, place, rfl⟩ := List.mem_map.mp value
  have present := Directory.get?_eq_some_iff.mpr place
  have row : t.served now ρ ∈ ρ.rows := Route.served_mem t
  obtain ⟨-, eth, seq, hops, -⟩ := entryOf_some entry
  obtain ⟨coherent, single⟩ := RouteRow.check_ok (sound.check_rows present row)
  constructor
  · rw [hops, seq]
    exact coherent.parity
  · rw [eth]
    exact single
  · rw [eth]
    exact foreign ip ρ present _ row

private theorem length_told_le (t : RouteTable) (now : Time) : (t.told now).length ≤ t.rows.length := by
  have most := List.length_filterMap_le (entryOf now) (t.servedRows now)
  rw [servedRows, List.length_map] at most
  rw [rows, List.length_map]
  exact most

/-- A table at the moment at which it sends an advert: its number is as it was or, if its time for an
advert has come, the next one. -/
def Advertises (t sender : RouteTable) : Prop :=
  sender = t ∨ sender = { t with seq := t.seq + 2 }

theorem Advertises.same (advertises : t.Advertises sender) (now : Time) :
    sender.ip = t.ip ∧ sender.eth = t.eth ∧ sender.told now = t.told now := by
  rcases advertises with rfl | rfl <;> exact ⟨rfl, rfl, rfl⟩

/-- An entry is taken as word of a broken route or of a whole one, and so is not skipped. -/
def Reads (t : RouteTable) (me : AdvertEntry) (link : Metric) (e : AdvertEntry) : Prop :=
  (e.hops = 0 ∧ isOddSeq e.seq = true ∧
    ∀ sim, t.takeEntry me link e sim = t.considerBroken e sim) ∨
  (e.hops ≠ 0 ∧ isOddSeq e.seq = false ∧
    ∀ sim, t.takeEntry me link e sim = t.consider (t.relayedRow me e link sim.now) sim)

/-- Any table reads an honest entry that is not about itself. -/
theorem Honest.reads (honest : sender.Honest e) (own : me.eth = sender.eth)
    (foreignIp : e.ip ≠ t.ip) (foreignEth : e.eth ≠ t.eth) : t.Reads me link e := by
  have strange : ¬ (e.eth = t.eth ∨ e.ip = t.ip ∨ e.eth = me.eth) := by
    rintro (here | here | here)
    · exact foreignEth here
    · exact foreignIp here
    · exact honest.foreign (here.trans own)
  by_cases gone : e.hops = 0
  · have odd := honest.parity.mp gone
    refine .inl ⟨gone, odd, fun sim => ?_⟩
    rw [takeEntry, if_neg strange, if_pos ⟨gone, odd⟩]
  · have even : ¬ isOddSeq e.seq = true := fun odd => gone (honest.parity.mpr odd)
    refine .inr ⟨gone, Bool.eq_false_iff.mpr even, fun sim => ?_⟩
    rw [takeEntry, if_neg strange, if_neg fun word => gone word.1, if_pos ⟨gone, even⟩]

/-- The first entry of an advert is the one by which its sender is known. -/
private theorem entryOfSender?_buildAdvert (even : isOddSeq t.seq = false) :
    entryOfSender? t.eth (t.buildAdvert now) = some t.selfEntry := by
  apply List.find?_cons_of_pos
  simp [selfEntry, even]

section Running

variable {μ M : Type} [Medium μ] [LawfulMedium μ] [Medium M] [LawfulMedium M] {s : RouteTable × Air μ}

private theorem InUse.advertises_even (used : InUse s) (advertises : s.1.Advertises sender) :
    isOddSeq sender.seq = false := by
  rcases advertises with rfl | rfl
  · exact used.seq_even
  · exact (isOddSeq_add_two _).trans used.seq_even

/-- What a table with a usual address and fewer than 65535 rows sends is read back as the advert that it
built. Every other table finds the sender's own entry first, takes in the advert, and reads each other
entry that is not about itself, however far it has got with the advert. -/
theorem adverts_understood (used : InUse s) (single : s.1.eth.isBroadcast = false)
    (few : s.1.rows.length < 65535) (advertises : s.1.Advertises sender) (air : Air μ) :
    let advert := sender.buildAdvert air.now
    advert.entries = sender.selfEntry :: sender.told air.now ∧
    (∃ payload, RouteAdvert.decode payload = .ok advert ∧ (sender.sendAdvert air).2 =
      air.announce sender.node ⟨.broadcast, sender.eth, FrameType.advert, payload⟩) ∧
    ∀ (u : RouteTable × Air M) (link : Metric), InUse u →
      (∃ heard, u.1.handleAdvert sender.eth advert link u.2.sim = .ok heard) ∧
      entryOfSender? sender.eth advert = some sender.selfEntry ∧
      (u.1.ip ≠ sender.ip → u.1.eth ≠ sender.eth →
        u.1.advertiser? sender.eth advert = some sender.selfEntry ∧
        ∀ e ∈ sender.told air.now, e.ip ≠ u.1.ip → e.eth ≠ u.1.eth →
          ∀ mid : RouteTable, mid.ip = u.1.ip → mid.eth = u.1.eth →
            mid.Reads sender.selfEntry link e) := by
  intro advert
  obtain ⟨ip, eth, tells⟩ := advertises.same air.now
  have even := used.advertises_even advertises
  have own : entryOfSender? sender.eth advert = some sender.selfEntry :=
    entryOfSender?_buildAdvert even
  have honest : ∀ e ∈ sender.told air.now, s.1.Honest e := by
    rw [tells]
    intro e member
    exact used.sound.honest_told (foreign_routewise.in_use used) member
  refine ⟨rfl, ⟨advert.encode, ?_, rfl⟩, fun u link other => ⟨?_, own, ?_⟩⟩
  · have most := length_told_le s.1 air.now
    have length : advert.entries.length = (s.1.told air.now).length + 1 := by
      rw [← tells]
      rfl
    rw [RouteAdvert.decode_encode, Nat.mod_eq_of_lt (by omega), List.take_length]
  · have single' : ∀ e ∈ advert.entries, e.eth.isBroadcast = false := by
      intro e member
      rcases List.mem_cons.mp member with rfl | member
      · exact (congrArg EtherAddress.isBroadcast eth).trans single
      · exact (honest e member).single
    obtain ⟨heard, done, -⟩ := other.sound.handleAdvert link single'
    exact ⟨heard, done⟩
  · intro otherIp otherEth
    constructor
    · rw [advertiser?, own]
      simp [selfEntry, Ne.symm otherIp, Ne.symm otherEth]
    · intro e member foreignIp foreignEth mid sameIp sameEth
      have self : sender.selfEntry.eth = s.1.eth := eth
      exact (honest e member).reads self (sameIp ▸ foreignIp) (sameEth ▸ foreignEth)

end Running

/-- A table that has heard of a way to a node and then of a newer one that has yet to settle, and that
another node is lost. -/
def rumours : Option (RouteTable × Air Transcript) :=
  follow
    [.wait (.ofSeconds 1),
      .hear (.ofIndex 1) ⟨[⟨.ofIndex 1, .ofIndex 1, 2, 0, 0, 60000⟩,
        ⟨.ofIndex 3, .ofIndex 3, 4, 1, 10, 60000⟩, ⟨.ofIndex 4, .ofIndex 4, 6, 2, 10, 60000⟩]⟩
        (.good 100),
      .hear (.ofIndex 2) ⟨[⟨.ofIndex 2, .ofIndex 2, 2, 0, 0, 60000⟩,
        ⟨.ofIndex 3, .ofIndex 3, 6, 3, 30, 60000⟩, ⟨.ofIndex 4, .ofIndex 4, 7, 0, 255, 0⟩]⟩
        (.good 100)]
    (blank, ⟨.empty, {}⟩)

def stranger : RouteTable := { blank with node := 5, ip := .ofIndex 5, eth := .ofIndex 5 }

theorem stranger_inUse : InUse (stranger, (⟨.empty, {}⟩ : Air Transcript)) :=
  .created _ (rfl : create 5 (.ofIndex 5) (.ofIndex 5) {} (.ofSeed 1) = .ok stranger)

/-- It reads all that the first one tells: two neighbours, the older way that is still in use, and the
node that is lost. -/
theorem rumours_understood : ∃ (s : RouteTable × Air Transcript) (payload : Bytes) (heard : Considered),
    InUse s ∧ s.1.eth.isBroadcast = false ∧ s.1.rows.length < 65535 ∧
      (s.1.told s.2.now).map (fun e => (e.ip, e.seq, e.hops)) =
        [(.ofIndex 1, 2, 1), (.ofIndex 2, 2, 1), (.ofIndex 3, 4, 2), (.ofIndex 4, 7, 0)] ∧
      RouteAdvert.decode payload = .ok (s.1.buildAdvert s.2.now) ∧
      stranger.handleAdvert s.1.eth (s.1.buildAdvert s.2.now) (.good 100) .empty = .ok heard ∧
      ∀ e ∈ s.1.told s.2.now, stranger.Reads s.1.selfEntry (.good 100) e := by
  have seen : rumours.map (fun s => ((s.1.told s.2.now).map (fun e => (e.ip, e.seq, e.hops)),
      (s.1.told s.2.now).all (fun e => e.ip != .ofIndex 5 && e.eth != .ofIndex 5), s.1.rows.length,
        s.1.ip, s.1.eth)) =
      some ([(.ofIndex 1, 2, 1), (.ofIndex 2, 2, 1), (.ofIndex 3, 4, 2), (.ofIndex 4, 7, 0)], true, 4,
        .ofIndex 0, .ofIndex 0) := by
    decide +kernel
  obtain ⟨s, done, same⟩ := Option.map_eq_some_iff.mp seen
  simp only [Prod.mk.injEq] at same
  obtain ⟨entries, apart, count, ip, eth⟩ := same
  have used : InUse s := (blank_inUse _).runs (runs_follow done)
  have single : s.1.eth.isBroadcast = false := by
    rw [eth]
    decide
  have few : s.1.rows.length < 65535 := by omega
  obtain ⟨-, ⟨payload, decoded, -⟩, understood⟩ :=
    adverts_understood (M := Transcript) used single few (.inl rfl) s.2
  obtain ⟨⟨heard, taken⟩, -, reads⟩ := understood (stranger, ⟨.empty, {}⟩) (.good 100) stranger_inUse
  have otherIp : stranger.ip ≠ s.1.ip := by
    rw [ip]
    decide
  have otherEth : stranger.eth ≠ s.1.eth := by
    rw [eth]
    decide
  refine ⟨s, payload, heard, used, single, few, entries, decoded, taken, fun e member => ?_⟩
  have other := List.all_eq_true.mp apart e member
  simp only [Bool.and_eq_true, bne_iff_ne, ne_eq] at other
  exact (reads otherIp otherEth).2 e member other.1 other.2 stranger rfl rfl

end RouteTable

end WirelessMesh
