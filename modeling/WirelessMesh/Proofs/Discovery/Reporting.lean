import WirelessMesh.Proofs.Discovery.Counting

/-!
Whom a discovery frame reports. It lists the first peers of all that were ever heard, as many as there is
room for, and a peer that has fallen silent keeps its place with a rate of zero. Main statement: that is
all that a frame lists, and these are the neighbours exactly while none of those listed is silent.
-/
namespace WirelessMesh

section Lists

variable {α : Type} {p : α → Bool} {l : List α} {n : Nat}

/-- If a test passes all at the start of a list, what it passes starts in the same way. -/
private theorem take_filter_of_passes (passes : ∀ x ∈ l.take n, p x = true) :
    (l.filter p).take n = l.take n := by
  induction l generalizing n with
  | nil => rfl
  | cons head rest ih =>
    cases n with
    | zero => rfl
    | succ n =>
      obtain ⟨first, others⟩ := List.forall_mem_cons.mp passes
      rw [List.filter_cons_of_pos first, List.take_succ_cons, List.take_succ_cons, ih others]

private theorem take_filter_eq_iff : (l.filter p).take n = l.take n ↔ ∀ x ∈ l.take n, p x = true := by
  refine ⟨fun same x member => ?_, take_filter_of_passes⟩
  rw [← same] at member
  exact (List.mem_filter.mp (List.mem_of_mem_take member)).2

/-- In an ascending list those are among the first `n` before which there are fewer than `n`. -/
private theorem mem_take_iff_countP [Ranked α] (ascending : l.Pairwise fun a b => rank a < rank b) {x : α} :
    x ∈ l.take n ↔ x ∈ l ∧ l.countP (rank · < rank x) < n := by
  induction l generalizing n with
  | nil => simp
  | cons head rest ih =>
    obtain ⟨least, tail⟩ := List.pairwise_cons.mp ascending
    cases n with
    | zero => simp
    | succ n =>
      rw [List.take_succ_cons, List.mem_cons, ih tail, List.mem_cons]
      by_cases first : x = head
      · subst first
        have none : (x :: rest).countP (rank · < rank x) = 0 := by
          refine List.countP_eq_zero.mpr fun y member before => ?_
          have before : rank y < rank x := of_decide_eq_true before
          rcases List.mem_cons.mp member with rfl | later
          · exact Nat.lt_irrefl _ before
          · exact Nat.lt_asymm before (least y later)
        simp [none]
      · have counted (member : x ∈ rest) : (head :: rest).countP (rank · < rank x) =
            rest.countP (rank · < rank x) + 1 :=
          List.countP_cons_of_pos (decide_eq_true (least x member))
        constructor
        · rintro (same | ⟨member, before⟩)
          · exact absurd same first
          · exact ⟨.inr member, by rw [counted member]; exact Nat.succ_lt_succ before⟩
        · rintro ⟨same | member, before⟩
          · exact absurd same first
          · rw [counted member] at before
            exact .inr ⟨member, Nat.lt_of_succ_lt_succ before⟩

end Lists

namespace DeliveryRates

/-- When the timer fires these rates are sent to all in range. -/
def Broadcasts (d : DeliveryRates) (air : Air Transcript) (entries : List RateEntry) : Prop :=
  ∃ (frame : Frame) (probe : DiscoveryProbe),
    (d.onTimer air).2.medium.lines = ⟨.broadcast, d.node, frame⟩ :: air.medium.lines ∧
    frame.payload = padTo d.payloadSize probe.encode ∧ probe.entries = entries

/-- The rate of a peer as a discovery frame says it. -/
def entryFor (d : DeliveryRates) (now : Time) (peer : EtherAddress) : RateEntry :=
  ⟨peer, UInt16.ofNat ((d.reverseRate peer now).getD 0)⟩

/-- The rates of the neighbours, as many as there is room for. -/
def neighborRates (d : DeliveryRates) (now : Time) : List RateEntry :=
  ((d.neighbors now).take d.entryRoom).map (d.entryFor now)

/-- How many peers that were ever heard stand before one. -/
def standsBehind (d : DeliveryRates) (peer : EtherAddress) : Nat :=
  d.peers.keys.countP (rank · < rank peer)

/-- Frames that can be read announce a period. -/
def Paced (log : List (Frame × Time)) : Prop :=
  ∀ x ∈ log, (DiscoveryProbe.decode x.1.payload).toOption.all (·.periodMillis ≠ 0)

variable {d : DeliveryRates} {log : List (Frame × Time)} {peer : EtherAddress} {now since : Time}
  {said : List (DiscoveryProbe × Time)} {windowMillis percent : Nat} {air : Air Transcript}
  {entries : List RateEntry}

theorem Broadcasts.read {frame : Frame} (broadcasts : d.Broadcasts air entries)
    (few : entries.length ≤ 0xffff) (out : (d.onTimer air).2.medium.lines =
      ⟨.broadcast, d.node, frame⟩ :: air.medium.lines) :
    (DiscoveryProbe.decode frame.payload).toOption.map (·.entries) = some entries := by
  obtain ⟨sent, probe, out', payload, rfl⟩ := broadcasts
  have same : sent = frame := by
    have line := (List.cons.inj (out'.symm.trans out)).1
    exact (Transmission.mk.inj line).2.2
  have back : DiscoveryProbe.decode (padTo d.payloadSize probe.encode) = .ok probe :=
    (DiscoveryProbe.read_back probe few).decode_append _
  rw [← same, payload, back]
  rfl

theorem broadcasts_rateEntries (d : DeliveryRates) (air : Air Transcript) :
    d.Broadcasts air (d.rateEntries air.now) :=
  ⟨_, d.nextProbe air.now, rfl, rfl, rfl⟩

theorem Paced.announced (paced : Paced log) :
    ∀ a ∈ announcements log peer, a.1.periodMillis ≠ 0 := by
  intro a member
  obtain ⟨x, heard, announced⟩ := List.mem_filterMap.mp member
  have period := paced x heard
  rw [(announcement?_some announced).2.1] at period
  exact of_decide_eq_true period

private theorem isSome_wholeRate (paced : ∀ a ∈ said, a.1.periodMillis ≠ 0) (spoke : said ≠ []) :
    (wholeRate windowMillis since said).isSome = true := by
  obtain ⟨⟨latest, saidAt⟩, earlier, rfl⟩ := List.exists_cons_of_ne_nil spoke
  rw [wholeRate, if_neg (paced _ List.mem_cons_self)]
  rfl

private theorem wholeRate_of_silent (silent : countSince since said = 0)
    (rated : wholeRate windowMillis since said = some percent) : percent = 0 := by
  unfold wholeRate at rated
  split at rated
  · cases rated
  · split at rated
    · cases rated
    · simpa [silent, eq_comm] using rated

theorem Listened.mem_keys_iff (listened : d.Listened log) :
    peer ∈ d.peers.keys ↔ announcements log peer ≠ [] := by
  rw [Directory.mem_keys_iff]
  have kept := listened.recalls peer
  generalize announcements log peer = said, d.peers.get? peer = history at kept
  cases kept with
  | unheard => exact ⟨nofun, absurd rfl⟩
  | heard => exact ⟨nofun, fun _ => rfl⟩

private theorem Listened.isSome_reverseRate (listened : d.Listened log) (paced : Paced log)
    (onward : ∀ x ∈ log, x.2 ≤ now) (known : peer ∈ d.peers.keys) :
    (d.reverseRate peer now).isSome = true := by
  rw [listened.reverseRate_eq peer onward]
  exact isSome_wholeRate paced.announced (listened.mem_keys_iff.mp known)

private theorem Listened.reverseRate_of_silent (listened : d.Listened log) (onward : ∀ x ∈ log, x.2 ≤ now)
    (silent : peer ∉ d.neighbors now) (rated : d.reverseRate peer now = some percent) :
    percent = 0 := by
  rw [listened.mem_neighbors_iff, Nat.pos_iff_ne_zero, not_not] at silent
  rw [listened.reverseRate_eq peer onward] at rated
  exact wholeRate_of_silent silent rated

private theorem neighbors_eq_filter (d : DeliveryRates) (now : Time) :
    d.neighbors now = d.peers.keys.filter (· ∈ d.neighbors now) := by
  rw [Directory.keys, List.filter_map]
  refine congrArg (List.map _) (List.filter_congr fun e member => ?_)
  rw [Bool.eq_iff_iff, Function.comp_apply, decide_eq_true_iff, mem_neighbors_iff,
    Directory.get?_eq_some_iff.mpr member, Option.any_some]

private theorem Listened.rateEntries_eq (listened : d.Listened log) (paced : Paced log)
    (onward : ∀ x ∈ log, x.2 ≤ now) :
    d.rateEntries now = (d.peers.keys.take d.entryRoom).map (d.entryFor now) := by
  have rated : ∀ peer ∈ d.peers.keys, (d.reverseRate peer now).map
      (fun percent => (⟨peer, UInt16.ofNat percent⟩ : RateEntry)) = some (d.entryFor now peer) := by
    intro peer known
    obtain ⟨percent, rate⟩ :=
      Option.isSome_iff_exists.mp (listened.isSome_reverseRate paced onward known)
    rw [entryFor, rate]
    rfl
  rw [rateEntries, List.filterMap_congr rated, List.filterMap_eq_map', List.map_take]

theorem map_peer_entryFor (d : DeliveryRates) (now : Time) (l : List EtherAddress) :
    (l.map (d.entryFor now)).map (·.peer) = l := by
  rw [List.map_map]
  exact List.map_id l

private theorem map_entryFor_inj {l l' : List EtherAddress} :
    l.map (d.entryFor now) = l'.map (d.entryFor now) ↔ l = l' := by
  refine ⟨fun same => ?_, congrArg _⟩
  rw [← map_peer_entryFor d now l, same, map_peer_entryFor]

/-- What rates a frame lists beside all that was ever heard. -/
structure ReportsAll (d : DeliveryRates) (log : List (Frame × Time)) (now : Time)
    (entries : List RateEntry) : Prop where
  ascending : entries.Pairwise fun e e' => rank e.peer < rank e'.peer
  rates : ∀ entry ∈ entries, d.reverseRate entry.peer now = some entry.percent.toNat
  known : ∀ peer, peer ∈ d.peers.keys ↔ announcements log peer ≠ []
  near : ∀ peer, peer ∈ d.neighbors now ↔
    0 < countSince (now - d.config.window) (announcements log peer)
  /-- Whoever was ever heard is listed if it stands within the room, silent or not. -/
  listed : ∀ peer, peer ∈ entries.map (·.peer) ↔
    announcements log peer ≠ [] ∧ d.standsBehind peer < d.entryRoom
  silent : ∀ entry ∈ entries, entry.peer ∉ d.neighbors now → entry.percent = 0
  /-- These are the neighbours exactly while none of those listed is silent. -/
  current : entries = d.neighborRates now ↔ ∀ entry ∈ entries, entry.peer ∈ d.neighbors now

theorem Listened.reportsAll (listened : d.Listened log) (paced : Paced log)
    (onward : ∀ x ∈ log, x.2 ≤ now) : d.ReportsAll log now (d.rateEntries now) where
  ascending := rateEntries_ascending
  rates _ := reverseRate_of_mem
  known _ := listened.mem_keys_iff
  near peer := listened.mem_neighbors_iff peer now
  listed peer := by
    rw [listened.rateEntries_eq paced onward, map_peer_entryFor,
      mem_take_iff_countP d.peers.keys_ascending, listened.mem_keys_iff]
    rfl
  silent entry listed quiet := by
    have none := listened.reverseRate_of_silent onward quiet (reverseRate_of_mem listed)
    exact UInt16.toNat_inj.mp none
  current := by
    rw [listened.rateEntries_eq paced onward, neighborRates, map_entryFor_inj, eq_comm,
      neighbors_eq_filter, take_filter_eq_iff]
    simp only [List.forall_mem_map, decide_eq_true_iff]
    rw [← neighbors_eq_filter]
    rfl

/-- A discovery frame reports all peers that were ever heard, in ascending order and as many as there is
room for. One that has fallen silent is reported with a rate of zero and keeps its place, so the frame
lists the neighbours exactly while none of those listed is silent. -/
theorem silent_peers_keep_their_place (listened : d.Listened log) (paced : Paced log)
    (air : Air Transcript) (onward : ∀ x ∈ log, x.2 ≤ air.now) :
    ∃ entries, d.Broadcasts air entries ∧ d.ReportsAll log air.now entries :=
  ⟨_, d.broadcasts_rateEntries air, listened.reportsAll paced onward⟩

def oneRoom : DeliveryRates := ⟨0, .ofIndex 0, { probeSize := 32 }, 0, .empty, .ofSeed 1, none⟩

def oneAfterAnother : List (Frame × Time) :=
  [(announcing (.ofIndex 2) 1000, .ofMillis 20000), (announcing (.ofIndex 1) 1000, .zero)]

private theorem oneRoom_created :
    DeliveryRates.create 0 (.ofIndex 0) { probeSize := 32 } (.ofSeed 1) = .ok oneRoom := rfl

theorem oneRoom_listened : (oneRoom.hearAll oneAfterAnother).Listened oneAfterAnother :=
  .hearAll (.created oneRoom_created) (by decide)

theorem oneAfterAnother_paced : Paced oneAfterAnother := by
  unfold Paced
  decide +kernel

def afterTwenty : Air Transcript := ⟨{ Simulator.empty with now := .ofMillis 20000 }, {}⟩

/-- The peer that has fallen silent takes the room of the one that was just heard. -/
theorem newcomer_finds_no_room : ∃ d : DeliveryRates, d.Listened oneAfterAnother ∧
    Paced oneAfterAnother ∧ (∀ x ∈ oneAfterAnother, x.2 ≤ afterTwenty.now) ∧
    .ofIndex 2 ∈ d.neighbors afterTwenty.now ∧ .ofIndex 1 ∉ d.neighbors afterTwenty.now ∧
    ∃ entries, d.Broadcasts afterTwenty entries ∧
      .ofIndex 1 ∈ entries.map (·.peer) ∧ .ofIndex 2 ∉ entries.map (·.peer) := by
  have onward : ∀ x ∈ oneAfterAnother, x.2 ≤ afterTwenty.now := by decide
  obtain ⟨entries, broadcasts, reports⟩ :=
    silent_peers_keep_their_place oneRoom_listened oneAfterAnother_paced afterTwenty onward
  refine ⟨_, oneRoom_listened, oneAfterAnother_paced, onward, ?_, ?_, entries, broadcasts, ?_, ?_⟩
  · decide +kernel
  · decide +kernel
  · refine (reports.listed (.ofIndex 1)).mpr ⟨?_, ?_⟩
    · decide +kernel
    · decide +kernel
  · intro listed
    have before := ((reports.listed (.ofIndex 2)).mp listed).2
    exact absurd before (by decide +kernel)

/-- So it is not the neighbours that a frame lists. -/
theorem not_every_frame_lists_neighbors : ¬ ∀ (d : DeliveryRates) (log : List (Frame × Time))
    (air : Air Transcript), d.Listened log → Paced log → (∀ x ∈ log, x.2 ≤ air.now) →
      d.Broadcasts air (d.neighborRates air.now) := by
  intro always
  have claimed := always _ _ afterTwenty oneRoom_listened oneAfterAnother_paced (by decide)
  have sent := (oneRoom.hearAll oneAfterAnother).broadcasts_rateEntries afterTwenty
  have same := (claimed.read (by decide +kernel) rfl).symm.trans (sent.read (by decide +kernel) rfl)
  exact absurd (Option.some.inj same) (by decide +kernel)

end DeliveryRates

end WirelessMesh
