import WirelessMesh.DeliveryRates
import WirelessMesh.Proofs.Wire.Lossless

namespace WirelessMesh

theorem length_padTo {length : Nat} {written : Bytes} (fits : written.length ≤ length) :
    (padTo length written).length = length := by
  rw [padTo, List.length_append, List.length_replicate, Nat.add_sub_cancel' fits]

/-- What is filled up with zeros is what fits at the start of a buffer of zeros. -/
theorem overwrite_zeros {length : Nat} {written : Bytes} (fits : written.length ≤ length) :
    overwrite written (List.replicate length 0) = some (padTo length written) := by
  rw [overwrite, List.length_replicate, if_pos fits, List.drop_replicate, padTo]

/-- A jittered period is off by the draw less a tenth of the period, which is never more than there
is to take away. -/
theorem jitteredMillis_off (periodMillis : Nat) (random : RandomSource) :
    ∃ draw, draw ≤ periodMillis / 10 * 2 ∧
      (jitteredMillis periodMillis random).1 + periodMillis / 10 = periodMillis + draw := by
  unfold jitteredMillis
  simp only
  split
  · next short => exact ⟨0, Nat.zero_le _, by rw [short]⟩
  · next long =>
    have positive : 0 < periodMillis / 10 * 2 := by omega
    refine ⟨(random.below (periodMillis / 10 * 2)).1, (random.below_lt positive).le, ?_⟩
    omega

theorem DiscoveryConfig.room_of_validate {config : DiscoveryConfig}
    (valid : config.validate = .ok ()) : DiscoveryConfig.minProbeSize ≤ config.probeSize := by
  unfold validate at valid
  split at valid
  · cases valid
  · split at valid
    · cases valid
    · next roomy => exact Nat.not_lt.mp roomy

private theorem PeerHistory.rate_le {history : PeerHistory} {windowMillis percent : Nat} {cutoff : Time}
    (rated : history.rate windowMillis cutoff = some percent) : percent ≤ 100 := by
  unfold rate at rated
  split at rated
  · cases rated
  · exact Option.some.inj rated ▸ Nat.min_le_right _ _

namespace DeliveryRates

variable {d : DeliveryRates} {peer : EtherAddress} {now : Time} {percent : Nat}

theorem reverseRate_le (rated : d.reverseRate peer now = some percent) : percent ≤ 100 := by
  obtain ⟨history, -, rated⟩ := Option.bind_eq_some_iff.mp rated
  exact PeerHistory.rate_le rated

theorem length_rateEntries_le_room : (d.rateEntries now).length ≤ d.entryRoom :=
  List.length_take_le _ _

private theorem length_rateEntries_le_size : (d.rateEntries now).length ≤ d.peers.size := by
  rw [rateEntries, List.length_take]
  refine (Nat.min_le_right _ _).trans ((List.length_filterMap_le _ _).trans ?_)
  rw [Directory.keys, List.length_map]
  exact Nat.le_refl _

theorem reverseRate_of_mem {entry : RateEntry} (listed : entry ∈ d.rateEntries now) :
    d.reverseRate entry.peer now = some entry.percent.toNat := by
  obtain ⟨peer, -, there⟩ := List.mem_filterMap.mp (List.mem_of_mem_take listed)
  obtain ⟨percent, rated, rfl⟩ := Option.map_eq_some_iff.mp there
  have small : percent ≤ 0xffff := (reverseRate_le rated).trans (by decide)
  rw [rated, toNat_count small]

theorem rateEntries_ascending :
    (d.rateEntries now).Pairwise fun e e' => rank e.peer < rank e'.peer := by
  refine List.Pairwise.sublist (List.take_sublist _ _) (List.pairwise_filterMap.mpr ?_)
  refine d.peers.keys_ascending.imp fun {a b} before e first e' second => ?_
  obtain ⟨_, -, rfl⟩ := Option.map_eq_some_iff.mp first
  obtain ⟨_, -, rfl⟩ := Option.map_eq_some_iff.mp second
  exact before

def nextProbe (d : DeliveryRates) (now : Time) : DiscoveryProbe :=
  ⟨d.seq + 1, UInt32.ofNat d.config.periodMillis, d.rateEntries now⟩

def nextDraft (d : DeliveryRates) (now : Time) : Draft :=
  ⟨.broadcast, d.eth, FrameType.discovery, padTo d.payloadSize (d.nextProbe now).encode⟩

/-- What keeps the numbers of a discovery frame within their bytes. -/
structure Bounded (d : DeliveryRates) : Prop where
  valid : d.config.validate = .ok ()
  period : d.config.periodMillis < 2 ^ 32
  few : d.peers.size < 2 ^ 16

theorem entryRoom_eq : d.entryRoom = (d.config.probeSize - 24) / 8 := by
  simp only [entryRoom, payloadSize, FrameHeader.size, DiscoveryProbe.headerSize, RateEntry.size,
    Nat.sub_sub]

theorem Bounded.readsBack (bounded : d.Bounded) (now : Time) :
    ReadsBack DiscoveryProbe.encode DiscoveryProbe.decode (d.nextProbe now).encodedSize
      (d.nextProbe now) :=
  DiscoveryProbe.read_back _
    (length_rateEntries_le_size.trans (Nat.le_of_lt_succ bounded.few))

private theorem encodedSize_nextProbe_le (valid : d.config.validate = .ok ()) (now : Time) :
    (d.nextProbe now).encodedSize ≤ d.payloadSize := by
  have room := DiscoveryConfig.room_of_validate valid
  have listed : (d.rateEntries now).length ≤ (d.config.probeSize - 24) / 8 :=
    entryRoom_eq ▸ length_rateEntries_le_room
  simp only [DiscoveryConfig.minProbeSize, DiscoveryProbe.encodedSize, nextProbe, payloadSize,
    FrameHeader.size, DiscoveryProbe.headerSize, RateEntry.size] at room ⊢
  omega

/-- A frame that tells everyone in range the rates of its sender at a time. -/
structure Tells (d : DeliveryRates) (now : Time) (frame : Frame) (probe : DiscoveryProbe) :
    Prop where
  everyone : frame.target = .broadcast
  source : frame.source = d.eth
  type : frame.type = FrameType.discovery
  size : frame.size = d.config.probeSize
  /-- What it says is written into a payload of zeros and fits. -/
  written : overwrite probe.encode (List.replicate d.payloadSize 0) = some frame.payload
  read : DiscoveryProbe.decode frame.payload = .ok probe
  seq : probe.seq = d.seq + 1
  period : probe.periodMillis.toNat = d.config.periodMillis
  room : probe.entries.length ≤ (d.config.probeSize - 24) / 8
  ascending : probe.entries.Pairwise fun e e' => rank e.peer < rank e'.peer
  rates : ∀ entry ∈ probe.entries, d.reverseRate entry.peer now = some entry.percent.toNat

theorem Bounded.tells (bounded : d.Bounded) (now : Time) (number : UInt64) :
    d.Tells now (.ofDraft number (d.nextDraft now)) (d.nextProbe now) where
  everyone := rfl
  source := rfl
  type := rfl
  size := by
    have room := DiscoveryConfig.room_of_validate bounded.valid
    have fits := encodedSize_nextProbe_le bounded.valid now
    rw [← (bounded.readsBack now).1] at fits
    have filled : (Frame.ofDraft number (d.nextDraft now)).payload.length = d.payloadSize :=
      length_padTo fits
    rw [Frame.size, filled]
    exact Nat.add_sub_of_le ((Nat.le_add_right _ _).trans room)
  written := overwrite_zeros
    ((bounded.readsBack now).1 ▸ encodedSize_nextProbe_le bounded.valid now)
  read := (bounded.readsBack now).decode_append _
  seq := rfl
  period := (UInt32.toNat_ofNat' (n := _)).trans (Nat.mod_eq_of_lt bounded.period)
  room := entryRoom_eq ▸ length_rateEntries_le_room
  ascending := rateEntries_ascending
  rates := fun _ => reverseRate_of_mem

end DeliveryRates

end WirelessMesh
