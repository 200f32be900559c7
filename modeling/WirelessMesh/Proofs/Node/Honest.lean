import WirelessMesh.Proofs.Node.Settled
import WirelessMesh.Proofs.Probing.Pairs

namespace WirelessMesh

/-- What is read needs no more bytes than were written, whatever the count of sixteen bits says. -/
private theorem DiscoveryProbe.decode_padded (probe : DiscoveryProbe) (rest : Bytes) :
    ∃ read, decode (probe.encode ++ rest) = .ok read := by
  have length : probe.encode.length = headerSize + probe.entries.length * RateEntry.size := by
    rw [encode, List.length_append, RateEntry.records.length_flatten]
    rfl
  have count : countAt 8 (probe.encode ++ rest) = some (probe.entries.length % 0x1_0000) := by
    simp only [encode, BigEndian.bytes32, BigEndian.bytes16, List.cons_append, List.nil_append,
      countAt, List.drop_succ_cons, List.drop_zero, Option.some.injEq]
    have back := BigEndian.word16_bytes16 (UInt16.ofNat probe.entries.length)
    exact (congrArg UInt16.toNat back).trans UInt16.toNat_ofNat'
  have fewer := Nat.mod_le probe.entries.length 0x1_0000
  obtain ⟨read, reads, -⟩ := (read_exactly (probe.encode ++ rest)).1 (by
    rw [announcedSize, count, List.length_append, length]
    simp only [Option.getD_some, headerSize, RateEntry.size]
    omega)
  exact ⟨read, reads⟩

private theorem DeliveryRates.usable_nextDraft (d : DeliveryRates) (now : Time) :
    (d.nextDraft now).Usable := by
  intro id
  obtain ⟨read, reads⟩ := (d.nextProbe now).decode_padded
    (List.replicate (d.payloadSize - (d.nextProbe now).encode.length) 0)
  exact .discovery rfl reads

private theorem RouteTable.usable_advertDraft (t : RouteTable) (now : Time) : (t.advertDraft now).Usable :=
  fun _ => .advert rfl (RouteAdvert.decode_encode _)

namespace Prober

variable {p p' : Prober} {peer : EtherAddress} {near : EtherAddress → Prop}

private theorem usable_pairDraft {size : Nat} (valid : minProbeFrame ≤ size) (seq : UInt16)
    (report : Option DelayReport) : (p.pairDraft peer seq size report).Usable := by
  intro id
  have sized : (Frame.ofDraft id (p.pairDraft peer seq size report)).size = size :=
    (probe_sized valid rfl rfl).1
  obtain ⟨reported, -, whole⟩ := probePayload_eq seq report valid
  have read : LinkProbe.decode (probePayload seq size report) = .ok ⟨seq⟩ := by
    rw [whole, padTo, List.append_assoc]
    exact (LinkProbe.mk seq).read_back.decode_append _
  exact .probe rfl (valid.trans (Nat.le_of_eq sized.symm)) read rfl

private theorem usable_replyDraft (p : Prober) (peer : EtherAddress) (micros : Nat) :
    (p.replyDraft peer micros).Usable := by
  intro id
  let report : DelayReport := ⟨peer, UInt16.ofNat micros⟩
  have length : report.encode.length = DelayReport.size := report.read_back.1
  have sized : (p.replyDraft peer micros).payload.length = replyFrameSize - FrameHeader.size :=
    length_padTo (by
      rw [List.length_append, length]
      decide)
  have read : DelayReport.decode ((p.replyDraft peer micros).payload.drop LinkProbe.size) =
      .ok report := report.read_back.decode_append _
  refine .reply rfl ?_ read
  rw [Frame.size, Frame.ofDraft, sized]
  decide

/-- A prober whose probes are long enough, and whose neighbours are all near. -/
structure Discreet (p : Prober) (near : EtherAddress → Prop) : Prop where
  first : minProbeFrame ≤ p.config.firstSize
  second : minProbeFrame ≤ p.config.secondSize
  neighbors : ∀ peer ∈ p.neighbors.keys, near peer

namespace Discreet

theorem kept (discreet : p.Discreet near) (keeps : p.Keeps p') : p'.Discreet near where
  first := keeps.config ▸ discreet.first
  second := keeps.config ▸ discreet.second
  neighbors peer member := discreet.neighbors peer (keeps.neighbors peer member)

theorem mono {wider : EtherAddress → Prop} (discreet : p.Discreet near)
    (more : ∀ peer, near peer → wider peer) : p.Discreet wider :=
  ⟨discreet.first, discreet.second, fun peer member => more peer (discreet.neighbors peer member)⟩

theorem onDiscovery (discreet : p.Discreet near) (close : near peer) (now : Time) :
    (p.onDiscovery peer now).Discreet near where
  first := discreet.first
  second := discreet.second
  neighbors other member := by
    rcases NeighborTable.mem_keys_hear member with rfl | known
    · exact close
    · exact discreet.neighbors other known

end Discreet

/-- A frame that is no announcement changes nothing but samples and timers. -/
theorem keeps_onFrame {μ : Type} [Medium μ] (p : Prober) {frame : Frame}
    (other : frame.type ≠ FrameType.discovery) (air : Air μ) :
    p.Keeps (p.onFrame frame air).2.1 := by
  have acts : Acts (Deed.Within True (.signed fun _ => True)) (fun _ => none) p air
      (p.onFrame frame air).2.1 (p.onFrame frame air).2.2 :=
    acts_onFrame (fun _ => trivial) (fun _ => trivial) other
  exact acts.toKeeps

/-- Settings that pass have room for a number in both probes of a pair. -/
theorem sizes_of_validate {config : ProbingConfig} (valid : config.validate = .ok ()) :
    minProbeFrame ≤ config.firstSize ∧ minProbeFrame ≤ config.secondSize := by
  unfold ProbingConfig.validate at valid
  split at valid
  · cases valid
  · next first =>
    split at valid
    · cases valid
    · next second => exact ⟨Nat.not_lt.mp first, Nat.not_lt.mp second⟩

theorem create_discreet {node : NodeId} {config : ProbingConfig} {random : RandomSource}
    {salt : UInt64} (done : create node config random salt = .ok p) : p.Discreet near := by
  obtain ⟨_, valid, made⟩ := ok_of_bind done
  split at made
  · cases made
  · cases made
    obtain ⟨first, second⟩ := sizes_of_validate valid
    exact ⟨first, second, nofun⟩

end Prober

/-- Saying under one address, to those who are near or to all, what is of use. -/
def Speech.honest (eth : EtherAddress) (near : EtherAddress → Prop) : Speech where
  posts draft := draft.source = eth ∧ draft.Usable ∧ near draft.target
  announces draft := draft.source = eth ∧ draft.Usable
  rejects _ := False

namespace MeshNode

variable {μ : Type} [Medium μ] {n : MeshNode} {air : Air μ} {next : MeshNode × Air μ}
  {near : EtherAddress → Prop} {eth : EtherAddress} {frame : Frame}

theorem maySpeak_honest (discreet : n.prober.Discreet near) (own : ∀ e, n.Signs e → e = eth)
    (now : Time) : n.MaySpeak (.honest eth near) now where
  discovery := ⟨own n.rates.eth (by simp [Signs, addresses]), n.rates.usable_nextDraft now⟩
  advert _ := ⟨own n.routes.eth (by simp [Signs, addresses]), RouteTable.usable_advertDraft _ _⟩
  probes peer member := by
    have mine := own n.prober.eth (by simp [Signs, addresses])
    have close := discreet.neighbors peer member
    exact ⟨fun report => ⟨mine, Prober.usable_pairDraft discreet.first _ report, close⟩,
      fun report => ⟨mine, Prober.usable_pairDraft discreet.second _ report, close⟩⟩

theorem mayAnswer_honest (own : ∀ e, n.Signs e → e = eth) (usable : frame.Usable)
    (close : near frame.source) : n.MayAnswer (.honest eth near) frame where
  replies micros := by
    have mine := own n.prober.eth (by simp [Signs, addresses])
    exact ⟨mine, n.prober.usable_replyDraft _ micros, close⟩
  refuses useless := useless usable

theorem keeps_onTimer {kind : TimerKind} (done : n.onTimer kind air = .ok next) :
    n.prober.Keeps next.1.prober := by
  have may : ∀ peer ∈ n.prober.neighbors.keys,
      n.prober.MayProbe (.signed fun _ => True) peer := fun peer _ => .signed trivial peer
  cases kind with
  | probeRound =>
    cases done
    have acts : Prober.Acts (Deed.Within True _) n.slots n.prober air _ _ :=
      Prober.acts_onRoundTimer may
    exact acts.toKeeps
  | probeNext =>
    cases done
    have acts : Prober.Acts (Deed.Within True _) n.slots n.prober air _ _ :=
      Prober.acts_probeNext may
    exact acts.toKeeps
  | expiry ip =>
    obtain ⟨⟨t, sim⟩, -, rfl⟩ := ok_of_map done
    exact .refl _
  | discovery => cases done; exact .refl _
  | advert => cases done; exact .refl _
  | trigger => cases done; exact .refl _
  | routeDump => cases done; exact .refl _

private theorem discreet_onFrame (discreet : n.prober.Discreet near) (close : near frame.source)
    (done : n.onFrame frame air = .ok next) : next.1.prober.Discreet near := by
  cases takes_onFrame done with
  | discovery => exact discreet.onDiscovery close air.now
  | probing _ other => exact discreet.kept (n.prober.keeps_onFrame other air)
  | advert => exact discreet.kept (.of_eq rfl rfl rfl rfl)
  | ignored => exact discreet
  | rejected => exact discreet

theorem discreet_onEvent {event : MeshEvent} (discreet : n.prober.Discreet near)
    (close : ∀ frame, event = .arrival n.id frame → near frame.source)
    (done : n.onEvent air event = .ok next) : next.1.prober.Discreet near := by
  cases handles_onEvent done with
  | timer done => exact discreet.kept (keeps_onTimer done)
  | arrival done => exact discreet_onFrame discreet (close _ rfl) done
  | elsewhere => exact discreet

theorem addresses_start (n : MeshNode) (sim : Simulator MeshEvent) :
    (n.start sim).1.addresses = n.addresses := by
  have routes (t : RouteTable) (sim : Simulator MeshEvent) : (t.start sim).1.eth = t.eth := by
    unfold RouteTable.start RouteTable.armDump
    simp only
    split
    · rfl
    · rfl
  exact congrArg (fun last => [n.eth, n.rates.eth, n.prober.eth, last]) (routes n.routes _)

theorem addresses_drainLog (n : MeshNode) :
    { n with routes := n.routes.drainLog.2 }.addresses = n.addresses := by
  obtain ⟨log, same⟩ := n.routes.drainLog_eq
  rw [same]
  rfl

theorem keeps_start (n : MeshNode) (sim : Simulator MeshEvent) :
    n.prober.Keeps (n.start sim).1.prober := .of_eq rfl rfl rfl rfl

theorem keeps_shutdown (n : MeshNode) (sim : Simulator MeshEvent) :
    n.prober.Keeps (n.shutdown sim).1.prober := .of_eq rfl rfl rfl rfl

theorem keeps_linkReport (n : MeshNode) (peer : EtherAddress) (now : Time) :
    n.prober.Keeps (n.linkReport peer now).2.prober := .of_eq rfl rfl rfl rfl

end MeshNode

end WirelessMesh
