import WirelessMesh.Probing.Prober

namespace WirelessMesh

namespace Directory

universe u v

variable {κ : Type u} {ν : Type v} [Ranked κ] {d : Directory κ ν} {k key : κ} {value : ν}

theorem keys_map (d : Directory κ ν) (change : κ → ν → ν) : (d.map change).keys = d.keys := by
  rw [keys, map, List.map_map]
  rfl

private theorem keys_filter (d : Directory κ ν) (keep : κ → ν → Bool) : (d.filter keep).keys ⊆ d.keys :=
  fun _ member => (List.filter_sublist.map _).subset member

private theorem mem_keys_insert (member : key ∈ (d.insert k value).keys) : key = k ∨ key ∈ d.keys := by
  obtain ⟨e, among, rfl⟩ := List.mem_map.mp member
  rcases mem_place among with rfl | before
  · exact .inl rfl
  · exact .inr (List.mem_map_of_mem before)

end Directory

namespace NeighborTable

variable {t : NeighborTable} {peer : EtherAddress}

theorem mem_keys_hear {other : EtherAddress} {now : Time} (member : other ∈ (t.hear peer now).keys) :
    other = peer ∨ other ∈ t.keys :=
  Directory.mem_keys_insert member

theorem keys_sweep (t : NeighborTable) (cutoff : Time) : (t.sweep cutoff).keys ⊆ t.keys :=
  Directory.keys_filter _ _

theorem keys_clearProbed (t : NeighborTable) : t.clearProbed.keys = t.keys :=
  Directory.keys_map _ _

theorem keys_markProbed (t : NeighborTable) (peer : EtherAddress) : (t.markProbed peer).keys = t.keys :=
  Directory.keys_map _ _

theorem mem_keys_of_unprobed (next : t.unprobed? = some peer) : peer ∈ t.keys := by
  obtain ⟨e, found, rfl⟩ := Option.map_eq_some_iff.mp next
  exact List.mem_map_of_mem (List.mem_of_find?_eq_some found)

end NeighborTable

namespace Prober

/-- One frame of a pair before it has a number. -/
def pairDraft (p : Prober) (peer : EtherAddress) (seq : UInt16) (size : Nat)
    (report : Option DelayReport) : Draft :=
  ⟨peer, p.eth, FrameType.probe, probePayload seq size report⟩

/-- A reply before it has a number. -/
def replyDraft (p : Prober) (peer : EtherAddress) (micros : Nat) : Draft :=
  ⟨peer, p.eth, FrameType.probeReply, padTo (replyFrameSize - FrameHeader.size)
    ((LinkProbe.mk 1).encode ++ (DelayReport.mk peer (UInt16.ofNat micros)).encode)⟩

/-- A pair is two frames, one right behind the other. -/
theorem sendPair_eq {μ : Type} [Medium μ] (p : Prober) (peer : EtherAddress) (air : Air μ) :
    let report := (p.pendingReport peer air.now).1
    (p.sendPair peer air).2 =
      (air.post p.node (p.pairDraft peer 1 p.config.firstSize report)).post p.node
        (p.pairDraft peer 2 p.config.secondSize report) := by
  unfold sendPair pendingReport
  cases p.config.reply <;> rfl

end Prober

end WirelessMesh
