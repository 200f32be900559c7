import Mathlib
import WirelessMesh.Route.Table

namespace WirelessMesh

/-- Whether hops, number, metric and next hop of a row go together. -/
structure RouteRow.Coherent (r : RouteRow) : Prop where
  parity : r.hops = 0 ↔ isOddSeq r.seq = true
  broken : r.hops = 0 → r.metric = .bad
  oneHop : r.hops = 1 → r.nextHopIp = r.ip ∧ r.nextHopEth = r.eth

namespace RouteRow

variable {r : RouteRow}

theorem isBroken_iff : r.isBroken = true ↔ r.hops = 0 := by
  simp [isBroken]

theorem isGood_iff : r.isGood = true ↔ r.hops ≠ 0 ∧ r.metric ≠ .bad := by
  cases h : r.metric <;> simp [isGood, isBroken, Metric.isGood, h]

private theorem parity_iff :
    ((r.hops != 0) == isOddSeq r.seq) = false ↔ (r.hops = 0 ↔ isOddSeq r.seq = true) := by
  by_cases gone : r.hops = 0 <;> cases isOddSeq r.seq <;> simp [gone]

theorem check_ok (sound : r.check = .ok ()) : r.Coherent ∧ r.eth.isBroadcast = false := by
  unfold check at sound
  split at sound
  · cases sound
  · next parity =>
    split at sound
    · cases sound
    · next broken =>
      split at sound
      · cases sound
      · next oneHop =>
        split at sound
        · cases sound
        · next unicast =>
          refine ⟨⟨parity_iff.mp (by simpa using parity), ?_, ?_⟩,
            by simpa using unicast⟩
          · intro gone
            cases metric : r.metric with
            | bad => rfl
            | good cost => simp [isBroken, Metric.isGood, gone, metric] at broken
          · intro one
            by_contra other
            exact oneHop ⟨one, other⟩

/-- Of a coherent row only the destination's address can be wrong. -/
theorem Coherent.check (coherent : r.Coherent) :
    r.check = if r.eth.isBroadcast then .error .broadcastDestination else .ok () := by
  have parity : ¬ ((r.hops != 0) == isOddSeq r.seq) = true := by
    rw [parity_iff.mpr coherent.parity]
    exact Bool.false_ne_true
  have broken : ¬ (r.isBroken && r.metric.isGood) = true := by
    simp only [Bool.and_eq_true, isBroken_iff, not_and]
    intro gone
    simp [coherent.broken gone, Metric.isGood]
  have oneHop : ¬ (r.hops = 1 ∧ ¬ (r.nextHopIp = r.ip ∧ r.nextHopEth = r.eth)) :=
    fun other => other.2 (coherent.oneHop other.1)
  rw [RouteRow.check, if_neg parity, if_neg broken, if_neg oneHop]

theorem check_eq_ok_iff : r.check = .ok () ↔ r.Coherent ∧ r.eth.isBroadcast = false := by
  refine ⟨check_ok, fun sound => ?_⟩
  rw [sound.1.check, if_neg (by simp [sound.2])]

theorem isOddSeq_iff {seq : UInt32} : isOddSeq seq = true ↔ seq.toNat % 2 = 1 := by
  simp [isOddSeq]

theorem isOddSeq_false_iff {seq : UInt32} : isOddSeq seq = false ↔ seq.toNat % 2 = 0 := by
  simp [isOddSeq]

theorem toNat_seq_invalidate (now : Time) :
    (r.invalidate now).seq.toNat = if isOddSeq r.seq then r.seq.toNat else r.seq.toNat + 1 := by
  unfold invalidate
  split
  · rfl
  · next even =>
    have bound := r.seq.toNat_lt
    rw [Bool.not_eq_true, isOddSeq_false_iff] at even
    rw [UInt32.toNat_add]
    simp only [UInt32.toNat_one]
    omega

theorem isOddSeq_invalidate (now : Time) : isOddSeq (r.invalidate now).seq = true := by
  rw [isOddSeq_iff, toNat_seq_invalidate]
  split
  · next odd => exact isOddSeq_iff.mp odd
  · next even =>
    rw [Bool.not_eq_true, isOddSeq_false_iff] at even
    omega

theorem seq_le_invalidate (now : Time) : r.seq ≤ (r.invalidate now).seq := by
  rw [UInt32.le_iff_toNat_le, toNat_seq_invalidate]
  split <;> omega

/-- Breaking a coherent row that is not broken raises its number. -/
theorem Coherent.seq_lt_invalidate (coherent : r.Coherent) (whole : r.hops ≠ 0) (now : Time) :
    r.seq < (r.invalidate now).seq := by
  have even : ¬ isOddSeq r.seq = true := fun odd => whole (coherent.parity.mpr odd)
  rw [UInt32.lt_iff_toNat_lt, toNat_seq_invalidate, if_neg even]
  omega

end RouteRow

namespace RouteTable

variable {t : RouteTable} {me e : AdvertEntry} {now : Time}

theorem brokenRow_coherent (t : RouteTable) (r : RouteRow) (now : Time) :
    (t.brokenRow r now).Coherent :=
  ⟨⟨fun _ => RouteRow.isOddSeq_invalidate now, fun _ => rfl⟩, fun _ => rfl, nofun⟩

theorem brokenRow_renumbered_coherent (t : RouteTable) (r : RouteRow) (now : Time) {seq : UInt32}
    (odd : isOddSeq seq = true) : { t.brokenRow r now with seq }.Coherent :=
  ⟨⟨fun _ => odd, fun _ => rfl⟩, fun _ => rfl, nofun⟩

theorem neighborRow_coherent (even : isOddSeq me.seq = false) (metric : Metric) :
    { t.neighborRow me now with metric }.Coherent := by
  refine ⟨⟨nofun, fun odd => ?_⟩, nofun, fun _ => ⟨rfl, rfl⟩⟩
  have same : isOddSeq me.seq = true := odd
  rw [even] at same
  cases same

private theorem toNat_nextHops (hops : UInt8) : (nextHops hops).toNat = min (hops.toNat + 1) 255 := by
  rw [nextHops, UInt8.toNat_ofNat']
  exact Nat.mod_eq_of_lt (by omega)

theorem two_le_relayed_hops (far : e.hops ≠ 0) (link : Metric) :
    2 ≤ (t.relayedRow me e link now).hops.toNat := by
  show 2 ≤ (nextHops e.hops).toNat
  have positive : e.hops.toNat ≠ 0 := fun zero => far (UInt8.toNat_inj.mp zero)
  rw [toNat_nextHops]
  omega

theorem relayedRow_coherent (far : e.hops ≠ 0) (even : isOddSeq e.seq = false) (link : Metric) :
    (t.relayedRow me e link now).Coherent := by
  have two : 2 ≤ (t.relayedRow me e link now).hops.toNat := two_le_relayed_hops far link
  have many : (t.relayedRow me e link now).hops ≠ 0 := by
    intro zero
    rw [zero] at two
    exact absurd two (by decide)
  refine ⟨⟨fun gone => absurd gone many, ?_⟩, fun gone => absurd gone many, ?_⟩
  · intro odd
    have same : isOddSeq e.seq = true := odd
    rw [even] at same
    cases same
  · intro one
    rw [one] at two
    exact absurd two (by decide)

end RouteTable

end WirelessMesh
