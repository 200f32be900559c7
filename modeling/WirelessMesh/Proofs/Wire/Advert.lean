import Mathlib
import WirelessMesh.Wire.Advert
import WirelessMesh.Proofs.Wire.Records

namespace WirelessMesh

namespace AdvertEntry

theorem decodeMany_cons (count : Nat) (entry : AdvertEntry) (rest : Bytes) :
    decodeMany (count + 1) (entry.encode ++ rest) = entry :: decodeMany count rest := by
  obtain ⟨⟨_, _, _, _⟩, ⟨_, _, _, _, _, _⟩, seq, hops, metric, ttl⟩ := entry
  have number := BigEndian.word32_bytes32 seq
  have lasting := BigEndian.word32_bytes32 ttl
  simp only [encode, IPv4.octets, EtherAddress.octets, BigEndian.bytes32, List.cons_append,
    List.nil_append, decodeMany, number, lasting]

private theorem decodeMany_encode (entries : List AdvertEntry) :
    ∀ {count : Nat}, count ≤ entries.length →
      decodeMany count (entries.map encode).flatten = entries.take count := by
  induction entries with
  | nil =>
    intro count le
    obtain rfl : count = 0 := Nat.le_zero.mp le
    rfl
  | cons entry rest ih =>
    intro count le
    cases count with
    | zero => rfl
    | succ count =>
      rw [List.map_cons, List.flatten_cons, decodeMany_cons, ih (Nat.le_of_succ_le_succ le),
        List.take_succ_cons]

theorem records : Records size encode decodeMany where
  length_encode _ := rfl
  read_none bytes := by cases bytes <;> rfl
  read_next := decodeMany_cons
  written bytes length := by
    obtain ⟨i, j, k, l, a, b, c, d, e, f, s0, s1, s2, s3, hops, metric, t0, t1, t2, t3, rfl⟩ :
        ∃ i j k l a b c d e f s0 s1 s2 s3 hops metric t0 t1 t2 t3, bytes =
          [i, j, k, l, a, b, c, d, e, f, s0, s1, s2, s3, hops, metric, t0, t1, t2, t3] := by
      match bytes, length with
      | [i, j, k, l, a, b, c, d, e, f, s0, s1, s2, s3, hops, metric, t0, t1, t2, t3], _ =>
        exact ⟨i, j, k, l, a, b, c, d, e, f, s0, s1, s2, s3, hops, metric, t0, t1, t2, t3, rfl⟩
    refine ⟨⟨⟨i, j, k, l⟩, ⟨a, b, c, d, e, f⟩, BigEndian.word32 s0 s1 s2 s3, hops, metric,
      BigEndian.word32 t0 t1 t2 t3⟩, ?_⟩
    rw [encode, BigEndian.bytes32_word32, BigEndian.bytes32_word32]
    rfl

end AdvertEntry

/-- An advert is read back up to the count of its entries, which wraps at sixteen bits. -/
theorem RouteAdvert.decode_encode (advert : RouteAdvert) :
    decode advert.encode = .ok ⟨advert.entries.take (advert.entries.length % 0x1_0000)⟩ := by
  have wraps : (UInt16.ofNat advert.entries.length).toNat = advert.entries.length % 0x1_0000 :=
    UInt16.toNat_ofNat'
  have count := congrArg UInt16.toNat
    (BigEndian.word16_bytes16 (UInt16.ofNat advert.entries.length))
  rw [wraps] at count
  have le := Nat.mod_le advert.entries.length 0x1_0000
  have there : ¬ (advert.entries.map AdvertEntry.encode).flatten.length <
      advert.entries.length % 0x1_0000 * AdvertEntry.size := by
    rw [AdvertEntry.records.length_flatten, Nat.not_lt]
    exact Nat.mul_le_mul_right _ le
  simp only [encode, BigEndian.bytes16, List.cons_append, List.nil_append, decode, wraps, count]
  rw [if_neg there, AdvertEntry.decodeMany_encode advert.entries le]

end WirelessMesh
