import Mathlib
import WirelessMesh.Wire.Bytes

namespace WirelessMesh

variable {α : Type}

/-- The writer of an entry and the reader of many fit together at entries of one size. -/
structure Records (size : Nat) (encode : α → Bytes) (decodeMany : Nat → Bytes → List α) : Prop where
  length_encode : ∀ entry, (encode entry).length = size
  read_none : ∀ bytes, decodeMany 0 bytes = []
  read_next : ∀ count entry rest,
    decodeMany (count + 1) (encode entry ++ rest) = entry :: decodeMany count rest
  /-- Any bytes of the size are the written form of some entry. -/
  written : ∀ bytes : Bytes, bytes.length = size → ∃ entry, encode entry = bytes

namespace Records

variable {size : Nat} {encode : α → Bytes} {decodeMany : Nat → Bytes → List α}
  (records : Records size encode decodeMany)

include records

theorem length_flatten (entries : List α) :
    (entries.map encode).flatten.length = entries.length * size := by
  induction entries with
  | nil => rw [List.map_nil, List.flatten_nil, List.length_nil, List.length_nil, Nat.zero_mul]
  | cons entry rest ih =>
    rw [List.map_cons, List.flatten_cons, List.length_append, ih, records.length_encode,
      List.length_cons, Nat.succ_mul, Nat.add_comm]

theorem read_written (entries : List α) (rest : Bytes) :
    decodeMany entries.length ((entries.map encode).flatten ++ rest) = entries := by
  induction entries with
  | nil => exact records.read_none rest
  | cons entry entries ih =>
    rw [List.map_cons, List.flatten_cons, List.append_assoc, List.length_cons, records.read_next,
      ih]

/-- What the reader made of enough bytes is written back as the bytes it read. -/
theorem written_read (count : Nat) : ∀ {bytes : Bytes}, count * size ≤ bytes.length →
    ((decodeMany count bytes).map encode).flatten = bytes.take (count * size) ∧
      (decodeMany count bytes).length = count := by
  induction count with
  | zero =>
    intro bytes _
    rw [records.read_none, Nat.zero_mul, List.take_zero]
    exact ⟨rfl, rfl⟩
  | succ count ih =>
    intro bytes enough
    rw [Nat.succ_mul] at enough
    have first : (bytes.take size).length = size := by rw [List.length_take]; omega
    obtain ⟨entry, there⟩ := records.written _ first
    -- The first entry's bytes are split off, so that the reader sees what the writer put there.
    have split : bytes = encode entry ++ bytes.drop size := by
      rw [there, List.take_append_drop]
    have others : count * size ≤ (bytes.drop size).length := by rw [List.length_drop]; omega
    obtain ⟨back, length⟩ := ih others
    have read : decodeMany (count + 1) bytes = entry :: decodeMany count (bytes.drop size) := by
      conv_lhs => rw [split]
      exact records.read_next count entry _
    rw [read, List.map_cons, List.flatten_cons, back, there, List.length_cons, length,
      Nat.succ_mul, Nat.add_comm (count * size) size, List.take_add]
    exact ⟨rfl, rfl⟩

end Records

end WirelessMesh
