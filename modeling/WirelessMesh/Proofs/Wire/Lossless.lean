import Mathlib
import WirelessMesh.Wire.Discovery
import WirelessMesh.Wire.Probe
import WirelessMesh.Proofs.Wire.Advert

namespace WirelessMesh

variable {α : Type}

/-- A value is read back from any buffer with room for it. Writing it answers its size, and fills so many
bytes at the start of the buffer and no others. -/
def ReadsBack (encode : α → Bytes) (decode : Bytes → Except WireError α) (size : Nat) (value : α) :
    Prop :=
  (encode value).length = size ∧ ∀ buffer : Bytes, size ≤ buffer.length →
    ∃ filled, writeInto (encode value) buffer = some (size, filled) ∧
      filled.length = buffer.length ∧ filled.drop size = buffer.drop size ∧ decode filled = .ok value

theorem ReadsBack.of_append {encode : α → Bytes} {decode : Bytes → Except WireError α} {size : Nat}
    {value : α} (length : (encode value).length = size)
    (back : ∀ rest, decode (encode value ++ rest) = .ok value) :
    ReadsBack encode decode size value := by
  refine ⟨length, fun buffer room => ⟨encode value ++ buffer.drop size, ?_, ?_, ?_, back _⟩⟩
  · rw [writeInto, overwrite, length, if_pos room, Option.map_some]
  · rw [List.length_append, List.length_drop, length, Nat.add_sub_cancel' room]
  · rw [← length, List.drop_left]

theorem ReadsBack.decode_append {encode : α → Bytes} {decode : Bytes → Except WireError α} {size : Nat}
    {value : α} (back : ReadsBack encode decode size value) (rest : Bytes) :
    decode (encode value ++ rest) = .ok value := by
  obtain ⟨length, reads⟩ := back
  have room : (encode value).length ≤ (encode value ++ rest).length := by simp
  obtain ⟨filled, put, -, -, read⟩ := reads (encode value ++ rest) (length ▸ room)
  rw [writeInto, overwrite, if_pos room, List.drop_left, Option.map_some] at put
  obtain ⟨-, rfl⟩ := Prod.mk.inj (Option.some.inj put)
  exact read

/-- Bytes are read exactly if there are as many as they need by their own account; the value is then
written as just these bytes, and else the error says how many are needed and how many there are. -/
def ReadsExactly (encode : α → Bytes) (decode : Bytes → Except WireError α) (needed : Bytes → Nat) :
    Prop :=
  ∀ bytes : Bytes,
    (needed bytes ≤ bytes.length →
      ∃ value, decode bytes = .ok value ∧ encode value = bytes.take (needed bytes)) ∧
    (bytes.length < needed bytes →
      decode bytes = .error (.truncated (needed bytes) bytes.length))

/-- The count in the two bytes at a place, none if the bytes end before. -/
def countAt (place : Nat) (bytes : Bytes) : Option Nat :=
  match bytes.drop place with
  | high :: low :: _ => some (BigEndian.word16 high low).toNat
  | _ => none

/-- How many bytes are needed by entries of one size behind a header that ends with their count:
the header, and once this is there what the count announces. -/
def announcedSize (place size : Nat) (bytes : Bytes) : Nat :=
  place + 2 + (countAt place bytes).getD 0 * size

theorem toNat_count {count : Nat} (fits : count ≤ 0xffff) : (UInt16.ofNat count).toNat = count := by
  rw [UInt16.toNat_ofNat']
  exact Nat.mod_eq_of_lt (Nat.lt_succ_of_le fits)

/-- A count that fits sixteen bits is read back from its two bytes. -/
theorem word16_count {count : Nat} (fits : count ≤ 0xffff) :
    (BigEndian.word16 (UInt8.ofNat (count / 256)) (UInt8.ofNat count)).toNat = count := by
  have back := BigEndian.word16_bytes16 (UInt16.ofNat count)
  rw [toNat_count fits] at back
  rw [back, toNat_count fits]

theorem bytes16_length (high low : UInt8) (count : Nat)
    (is : (BigEndian.word16 high low).toNat = count) :
    BigEndian.bytes16 (UInt16.ofNat count) = [high, low] := by
  rw [← is, UInt16.ofNat_toNat, BigEndian.bytes16_word16]

private theorem RateEntry.bytes_of_size {bytes : Bytes} (length : bytes.length = RateEntry.size) :
    ∃ a b c d e f high low, bytes = [a, b, c, d, e, f, high, low] := by
  match bytes, length with
  | [a, b, c, d, e, f, high, low], _ => exact ⟨a, b, c, d, e, f, high, low, rfl⟩

theorem RateEntry.records : Records RateEntry.size RateEntry.encode RateEntry.decodeMany where
  length_encode _ := rfl
  read_none bytes := by cases bytes <;> rfl
  read_next count entry rest := by
    obtain ⟨⟨_, _, _, _, _, _⟩, percent⟩ := entry
    simp only [RateEntry.encode, EtherAddress.octets, BigEndian.bytes16, List.cons_append,
      List.nil_append, RateEntry.decodeMany, BigEndian.word16_bytes16]
  written bytes length := by
    obtain ⟨a, b, c, d, e, f, high, low, rfl⟩ := bytes_of_size length
    refine ⟨⟨⟨a, b, c, d, e, f⟩, BigEndian.word16 high low⟩, ?_⟩
    rw [RateEntry.encode, BigEndian.bytes16_word16]
    rfl

namespace RouteAdvert

private theorem read_back (advert : RouteAdvert) (fits : advert.entries.length ≤ 0xffff) :
    ReadsBack encode decode advert.encodedSize advert := by
  refine .of_append ?_ fun rest => ?_
  · rw [encode, List.length_append, AdvertEntry.records.length_flatten]
    rfl
  · have enough : ¬ ((advert.entries.map AdvertEntry.encode).flatten ++ rest).length <
        advert.entries.length * AdvertEntry.size := by
      rw [List.length_append, AdvertEntry.records.length_flatten]
      omega
    simp only [encode, BigEndian.bytes16, List.cons_append, List.nil_append, decode,
      toNat_count fits, word16_count fits, if_neg enough, AdvertEntry.records.read_written]

private theorem read_exactly : ReadsExactly encode decode (announcedSize 0 AdvertEntry.size) := by
  intro bytes
  match bytes with
  | [] => exact ⟨fun enough => absurd enough (by decide), fun _ => rfl⟩
  | [_] => exact ⟨fun enough => absurd enough (by simp [announcedSize, countAt]), fun _ => rfl⟩
  | high :: low :: rest =>
    have needed : announcedSize 0 AdvertEntry.size (high :: low :: rest) =
        headerSize + (BigEndian.word16 high low).toNat * AdvertEntry.size := rfl
    have available : (high :: low :: rest).length = headerSize + rest.length := by
      simp only [List.length_cons, headerSize]
      omega
    rw [needed, available]
    refine ⟨fun enough => ?_, fun short => if_pos (by omega)⟩
    have enough : (BigEndian.word16 high low).toNat * AdvertEntry.size ≤ rest.length := by omega
    obtain ⟨back, length⟩ := AdvertEntry.records.written_read _ enough
    refine ⟨_, if_neg (Nat.not_lt.mpr enough), ?_⟩
    rw [encode, back, bytes16_length high low _ length.symm, Nat.add_comm headerSize]
    rfl

end RouteAdvert

namespace DiscoveryProbe

theorem read_back (probe : DiscoveryProbe) (fits : probe.entries.length ≤ 0xffff) :
    ReadsBack encode decode probe.encodedSize probe := by
  refine .of_append ?_ fun rest => ?_
  · rw [encode, List.length_append, RateEntry.records.length_flatten]
    rfl
  · have enough : ¬ ((probe.entries.map RateEntry.encode).flatten ++ rest).length <
        probe.entries.length * RateEntry.size := by
      rw [List.length_append, RateEntry.records.length_flatten]
      omega
    simp only [encode, BigEndian.bytes32, BigEndian.bytes16, List.cons_append, List.nil_append,
      decode, BigEndian.word32_bytes32, toNat_count fits, word16_count fits, if_neg enough,
      RateEntry.records.read_written]

theorem read_exactly : ReadsExactly encode decode (announcedSize 8 RateEntry.size) := by
  intro bytes
  match bytes with
  | s0 :: s1 :: s2 :: s3 :: p0 :: p1 :: p2 :: p3 :: high :: low :: rest =>
    have needed : announcedSize 8 RateEntry.size (s0 :: s1 :: s2 :: s3 :: p0 :: p1 :: p2 :: p3 ::
        high :: low :: rest) =
        headerSize + (BigEndian.word16 high low).toNat * RateEntry.size := rfl
    have available : (s0 :: s1 :: s2 :: s3 :: p0 :: p1 :: p2 :: p3 :: high :: low :: rest).length =
        headerSize + rest.length := by
      simp only [List.length_cons, headerSize]
      omega
    rw [needed, available]
    refine ⟨fun enough => ?_, fun short => if_pos (by omega)⟩
    have enough : (BigEndian.word16 high low).toNat * RateEntry.size ≤ rest.length := by omega
    obtain ⟨back, length⟩ := RateEntry.records.written_read _ enough
    refine ⟨_, if_neg (Nat.not_lt.mpr enough), ?_⟩
    rw [encode, back, bytes16_length high low _ length.symm, BigEndian.bytes32_word32,
      BigEndian.bytes32_word32, Nat.add_comm headerSize]
    rfl
  | [] | [_] | [_, _] | [_, _, _] | [_, _, _, _] | [_, _, _, _, _] | [_, _, _, _, _, _]
  | [_, _, _, _, _, _, _] | [_, _, _, _, _, _, _, _] | [_, _, _, _, _, _, _, _, _] =>
    -- No count is there, so the header alone is asked for.
    exact ⟨fun enough => absurd enough (by simp [announcedSize, countAt]), fun _ => rfl⟩

end DiscoveryProbe

namespace FrameHeader

theorem decode_append (header : FrameHeader) (rest : Bytes) :
    decode (header.encode ++ rest) = .ok header := by
  obtain ⟨⟨_, _, _, _, _, _⟩, ⟨_, _, _, _, _, _⟩, type⟩ := header
  simp only [encode, EtherAddress.octets, BigEndian.bytes16, List.cons_append, List.nil_append,
    decode, BigEndian.word16_bytes16]

private theorem read_back (header : FrameHeader) : ReadsBack encode decode size header :=
  .of_append rfl header.decode_append

private theorem read_exactly : ReadsExactly encode decode fun _ => size := by
  intro bytes
  match bytes with
  | a :: b :: c :: d :: e :: f :: a' :: b' :: c' :: d' :: e' :: f' :: high :: low :: rest =>
    refine ⟨fun _ => ⟨_, rfl, ?_⟩, fun short => absurd short (by simp [size])⟩
    rw [encode, BigEndian.bytes16_word16]
    rfl
  | [] | [_] | [_, _] | [_, _, _] | [_, _, _, _] | [_, _, _, _, _] | [_, _, _, _, _, _]
  | [_, _, _, _, _, _, _] | [_, _, _, _, _, _, _, _] | [_, _, _, _, _, _, _, _, _]
  | [_, _, _, _, _, _, _, _, _, _] | [_, _, _, _, _, _, _, _, _, _, _]
  | [_, _, _, _, _, _, _, _, _, _, _, _] | [_, _, _, _, _, _, _, _, _, _, _, _, _] =>
    exact ⟨fun enough => absurd enough (by simp [size]), fun _ => rfl⟩

end FrameHeader

theorem LinkProbe.read_back (probe : LinkProbe) : ReadsBack encode decode size probe := by
  refine .of_append rfl fun rest => ?_
  simp only [encode, BigEndian.bytes16, List.cons_append, List.nil_append, decode,
    BigEndian.word16_bytes16]

theorem DelayReport.read_back (report : DelayReport) : ReadsBack encode decode size report := by
  obtain ⟨⟨_, _, _, _, _, _⟩, micros⟩ := report
  refine .of_append rfl fun rest => ?_
  simp only [encode, EtherAddress.octets, BigEndian.bytes16, List.cons_append, List.nil_append,
    decode, BigEndian.word16_bytes16]

namespace Frame

private theorem decode_own_encode (frame : Frame) : decode frame.id frame.encode = .ok frame := by
  rw [decode, encode, FrameHeader.decode_append]
  rfl

private theorem encode_of_bytes (id : UInt64) {bytes : Bytes} (enough : FrameHeader.size ≤ bytes.length) :
    ∃ frame, decode id bytes = .ok frame ∧ frame.id = id ∧ frame.encode = bytes := by
  obtain ⟨header, read, written⟩ := (FrameHeader.read_exactly bytes).1 enough
  refine ⟨⟨id, header.target, header.source, header.type, bytes.drop FrameHeader.size⟩, ?_, rfl, ?_⟩
  · rw [decode, read]
    rfl
  · change header.encode ++ bytes.drop FrameHeader.size = bytes
    rw [written, List.take_append_drop]

end Frame

/-- What is written is read back and what is read is written back: adverts and discovery frames, as
long as sixteen bits hold the number of their entries, headers, probes, delay reports and frames. -/
theorem formats_lossless :
    (∀ advert : RouteAdvert, advert.entries.length ≤ 0xffff →
      ReadsBack RouteAdvert.encode RouteAdvert.decode advert.encodedSize advert) ∧
    (∀ probe : DiscoveryProbe, probe.entries.length ≤ 0xffff →
      ReadsBack DiscoveryProbe.encode DiscoveryProbe.decode probe.encodedSize probe) ∧
    (∀ header, ReadsBack FrameHeader.encode FrameHeader.decode FrameHeader.size header) ∧
    (∀ probe, ReadsBack LinkProbe.encode LinkProbe.decode LinkProbe.size probe) ∧
    (∀ report, ReadsBack DelayReport.encode DelayReport.decode DelayReport.size report) ∧
    ReadsExactly RouteAdvert.encode RouteAdvert.decode (announcedSize 0 AdvertEntry.size) ∧
    ReadsExactly DiscoveryProbe.encode DiscoveryProbe.decode (announcedSize 8 RateEntry.size) ∧
    (∀ frame : Frame, Frame.decode frame.id frame.encode = .ok frame) ∧
    (∀ (id : UInt64) (bytes : Bytes), FrameHeader.size ≤ bytes.length →
      ∃ frame, Frame.decode id bytes = .ok frame ∧ frame.id = id ∧ frame.encode = bytes) :=
  ⟨RouteAdvert.read_back, DiscoveryProbe.read_back, FrameHeader.read_back, LinkProbe.read_back,
    DelayReport.read_back, RouteAdvert.read_exactly, DiscoveryProbe.read_exactly,
    Frame.decode_own_encode, fun id _ enough => Frame.encode_of_bytes id enough⟩

/-- An advert of two destinations, written over a buffer with three bytes to spare. -/
theorem advert_of_two_read_back :
    ∃ filled, writeInto (RouteAdvert.encode
        ⟨[⟨⟨10, 0, 0, 1⟩, .ofIndex 1, 2, 0, 0, 60000⟩, ⟨⟨10, 0, 0, 2⟩, .ofIndex 2, 7, 1, 0xff, 500⟩]⟩)
        (List.replicate 45 0xaa) = some (42, filled) ∧
      filled.length = 45 ∧ filled.drop 42 = [0xaa, 0xaa, 0xaa] ∧
      RouteAdvert.decode filled = .ok
        ⟨[⟨⟨10, 0, 0, 1⟩, .ofIndex 1, 2, 0, 0, 60000⟩,
          ⟨⟨10, 0, 0, 2⟩, .ofIndex 2, 7, 1, 0xff, 500⟩]⟩ :=
  (formats_lossless.1 _ (by decide)).2 (List.replicate 45 0xaa) (by decide)

end WirelessMesh
