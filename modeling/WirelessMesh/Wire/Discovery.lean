import WirelessMesh.Wire.Frame

namespace WirelessMesh

/-- The share of a peer's discovery frames that the sender heard, in percent. -/
structure RateEntry where
  peer : EtherAddress
  percent : UInt16
  deriving DecidableEq

namespace RateEntry

def size : Nat := 8

def encode (entry : RateEntry) : Bytes := entry.peer.octets ++ BigEndian.bytes16 entry.percent

/-- Reads entries one after another, as many as are asked for and are there in full. -/
def decodeMany : Nat → Bytes → List RateEntry
  | count + 1, a :: b :: c :: d :: e :: f :: high :: low :: rest =>
    ⟨⟨a, b, c, d, e, f⟩, BigEndian.word16 high low⟩ :: decodeMany count rest
  | _, _ => []

end RateEntry

/-- A discovery frame's payload. -/
structure DiscoveryProbe where
  seq : UInt32
  periodMillis : UInt32
  entries : List RateEntry
  deriving DecidableEq

namespace DiscoveryProbe

def headerSize : Nat := 10

def encodedSize (probe : DiscoveryProbe) : Nat := headerSize + probe.entries.length * RateEntry.size

/-- The written form; the count of entries is kept to 16 bits. -/
def encode (probe : DiscoveryProbe) : Bytes :=
  BigEndian.bytes32 probe.seq ++ BigEndian.bytes32 probe.periodMillis
    ++ BigEndian.bytes16 (UInt16.ofNat probe.entries.length)
    ++ (probe.entries.map RateEntry.encode).flatten

/-- Reads the header and as many entries as it announces; bytes behind them are ignored. -/
def decode : Bytes → Except WireError DiscoveryProbe
  | s0 :: s1 :: s2 :: s3 :: p0 :: p1 :: p2 :: p3 :: high :: low :: rest =>
    let count := (BigEndian.word16 high low).toNat
    if rest.length < count * RateEntry.size then
      .error (.truncated (headerSize + count * RateEntry.size) (headerSize + rest.length))
    else
      .ok ⟨BigEndian.word32 s0 s1 s2 s3, BigEndian.word32 p0 p1 p2 p3,
        RateEntry.decodeMany count rest⟩
  | bytes => .error (.truncated headerSize bytes.length)

end DiscoveryProbe

end WirelessMesh
