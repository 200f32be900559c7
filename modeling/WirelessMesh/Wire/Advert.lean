import WirelessMesh.Address.IPv4
import WirelessMesh.Wire.Frame

namespace WirelessMesh

/-- What an advert says about one destination. -/
structure AdvertEntry where
  ip : IPv4
  eth : EtherAddress
  seq : UInt32
  hops : UInt8
  /-- The path metric as one byte. -/
  metric : UInt8
  ttlMillis : UInt32
  deriving DecidableEq

namespace AdvertEntry

def size : Nat := 20

def encode (entry : AdvertEntry) : Bytes :=
  entry.ip.octets ++ entry.eth.octets ++ BigEndian.bytes32 entry.seq
    ++ [entry.hops, entry.metric] ++ BigEndian.bytes32 entry.ttlMillis

/-- Reads entries one after another, as many as are asked for and are there in full. -/
def decodeMany : Nat → Bytes → List AdvertEntry
  | count + 1, i0 :: i1 :: i2 :: i3 :: a :: b :: c :: d :: e :: f :: s0 :: s1 :: s2 :: s3 ::
      hops :: metric :: t0 :: t1 :: t2 :: t3 :: rest =>
    ⟨⟨i0, i1, i2, i3⟩, ⟨a, b, c, d, e, f⟩, BigEndian.word32 s0 s1 s2 s3, hops, metric,
      BigEndian.word32 t0 t1 t2 t3⟩ :: decodeMany count rest
  | _, _ => []

end AdvertEntry

/-- A route advert: its entries in order, the sender's own first. -/
structure RouteAdvert where
  entries : List AdvertEntry
  deriving DecidableEq

namespace RouteAdvert

def headerSize : Nat := 2

def encodedSize (advert : RouteAdvert) : Nat :=
  headerSize + advert.entries.length * AdvertEntry.size

/-- The written form; the count of entries is kept to 16 bits. -/
def encode (advert : RouteAdvert) : Bytes :=
  BigEndian.bytes16 (UInt16.ofNat advert.entries.length)
    ++ (advert.entries.map AdvertEntry.encode).flatten

/-- Reads the count and as many entries as it announces; bytes behind them are ignored. -/
def decode : Bytes → Except WireError RouteAdvert
  | high :: low :: rest =>
    let count := (BigEndian.word16 high low).toNat
    if rest.length < count * AdvertEntry.size then
      .error (.truncated (headerSize + count * AdvertEntry.size) (headerSize + rest.length))
    else .ok ⟨AdvertEntry.decodeMany count rest⟩
  | bytes => .error (.truncated headerSize bytes.length)

end RouteAdvert

end WirelessMesh
