import WirelessMesh.Wire.Frame

namespace WirelessMesh

/-- The start of a probe's payload. -/
structure LinkProbe where
  seq : UInt16
  deriving DecidableEq

namespace LinkProbe

def size : Nat := 2

def encode (probe : LinkProbe) : Bytes := BigEndian.bytes16 probe.seq

def decode : Bytes → Except WireError LinkProbe
  | high :: low :: _ => .ok ⟨BigEndian.word16 high low⟩
  | bytes => .error (.truncated size bytes.length)

end LinkProbe

/-- A report of the delay that one node measured for another. -/
structure DelayReport where
  /-- The node whose probes were measured. -/
  peer : EtherAddress
  micros : UInt16
  deriving DecidableEq

namespace DelayReport

def size : Nat := 8

def encode (report : DelayReport) : Bytes := report.peer.octets ++ BigEndian.bytes16 report.micros

def decode : Bytes → Except WireError DelayReport
  | a :: b :: c :: d :: e :: f :: high :: low :: _ =>
    .ok ⟨⟨a, b, c, d, e, f⟩, BigEndian.word16 high low⟩
  | bytes => .error (.truncated size bytes.length)

end DelayReport

namespace LinkProbe

/-- The number of delay reports for which a payload has room. -/
def reportRoom (payloadLength : Nat) : Nat := (payloadLength - size) / DelayReport.size

/-- The checksum of a payload. Probes carry none, so it is always zero. -/
def checksum (_ : Bytes) : UInt16 := 0

/-- Whether the checksum of a payload is right. -/
def checksumOk (payload : Bytes) : Bool := checksum payload == 0

/-- A payload with its checksum filled in. Probes carry none, so nothing changes. -/
def fillChecksum (payload : Bytes) : Bytes := payload

end LinkProbe

/-- The shortest frame that holds a probe. -/
def minProbeFrame : Nat := FrameHeader.size + LinkProbe.size

/-- The length of every reply to a probe pair. -/
def replyFrameSize : Nat := 42

end WirelessMesh
