import WirelessMesh.Address.Ether
import WirelessMesh.Wire.Bytes

namespace WirelessMesh

namespace FrameType

/-- Neighbour discovery. -/
def discovery : UInt16 := 0x7ffe

/-- One frame of a probe pair. -/
def probe : UInt16 := 0x7ffb

/-- The answer to a probe pair. -/
def probeReply : UInt16 := 0x7ffc

/-- A route advert. -/
def advert : UInt16 := 0x7fff

end FrameType

/-- The head of a frame. -/
structure FrameHeader where
  target : EtherAddress
  source : EtherAddress
  type : UInt16
  deriving DecidableEq

namespace FrameHeader

def size : Nat := 14

def encode (h : FrameHeader) : Bytes :=
  h.target.octets ++ h.source.octets ++ BigEndian.bytes16 h.type

/-- The header in the first fourteen bytes. -/
def decode : Bytes → Except WireError FrameHeader
  | a :: b :: c :: d :: e :: f :: a' :: b' :: c' :: d' :: e' :: f' :: high :: low :: _ =>
    .ok ⟨⟨a, b, c, d, e, f⟩, ⟨a', b', c', d', e', f'⟩, BigEndian.word16 high low⟩
  | bytes => .error (.truncated size bytes.length)

end FrameHeader

/-- What a sender hands over to be sent: a frame that has no number yet. -/
structure Draft where
  target : EtherAddress
  source : EtherAddress
  type : UInt16
  payload : Bytes

/-- A frame with its number. Every copy on the air has a number of its own. -/
structure Frame where
  id : UInt64
  target : EtherAddress
  source : EtherAddress
  type : UInt16
  payload : Bytes
  deriving DecidableEq

namespace Frame

def ofDraft (id : UInt64) (draft : Draft) : Frame :=
  ⟨id, draft.target, draft.source, draft.type, draft.payload⟩

def header (frame : Frame) : FrameHeader := ⟨frame.target, frame.source, frame.type⟩

/-- The number of bytes on the air. -/
def size (frame : Frame) : Nat := FrameHeader.size + frame.payload.length

def encode (frame : Frame) : Bytes := frame.header.encode ++ frame.payload

/-- The frame of a string of bytes: a header, and all the rest is payload. -/
def decode (id : UInt64) (bytes : Bytes) : Except WireError Frame :=
  (FrameHeader.decode bytes).map fun header =>
    ⟨id, header.target, header.source, header.type, bytes.drop FrameHeader.size⟩

end Frame

end WirelessMesh
