import WirelessMesh.Air.Medium

/-!
A medium that carries nothing and writes everything down. With it one part of a node can be run
alone and its frames looked at. It numbers frames from one.
-/
namespace WirelessMesh

/-- How a frame came to the medium. -/
inductive Delivery where
  | send
  | broadcast
  /-- Dropped by a node that could not use it. -/
  | rejected
  deriving DecidableEq

/-- A line of a transcript. -/
structure Transmission where
  delivery : Delivery
  node : NodeId
  frame : Frame
  deriving DecidableEq

/-- What was handed to the medium, the latest line first, and the number of frames so far. -/
structure Transcript where
  lines : List Transmission := []
  numbered : Nat := 0

namespace Transcript

def write (t : Transcript) (line : Transmission) : Transcript :=
  { t with lines := line :: t.lines }

/-- What was handed to the medium, in order. -/
def transmissions (t : Transcript) : List Transmission := t.lines.reverse

/-- The transcript without its lines so far. -/
def clear (t : Transcript) : Transcript := { t with lines := [] }

end Transcript

instance : Medium Transcript where
  number t draft :=
    (.ofDraft (UInt64.ofNat (t.numbered + 1)) draft, { t with numbered := t.numbered + 1 })
  send node frame air := { air with medium := air.medium.write ⟨.send, node, frame⟩ }
  broadcast node frame air := { air with medium := air.medium.write ⟨.broadcast, node, frame⟩ }
  reject node frame t := t.write ⟨.rejected, node, frame⟩

end WirelessMesh
