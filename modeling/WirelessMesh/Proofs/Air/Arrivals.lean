import WirelessMesh.Air.Transcript
import WirelessMesh.Network.Basic
import WirelessMesh.Proofs.Simulation.Ownership

namespace WirelessMesh

/-- Whether an event is the arrival of a frame. -/
def MeshEvent.IsArrival : MeshEvent → Prop
  | .arrival _ _ => True
  | .timer _ _ => False

/-- A medium that only ever schedules arrivals. -/
class LawfulMedium (μ : Type) [Medium μ] : Prop where
  send : ∀ (node : NodeId) (frame : Frame) (air : Air μ),
    air.sim.Changes MeshEvent.IsArrival (Medium.send node frame air).sim
  broadcast : ∀ (node : NodeId) (frame : Frame) (air : Air μ),
    air.sim.Changes MeshEvent.IsArrival (Medium.broadcast node frame air).sim

namespace Air

variable {μ : Type} [Medium μ] [LawfulMedium μ]

theorem changes_post (air : Air μ) (node : NodeId) (draft : Draft) :
    air.sim.Changes MeshEvent.IsArrival (air.post node draft).sim :=
  LawfulMedium.send node (Medium.number air.medium draft).1
    { air with medium := (Medium.number air.medium draft).2 }

theorem changes_announce (air : Air μ) (node : NodeId) (draft : Draft) :
    air.sim.Changes MeshEvent.IsArrival (air.announce node draft).sim :=
  LawfulMedium.broadcast node (Medium.number air.medium draft).1
    { air with medium := (Medium.number air.medium draft).2 }

end Air

instance : LawfulMedium Transcript where
  send _ _ air := .refl air.sim
  broadcast _ _ air := .refl air.sim

theorem Link.le_arrival (link : Link) (now : Time) (bytes : UInt32) :
    now ≤ link.departure now bytes + link.latency := by
  have := now.ns_le
  simp only [Time.le_def, Link.departure, Time.ns_add, Time.ns_max]
  omega

namespace Network

theorem changes_transmit (id : LinkId) (frame : Frame) (air : Air Network) :
    air.sim.Changes MeshEvent.IsArrival (transmit id frame air).sim := by
  unfold transmit
  split
  · exact .refl air.sim
  · next link _ =>
    simp only
    split
    · exact .refl air.sim
    · exact Simulator.changes_schedule (link.le_arrival air.now (UInt32.ofNat frame.size)) trivial

private theorem changes_sendCopy (source target : NodeId) (frame : Frame) (air : Air Network) :
    air.sim.Changes MeshEvent.IsArrival (sendCopy source target frame air).sim := by
  unfold sendCopy
  split
  · exact .refl air.sim
  · next id _ =>
    exact changes_transmit id { frame with id := air.medium.takeFrameId.1 }
      { air with medium := air.medium.takeFrameId.2.count fun s =>
          { s with sentFrames := s.sentFrames + 1 } }

theorem changes_broadcast (source : NodeId) (frame : Frame) (air : Air Network) :
    air.sim.Changes MeshEvent.IsArrival (broadcast source frame air).sim := by
  unfold broadcast
  generalize air.medium.neighbors source = targets
  induction targets generalizing air with
  | nil => exact .refl air.sim
  | cons target rest ih => exact (changes_sendCopy source target frame air).trans (ih _)

theorem changes_send (source : NodeId) (frame : Frame) (air : Air Network) :
    air.sim.Changes MeshEvent.IsArrival (send source frame air).sim := by
  unfold send
  split
  · exact changes_broadcast source frame air
  · simp only
    split
    · next id _ =>
      exact changes_transmit id frame
        { air with medium := air.medium.count fun s => { s with sentFrames := s.sentFrames + 1 } }
    · exact .refl air.sim

instance : LawfulMedium Network where
  send := changes_send
  broadcast := changes_broadcast

end Network

end WirelessMesh
