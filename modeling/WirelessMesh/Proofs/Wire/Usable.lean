import WirelessMesh.Wire.Advert
import WirelessMesh.Wire.Discovery
import WirelessMesh.Wire.Probe

namespace WirelessMesh

/-- A frame of a type that nodes know, which is as long as that type needs and can be read. -/
inductive Frame.Usable (frame : Frame) : Prop
  | discovery {probe : DiscoveryProbe} (type : frame.type = FrameType.discovery)
      (read : DiscoveryProbe.decode frame.payload = .ok probe)
  | probe {probe : LinkProbe} (type : frame.type = FrameType.probe)
      (long : minProbeFrame ≤ frame.size) (read : LinkProbe.decode frame.payload = .ok probe)
      (sum : LinkProbe.checksumOk frame.payload = true)
  | reply {report : DelayReport} (type : frame.type = FrameType.probeReply)
      (long : minProbeFrame ≤ frame.size)
      (read : DelayReport.decode (frame.payload.drop LinkProbe.size) = .ok report)
  | advert {advert : RouteAdvert} (type : frame.type = FrameType.advert)
      (read : RouteAdvert.decode frame.payload = .ok advert)

def Draft.Usable (draft : Draft) : Prop := ∀ id, (Frame.ofDraft id draft).Usable

namespace Frame.Usable

variable {frame : Frame}

theorem renumbered (usable : frame.Usable) (id : UInt64) : { frame with id }.Usable := by
  cases usable with
  | discovery type read => exact .discovery type read
  | probe type long read sum => exact .probe type long read sum
  | reply type long read => exact .reply type long read
  | advert type read => exact .advert type read

theorem known (usable : frame.Usable) : frame.type = FrameType.discovery ∨
    frame.type = FrameType.probe ∨ frame.type = FrameType.probeReply ∨
      frame.type = FrameType.advert := by
  cases usable with
  | discovery type => exact .inl type
  | probe type => exact .inr (.inl type)
  | reply type => exact .inr (.inr (.inl type))
  | advert type => exact .inr (.inr (.inr type))

theorem long (usable : frame.Usable)
    (type : frame.type = FrameType.probe ∨ frame.type = FrameType.probeReply) :
    minProbeFrame ≤ frame.size := by
  cases usable with
  | discovery discovery =>
    rw [discovery] at type
    exact absurd type (by decide)
  | probe _ long => exact long
  | reply _ long => exact long
  | advert advert =>
    rw [advert] at type
    exact absurd type (by decide)

theorem advert_reads (usable : frame.Usable) (type : frame.type = FrameType.advert) :
    ∃ advert, RouteAdvert.decode frame.payload = .ok advert := by
  cases usable with
  | discovery other =>
    rw [other] at type
    exact absurd type (by decide)
  | probe other =>
    rw [other] at type
    exact absurd type (by decide)
  | reply other =>
    rw [other] at type
    exact absurd type (by decide)
  | advert _ read => exact ⟨_, read⟩

end Frame.Usable

end WirelessMesh
