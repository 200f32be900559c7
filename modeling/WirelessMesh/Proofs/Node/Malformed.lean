import WirelessMesh.Proofs.Node.Run
import WirelessMesh.Proofs.Route.Steps

/-!
Frames that a node cannot read. Most are dropped and counted, and nothing else of the node or the mesh
changes. A discovery frame that cannot be read is not: one of the two parts that hear it looks at the
sender only, so the node takes the sender for a neighbour, and the frame is not counted.
-/
namespace WirelessMesh

/-- A frame that is of no use to any node: of an unknown type, too short, or not to be decoded. -/
inductive Frame.Malformed (frame : Frame) : Prop
  | discovery {error : WireError} (type : frame.type = FrameType.discovery)
      (unread : DiscoveryProbe.decode frame.payload = .error error)
  | short (type : frame.type = FrameType.probe ∨ frame.type = FrameType.probeReply)
      (short : frame.size < minProbeFrame)
  | advert {error : WireError} (type : frame.type = FrameType.advert)
      (unread : RouteAdvert.decode frame.payload = .error error)
  | unknown (discovery : frame.type ≠ FrameType.discovery) (probe : frame.type ≠ FrameType.probe)
      (reply : frame.type ≠ FrameType.probeReply) (advert : frame.type ≠ FrameType.advert)

/-- A mesh that has counted one more frame that could not be used. -/
def Mesh.dropped (mesh : Mesh) : Mesh :=
  { mesh with medium := { mesh.medium with
      stats := { mesh.medium.stats with droppedInvalid := mesh.medium.stats.droppedInvalid + 1 } } }

namespace MeshNode

variable {frame : Frame}

/-- A node takes a frame in without a trace: the frame is counted as dropped, and that is all. -/
def LeavesNoTrace (n : MeshNode) (frame : Frame) (mesh : Mesh) : Prop :=
  n.onFrame frame mesh = .ok (n, mesh.dropped)

/-- The node with one more neighbour, or one that was heard again; nothing else is different. -/
def hearing (n : MeshNode) (peer : EtherAddress) (now : Time) : MeshNode :=
  { n with prober := { n.prober with neighbors := n.prober.neighbors.hear peer now } }

theorem onFrame_unread_discovery {error : WireError} (n : MeshNode) (mesh : Mesh)
    (type : frame.type = FrameType.discovery)
    (unread : DiscoveryProbe.decode frame.payload = .error error) :
    n.onFrame frame mesh = .ok (n.hearing frame.source mesh.now, mesh) := by
  have deaf : n.rates.onFrame frame mesh.now = n.rates := by
    rw [DeliveryRates.onFrame, unread]
  rw [onFrame, if_pos type, deaf]
  rfl

private theorem leavesNoTrace_short (n : MeshNode) (mesh : Mesh)
    (type : frame.type = FrameType.probe ∨ frame.type = FrameType.probeReply)
    (short : frame.size < minProbeFrame) : n.LeavesNoTrace frame mesh := by
  have other : frame.type ≠ FrameType.discovery := by
    rcases type with probe | reply
    · rw [probe]
      decide
    · rw [reply]
      decide
  unfold LeavesNoTrace
  rw [onFrame, if_neg other, if_pos type, Prober.onFrame, if_neg other, if_pos type, if_pos short]
  rfl

private theorem leavesNoTrace_unread_advert {error : WireError} (n : MeshNode) (mesh : Mesh)
    (type : frame.type = FrameType.advert)
    (unread : RouteAdvert.decode frame.payload = .error error) : n.LeavesNoTrace frame mesh := by
  have discovery : frame.type ≠ FrameType.discovery := by
    rw [type]
    decide
  have probing : ¬ (frame.type = FrameType.probe ∨ frame.type = FrameType.probeReply) := by
    rw [type]
    decide
  unfold LeavesNoTrace
  rw [onFrame, if_neg discovery, if_neg probing, if_pos type, unread]
  rfl

private theorem leavesNoTrace_unknown (n : MeshNode) (mesh : Mesh)
    (discovery : frame.type ≠ FrameType.discovery) (probe : frame.type ≠ FrameType.probe)
    (reply : frame.type ≠ FrameType.probeReply) (advert : frame.type ≠ FrameType.advert) :
    n.LeavesNoTrace frame mesh := by
  unfold LeavesNoTrace
  rw [onFrame, if_neg discovery, if_neg (not_or.mpr ⟨probe, reply⟩), if_neg advert]
  rfl

theorem not_leavesNoTrace_discovery {error : WireError} (n : MeshNode) (mesh : Mesh)
    (type : frame.type = FrameType.discovery)
    (unread : DiscoveryProbe.decode frame.payload = .error error) :
    ¬ n.LeavesNoTrace frame mesh := by
  intro traceless
  unfold LeavesNoTrace at traceless
  rw [onFrame_unread_discovery n mesh type unread] at traceless
  have counted := congrArg (fun next : MeshNode × Mesh => next.2.medium.stats.droppedInvalid)
    (Except.ok.inj traceless)
  exact absurd counted (Nat.ne_of_lt (Nat.lt_succ_self _))

/-- In every state, a malformed frame leaves no trace exactly if it is not a discovery frame. Of a
discovery frame, the node keeps that it has heard the sender, and the frame is not counted. -/
theorem traceless_iff_no_discovery (n : MeshNode) (mesh : Mesh) (malformed : frame.Malformed) :
    (n.LeavesNoTrace frame mesh ↔ frame.type ≠ FrameType.discovery) ∧
      (frame.type = FrameType.discovery →
        n.onFrame frame mesh = .ok (n.hearing frame.source mesh.now, mesh)) := by
  cases malformed with
  | discovery type unread =>
    refine ⟨⟨fun traceless => ?_, fun other => absurd type other⟩, fun _ => ?_⟩
    · exact absurd traceless (not_leavesNoTrace_discovery n mesh type unread)
    · exact onFrame_unread_discovery n mesh type unread
  | short type short =>
    have other : frame.type ≠ FrameType.discovery := by
      rintro discovery
      rw [discovery] at type
      exact absurd type (by decide)
    exact ⟨iff_of_true (leavesNoTrace_short n mesh type short) other, fun here => absurd here other⟩
  | advert type unread =>
    have other : frame.type ≠ FrameType.discovery := by
      rw [type]
      decide
    exact ⟨iff_of_true (leavesNoTrace_unread_advert n mesh type unread) other,
      fun here => absurd here other⟩
  | unknown discovery probe reply advert =>
    exact ⟨iff_of_true (leavesNoTrace_unknown n mesh discovery probe reply advert) discovery,
      fun here => absurd here discovery⟩

/-- A discovery frame that is even shorter than the shortest probe. -/
def stub : Frame := ⟨7, .broadcast, .ofIndex 1, FrameType.discovery, [0]⟩

theorem stub_malformed : stub.Malformed := .discovery rfl rfl

/-- A new node drops an unknown frame without a trace, but takes the sender of a stub for a
neighbour. -/
theorem stub_leaves_a_neighbor : ∃ n : MeshNode, create 0 (.ofIndex 0) = .ok n ∧
    n.LeavesNoTrace { stub with type := 0x0800 } Mesh.empty ∧ ¬ n.LeavesNoTrace stub Mesh.empty ∧
    n.onFrame stub Mesh.empty = .ok (n.hearing (.ofIndex 1) .zero, Mesh.empty) ∧
    n.prober.neighbors.keys = [] ∧
    (n.hearing (.ofIndex 1) .zero).prober.neighbors.keys = [.ofIndex 1] := by
  have created : (create 0 (.ofIndex 0)).toOption.map (fun n => (n.prober.neighbors.keys,
      (n.hearing (.ofIndex 1) .zero).prober.neighbors.keys)) = some ([], [.ofIndex 1]) := by
    decide +kernel
  obtain ⟨n, made, same⟩ := Option.map_eq_some_iff.mp created
  obtain ⟨before, after⟩ := Prod.mk.inj same
  have unknown : Frame.Malformed { stub with type := 0x0800 } :=
    .unknown (by decide) (by decide) (by decide) (by decide)
  obtain ⟨trace, heard⟩ := traceless_iff_no_discovery n Mesh.empty stub_malformed
  refine ⟨n, ok_of_toOption made, ?_, ?_, heard rfl, before, after⟩
  · exact (traceless_iff_no_discovery n Mesh.empty unknown).1.mpr (by decide)
  · exact fun traceless => trace.mp traceless rfl

/-- So not every malformed frame is dropped without a trace by every node that can be reached. -/
theorem not_every_malformed_frame_traceless :
    ¬ ∀ (n : MeshNode) (mesh : Mesh), Reached n mesh → ∀ frame : Frame, frame.Malformed →
      n.LeavesNoTrace frame mesh := by
  intro traceless
  have created : (create 0 (.ofIndex 0)).isOk = true := by rfl
  cases done : create 0 (.ofIndex 0) with
  | error _ =>
    rw [done] at created
    cases created
  | ok n =>
    have reached : Reached n Mesh.empty := .created Network.empty done
    exact not_leavesNoTrace_discovery n Mesh.empty rfl rfl (traceless n Mesh.empty reached stub
      stub_malformed)

end MeshNode

end WirelessMesh
