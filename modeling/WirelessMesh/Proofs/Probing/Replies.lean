import WirelessMesh.Air.Transcript
import WirelessMesh.Probing.Prober
import WirelessMesh.Proofs.Probing.Samples
import WirelessMesh.Proofs.Wire.Lossless

namespace WirelessMesh

/-- The number of a probe within its pair, if the frame is a probe of valid length. -/
def Frame.probeSeq? (frame : Frame) : Option UInt16 :=
  if frame.type = FrameType.probe ∧ minProbeFrame ≤ frame.size then
    match LinkProbe.decode frame.payload with
    | .ok probe => some probe.seq
    | .error _ => none
  else none

/-- A frame that was taken in, and when. -/
structure Reception where
  time : Time
  frame : Frame

/-- The number and the time of the last probe of a peer, the last frame standing first. -/
def lastProbe? (peer : EtherAddress) : List Reception → Option (UInt16 × Time)
  | [] => none
  | r :: earlier =>
    match r.frame.probeSeq? with
    | some seq => if r.frame.source = peer then some (seq, r.time) else lastProbe? peer earlier
    | none => lastProbe? peer earlier

/-- The gap of the pair that a frame completes: it is the second one, right behind a first one of its
sender, and not too late. -/
def completedGap? (history : List Reception) (frame : Frame) (now : Time) : Option Nat :=
  (lastProbe? frame.source history).bind fun (seq, time) =>
    if seq = 1 ∧ frame.probeSeq? = some 2 ∧ (now - time).micros < noDelay then
      some (now - time).micros
    else none

namespace Prober

variable {μ : Type} [Medium μ] {p : Prober} {history : List Reception} {frame : Frame} {air : Air μ}

/-- A new prober that replies directly, and the frames that it has taken in since. -/
inductive Listened (μ : Type) [Medium μ] : Prober → List Reception → Prop
  | created {node : NodeId} {config : ProbingConfig} {random : RandomSource} {salt : UInt64}
      {p : Prober} (done : create node config random salt = .ok p) (direct : config.reply = .direct) :
      Listened μ p []
  | heard {p : Prober} {history : List Reception} (frame : Frame) (air : Air μ)
      (listened : Listened μ p history) :
      Listened μ (p.onFrame frame air).2.1 (⟨air.now, frame⟩ :: history)

/-- What a prober that replies directly has kept of the frames so far: no gaps, and of each peer when
the first frame of a pair came if that was its last probe. -/
structure Recalls (p : Prober) (history : List Reception) : Prop where
  direct : p.config.reply = .direct
  reported : ∀ peer, p.sampler.measured peer = []
  marks : ∀ peer, p.sampler.markOf peer =
    (lastProbe? peer history).bind fun (seq, time) => if seq = 1 then some time else none

theorem onFrame_probe (p : Prober) (air : Air μ) {seq : UInt16} (probe : frame.probeSeq? = some seq) :
    p.onFrame frame air = (true, p.onProbe frame ⟨seq⟩ air) := by
  unfold Frame.probeSeq? at probe
  split at probe
  · next valid =>
    obtain ⟨type, long⟩ := valid
    have other : ¬ FrameType.probe = FrameType.discovery := by decide
    have sum : LinkProbe.checksumOk frame.payload = true := by
      simp [LinkProbe.checksumOk, LinkProbe.checksum]
    split at probe
    · next found read =>
      cases probe
      simp only [onFrame, type, other, if_false, true_or, if_true, Nat.not_lt.mpr long, read, sum]
    · cases probe
  · cases probe

/-- A frame that is no probe of valid length leaves the samples of its sender's pairs alone, and is at
most rejected. -/
theorem onFrame_other (p : Prober) (air : Air μ) (other : frame.probeSeq? = none) :
    (p.onFrame frame air).2.1.config = p.config ∧
      (p.onFrame frame air).2.1.sampler.forward = p.sampler.forward ∧
      ((p.onFrame frame air).2.2 = air ∨ (p.onFrame frame air).2.2 = air.reject p.node frame) := by
  have report (now : Time) : (p.takeReport frame now).config = p.config ∧
      (p.takeReport frame now).sampler.forward = p.sampler.forward := by
    unfold takeReport
    split
    · exact ⟨rfl, rfl⟩
    · split
      · exact ⟨rfl, rfl⟩
      · exact ⟨rfl, rfl⟩
  unfold onFrame
  split
  · exact ⟨rfl, rfl, .inl rfl⟩
  · split
    · split
      · exact ⟨rfl, rfl, .inr rfl⟩
      · next long =>
        split
        · next type =>
          rw [Frame.probeSeq?, if_pos ⟨type, Nat.not_lt.mp long⟩] at other
          split
          · exact ⟨rfl, rfl, .inl rfl⟩
          · next probe read =>
            rw [read] at other
            cases other
        · exact ⟨(report air.now).1, (report air.now).2, .inl rfl⟩
    · exact ⟨rfl, rfl, .inl rfl⟩

/-- A node that replies directly looks for a sample, and takes it if there is one. -/
theorem onProbe_eq (direct : p.config.reply = .direct) (probe : LinkProbe) :
    p.onProbe frame probe air =
      let looked := (p.sampler.recordForward frame.source probe.seq air.now).2.forwardDelay
        frame.source air.now
      if looked.1.isMissing then ({ p with sampler := looked.2 }, air)
      else ({ p with sampler := (looked.2.takeForward frame.source).2 },
        p.sendReply frame.source looked.1.micros air) := by
  simp only [onProbe, direct]
  rfl

/-- A node that replies directly and has no gaps left answers a probe that makes a sample, and has no
gaps left after it. -/
theorem onProbe_direct (frame : Frame) (air : Air μ) (direct : p.config.reply = .direct)
    (reported : ∀ peer, p.sampler.measured peer = []) (probe : LinkProbe) :
    (p.onProbe frame probe air).1.config = p.config ∧
      (∀ peer, (p.onProbe frame probe air).1.sampler.measured peer = []) ∧
      (∀ peer, (p.onProbe frame probe air).1.sampler.markOf peer =
        (p.sampler.recordForward frame.source probe.seq air.now).2.markOf peer) ∧
      (p.onProbe frame probe air).2 =
        match (p.sampler.recordForward frame.source probe.seq air.now).1 with
        | some gap => p.sendReply frame.source gap air
        | none => air := by
  rw [onProbe_eq direct]
  cases sampled : (p.sampler.recordForward frame.source probe.seq air.now).1 with
  | some gap =>
    obtain ⟨found, left⟩ := DelaySampler.passed_on reported sampled
    have short : ¬ noDelay ≤ gap := Nat.not_le.mpr (DelaySampler.recordForward_lt sampled)
    simp only [found, DelaySample.isMissing, short, decide_false, Bool.false_eq_true, if_false]
    refine ⟨trivial, left, fun peer => ?_, trivial⟩
    rw [DelaySampler.markOf_takeForward, DelaySampler.markOf_forwardDelay]
  | none =>
    obtain ⟨found, left⟩ := DelaySampler.nothing_to_pass_on reported sampled
    simp only [found, DelaySample.isMissing, DelaySample.missing, Nat.le_refl, decide_true, if_true]
    exact ⟨trivial, left, fun peer => DelaySampler.markOf_forwardDelay _ _ _ _, trivial⟩

theorem Recalls.created {node : NodeId} {config : ProbingConfig} {random : RandomSource}
    {salt : UInt64} (done : create node config random salt = .ok p) (direct : config.reply = .direct) :
    p.Recalls [] := by
  simp only [create, bind, Except.bind] at done
  split at done
  · cases done
  · split at done
    · cases done
    · cases done
      exact ⟨direct, fun _ => rfl, fun _ => rfl⟩

/-- Whether a probe makes a sample can be told from the frames before it. -/
theorem Recalls.sampled (recalls : p.Recalls history) {seq : UInt16}
    (probe : frame.probeSeq? = some seq) (now : Time) :
    (p.sampler.recordForward frame.source seq now).1 = completedGap? history frame now := by
  rw [DelaySampler.recordForward_answer, recalls.marks, completedGap?, probe]
  cases last : lastProbe? frame.source history with
  | none => simp
  | some entry =>
    obtain ⟨before, time⟩ := entry
    by_cases first : before = 1
    · by_cases second : seq = 2
      · by_cases short : (now - time).micros < noDelay <;>
          simp [first, second, short, Option.filter]
      · simp [first, second]
    · simp [first]

theorem Recalls.heard (recalls : p.Recalls history) (frame : Frame) (air : Air μ) :
    (p.onFrame frame air).2.1.Recalls (⟨air.now, frame⟩ :: history) := by
  cases probe : frame.probeSeq? with
  | none =>
    obtain ⟨config, forward, -⟩ := p.onFrame_other air probe
    refine ⟨config ▸ recalls.direct, fun peer => ?_, fun peer => ?_⟩
    · rw [DelaySampler.measured, forward]
      exact recalls.reported peer
    · rw [DelaySampler.markOf, forward, lastProbe?, probe]
      exact recalls.marks peer
  | some seq =>
    obtain ⟨config, left, marks, -⟩ :=
      onProbe_direct frame air recalls.direct recalls.reported ⟨seq⟩
    rw [p.onFrame_probe air probe]
    refine ⟨config ▸ recalls.direct, left, fun peer => ?_⟩
    rw [marks, DelaySampler.markOf_recordForward, recalls.marks, lastProbe?, probe]
    by_cases sender : peer = frame.source
    · simp [sender]
    · simp [sender, Ne.symm sender]

theorem Listened.recalls (listened : Listened μ p history) : p.Recalls history := by
  induction listened with
  | created done direct => exact .created done direct
  | heard frame air _ ih => exact ih.heard frame air

/-- The payload of a reply: what looks like a first probe, then the report. -/
theorem report_of_reply (report : DelayReport) :
    let payload := padTo (replyFrameSize - FrameHeader.size) ((LinkProbe.mk 1).encode ++ report.encode)
    FrameHeader.size + payload.length = replyFrameSize ∧
      DelayReport.decode (payload.drop LinkProbe.size) = .ok report := by
  have start : (LinkProbe.mk 1).encode.length = LinkProbe.size := rfl
  refine ⟨rfl, ?_⟩
  simp only [padTo, List.append_assoc, ← start, List.drop_left]
  exact report.read_back.decode_append _

/-- A reply tells its receiver the gap, as the newest one that the sender has reported. -/
private theorem reported_of_reply (q : Prober) (air : Air μ) (id : UInt64) (reply : Draft)
    {report : DelayReport} (type : reply.type = FrameType.probeReply)
    (size : FrameHeader.size + reply.payload.length = replyFrameSize)
    (told : DelayReport.decode (reply.payload.drop LinkProbe.size) = .ok report)
    (mine : q.eth = report.peer) :
    (q.onFrame (.ofDraft id reply) air).2.1.sampler.reported reply.source =
      ⟨report.micros.toNat, air.now⟩ :: q.sampler.reported reply.source := by
  have long : ¬ (Frame.ofDraft id reply).size < minProbeFrame := by
    show ¬ FrameHeader.size + reply.payload.length < minProbeFrame
    rw [size]
    decide
  have kind : (Frame.ofDraft id reply).type = FrameType.probeReply := type
  have read : DelayReport.decode ((Frame.ofDraft id reply).payload.drop LinkProbe.size) =
      .ok report := told
  have discovery : ¬ FrameType.probeReply = FrameType.discovery := by decide
  have probe : ¬ FrameType.probeReply = FrameType.probe := by decide
  simp only [onFrame, kind, discovery, probe, if_false, or_true, if_true, long, takeReport, read,
    mine.symm]
  exact (DelaySampler.reported_recordReverse _ _ _ _ _).trans (if_pos rfl)

/-- A node that replies directly answers a frame exactly if it completes a pair. The reply goes to the
sender of the pair alone, is of the one size that replies have, and reports the gap; no gap is left to
be reported again, and whoever sent the pair takes it as the newest one reported by this node. -/
theorem each_pair_answered_once (listened : Listened μ p history) (frame : Frame) (air : Air μ) :
    (∀ peer, (p.onFrame frame air).2.1.sampler.measured peer = []) ∧
    (completedGap? history frame air.now = none →
      (p.onFrame frame air).2.2 = air ∨ (p.onFrame frame air).2.2 = air.reject p.node frame) ∧
    ∀ gap, completedGap? history frame air.now = some gap →
      ∃ reply : Draft, (p.onFrame frame air).2.2 = air.post p.node reply ∧
        reply.target = frame.source ∧ reply.source = p.eth ∧ reply.type = FrameType.probeReply ∧
        FrameHeader.size + reply.payload.length = 42 ∧
        DelayReport.decode (reply.payload.drop LinkProbe.size) =
          .ok ⟨frame.source, UInt16.ofNat gap⟩ ∧
        (UInt16.ofNat gap).toNat = gap ∧
        ∀ (q : Prober) (id : UInt64) (air' : Air μ), q.eth = frame.source →
          (q.onFrame (.ofDraft id reply) air').2.1.sampler.reported p.eth =
            ⟨gap, air'.now⟩ :: q.sampler.reported p.eth := by
  have recalls := listened.recalls
  refine ⟨(recalls.heard frame air).reported, fun incomplete => ?_, fun gap complete => ?_⟩
  · cases probe : frame.probeSeq? with
    | none => exact (p.onFrame_other air probe).2.2
    | some seq =>
      obtain ⟨-, -, -, silent⟩ :=
        onProbe_direct frame air recalls.direct recalls.reported ⟨seq⟩
      rw [recalls.sampled probe, incomplete] at silent
      rw [p.onFrame_probe air probe]
      exact .inl silent
  · cases probe : frame.probeSeq? with
    | none => simp [completedGap?, probe] at complete
    | some seq =>
      obtain ⟨-, -, -, answered⟩ :=
        onProbe_direct frame air recalls.direct recalls.reported ⟨seq⟩
      have sampled := (recalls.sampled probe air.now).trans complete
      rw [sampled] at answered
      have short : (UInt16.ofNat gap).toNat = gap := by
        have := DelaySampler.recordForward_lt sampled
        rw [UInt16.toNat_ofNat']
        exact Nat.mod_eq_of_lt (Nat.lt_succ_of_lt this)
      obtain ⟨size, told⟩ := report_of_reply ⟨frame.source, UInt16.ofNat gap⟩
      rw [p.onFrame_probe air probe]
      refine ⟨_, answered, rfl, rfl, rfl, size, told, short, fun q id air' mine => ?_⟩
      have newest := q.reported_of_reply air' id ⟨frame.source, p.eth, FrameType.probeReply, _⟩ rfl
        size told mine
      rwa [short] at newest

/-- The shortest probe of a number, from the second node to the first. -/
def shortProbe (seq : UInt16) : Frame :=
  ⟨0, .ofIndex 1, .ofIndex 2, FrameType.probe, (LinkProbe.mk seq).encode⟩

def stillAir (now : Time) : Air Transcript := ⟨{ Simulator.empty with now }, {}⟩

/-- A pair whose frames come a millisecond apart is answered with that gap. -/
theorem pair_of_one_millisecond_answered : ∃ (p : Prober) (history : List Reception),
    Listened Transcript p history ∧
    completedGap? history (shortProbe 2) (.ofMillis 1) = some 1000 ∧
    ∃ reply : Draft, (p.onFrame (shortProbe 2) (stillAir (.ofMillis 1))).2.2 =
        (stillAir (.ofMillis 1)).post p.node reply ∧ reply.target = .ofIndex 2 ∧
      DelayReport.decode (reply.payload.drop LinkProbe.size) = .ok ⟨.ofIndex 2, 1000⟩ := by
  have valid : (create 0 { eth := some (.ofIndex 1) } (.ofSeed 0) 0).isOk = true := by rfl
  cases done : create 0 { eth := some (.ofIndex 1) } (.ofSeed 0) 0 with
  | error _ =>
    rw [done] at valid
    cases valid
  | ok p =>
    have listened : Listened Transcript p [] := .created done rfl
    have first := listened.heard (shortProbe 1) (stillAir .zero)
    have complete : completedGap? [⟨.zero, shortProbe 1⟩] (shortProbe 2) (.ofMillis 1) =
        some 1000 := by decide
    obtain ⟨reply, answered, target, -, -, -, told, -⟩ :=
      (each_pair_answered_once first (shortProbe 2) (stillAir (.ofMillis 1))).2.2 1000 complete
    exact ⟨_, _, first, complete, reply, answered, target, told⟩

end Prober

end WirelessMesh
