import WirelessMesh.Proofs.Discovery.Frames
import WirelessMesh.Proofs.Node.Honest
import WirelessMesh.Proofs.Probing.Reports

namespace WirelessMesh

namespace DelaySampler

variable {s : DelaySampler} {peer : EtherAddress} {now : Time}

/-- A sampler whose measured delays are all smaller than the one that stands for none. -/
def Short (s : DelaySampler) : Prop := ∀ peer, ∀ x ∈ s.measured peer, x.micros < noDelay

theorem Short.recordForward (short : s.Short) (peer : EtherAddress) (seq : UInt16) (now : Time) :
    (s.recordForward peer seq now).2.Short := by
  intro other x member
  rw [measured_recordForward] at member
  split at member
  · split at member
    · next gap sampled =>
      rw [List.mem_singleton.mp member]
      exact recordForward_lt sampled
    · exact short peer x member
  · exact short other x member

theorem Short.forwardDelay (short : s.Short) (peer : EtherAddress) (now : Time) :
    (s.forwardDelay peer now).2.Short := by
  intro other x member
  rw [measured_forwardDelay] at member
  split at member
  · exact short other x (DelayWindow.mem_prune member).1
  · exact short other x member

theorem Short.takeForward (short : s.Short) (peer : EtherAddress) :
    (s.takeForward peer).2.Short := by
  intro other x member
  rw [measured_takeForward] at member
  split at member
  · exact short other x (List.mem_of_mem_tail member)
  · exact short other x member

theorem Short.perform (short : s.Short) (call : Call) : (call.perform s).Short := by
  cases call with
  | recordForward peer seq now => exact short.recordForward peer seq now
  | recordReverse => exact short
  | forwardDelay peer now => exact short.forwardDelay peer now
  | reverseDelay => exact short
  | takeForward peer => exact short.takeForward peer

theorem Short.run (short : s.Short) (calls : List Call) : (s.run calls).Short := by
  induction calls generalizing s with
  | nil => exact short
  | cons call calls ih => exact ih (short.perform call)

private theorem short_empty (function : SampleFunction) (forwardAge reverseAge : Time) :
    (empty function forwardAge reverseAge).Short := nofun

/-- What a look answers is a measured delay, or else the one that stands for none. -/
theorem Short.answer_le (short : s.Short) (peer : EtherAddress) (now : Time) :
    (s.forwardDelay peer now).1.micros ≤ noDelay := by
  rw [forwardDelay_answer]
  cases found : ((s.measured peer).prune s.forwardAge now).head? with
  | none => exact Nat.le_refl _
  | some x =>
    have kept := (DelayWindow.mem_prune (List.mem_of_head? found)).1
    exact (short peer x kept).le

theorem Short.answer_unaltered (short : s.Short) (peer : EtherAddress) (now : Time) :
    (UInt16.ofNat (s.forwardDelay peer now).1.micros).toNat = (s.forwardDelay peer now).1.micros := by
  rw [UInt16.toNat_ofNat']
  exact Nat.mod_eq_of_lt (Nat.lt_succ_of_le (short.answer_le peer now))

/-- What peers have reported, with one more delay of a source if there is one. -/
def withReport (reported : EtherAddress → DelayWindow) (source : EtherAddress) (now : Time) :
    Option Nat → EtherAddress → DelayWindow
  | some micros => Function.update reported source (⟨micros, now⟩ :: reported source)
  | none => reported

private theorem recordReverse_withReport (s : DelaySampler) (source : EtherAddress) (micros : Nat)
    (now : Time) : (s.recordReverse source micros now).reported =
      withReport s.reported source now (some micros) := by
  funext other
  rw [reported_recordReverse, withReport, Function.update_apply]

end DelaySampler

def Frame.reportTo? (frame : Frame) (eth : EtherAddress) : Option Nat :=
  match DelayReport.decode (frame.payload.drop LinkProbe.size) with
  | .ok report => if report.peer = eth then some report.micros.toNat else none
  | .error _ => none

theorem Frame.reportTo?_of_decode {frame : Frame} {report : DelayReport}
    (read : DelayReport.decode (frame.payload.drop LinkProbe.size) = .ok report)
    (eth : EtherAddress) :
    frame.reportTo? eth = if report.peer = eth then some report.micros.toNat else none := by
  rw [reportTo?, read]

private theorem Frame.reportTo?_zeros {frame : Frame} {length : Nat} {eth : EtherAddress}
    (zeros : frame.payload.drop LinkProbe.size = List.replicate length 0) (other : eth ≠ .zero) :
    frame.reportTo? eth = none := by
  unfold reportTo?
  rw [zeros]
  match length with
  | 0 | 1 | 2 | 3 | 4 | 5 | 6 | 7 => rfl
  | rest + 8 => exact if_neg (Ne.symm other)

namespace Prober

variable {μ : Type} [Medium μ] {p : Prober} {frame : Frame} {air : Air μ} {seq : UInt16}
  {size : Nat} {report : Option DelayReport} {peer : EtherAddress}

/-- A node that takes in a frame records a delay as the newest one that the sender has reported, or
records nothing, and keeps all other reports. -/
def Records (p : Prober) (frame : Frame) (air : Air μ) (delay : Option Nat) : Prop :=
  (p.onFrame frame air).2.1.sampler.reported =
    DelaySampler.withReport p.sampler.reported frame.source air.now delay

theorem reported_takeReport (p : Prober) (frame : Frame) (now : Time) :
    (p.takeReport frame now).sampler.reported =
      DelaySampler.withReport p.sampler.reported frame.source now (frame.reportTo? p.eth) := by
  unfold takeReport Frame.reportTo?
  cases DelayReport.decode (frame.payload.drop LinkProbe.size) with
  | error _ => rfl
  | ok report =>
    dsimp only
    split
    · exact DelaySampler.recordReverse_withReport ..
    · rfl

/-- A probe brings a report to those who take reports from probes. -/
theorem records_probe (p : Prober) (air : Air μ) (probe : frame.probeSeq? = some seq) :
    p.Records frame air
      (if p.config.reply = .piggyback then frame.reportTo? p.eth else none) := by
  rw [Records, p.onFrame_probe air probe]
  cases mode : p.config.reply with
  | piggyback =>
    simp only [onProbe, mode, if_true]
    exact reported_takeReport ..
  | direct =>
    rw [onProbe_eq mode]
    dsimp only
    split <;> rfl

private theorem records_reply (p : Prober) (air : Air μ) (type : frame.type = FrameType.probeReply)
    (long : minProbeFrame ≤ frame.size) : p.Records frame air (frame.reportTo? p.eth) := by
  have discovery : ¬ FrameType.probeReply = FrameType.discovery := by decide
  have probe : ¬ FrameType.probeReply = FrameType.probe := by decide
  simp only [Records, onFrame, type, discovery, probe, if_false, false_or, if_true,
    Nat.not_lt.mpr long]
  exact reported_takeReport ..

private theorem records_none (p : Prober) (air : Air μ) (other : frame.reportTo? p.eth = none) :
    p.Records frame air none := by
  cases probe : frame.probeSeq? with
  | some seq =>
    have records := p.records_probe air probe
    rwa [other, ite_self] at records
  | none =>
    have kept := p.reported_takeReport frame air.now
    rw [other] at kept
    unfold Records onFrame
    split
    · rfl
    · split
      · split
        · rfl
        · next long =>
          split
          · next type =>
            rw [Frame.probeSeq?, if_pos ⟨type, Nat.not_lt.mp long⟩] at probe
            split
            · rfl
            · next read =>
              rw [read] at probe
              cases probe
          · exact kept
      · rfl

/-- The payload of a probe as it is put together in a buffer of zeros: the number at the start, the
report behind it if there is room for one. None if anything is written past the end. -/
def fillPayload (seq : UInt16) (size : Nat) (report : Option DelayReport) : Option Bytes := do
  let length := size - FrameHeader.size
  let headed ← overwrite (LinkProbe.mk seq).encode (List.replicate length 0)
  match report with
  | none => return headed
  | some report =>
    if 0 < LinkProbe.reportRoom length then
      let reported ← overwrite report.encode (headed.drop LinkProbe.size)
      return headed.take LinkProbe.size ++ reported
    else return headed

private theorem room_iff (valid : minProbeFrame ≤ size) :
    0 < LinkProbe.reportRoom (size - FrameHeader.size) ↔ 24 ≤ size := by
  have minimum : minProbeFrame = 16 := rfl
  have header : FrameHeader.size = 14 := rfl
  have number : LinkProbe.size = 2 := rfl
  have length : DelayReport.size = 8 := rfl
  unfold LinkProbe.reportRoom
  rw [Nat.div_pos_iff]
  omega

private theorem fillPayload_eq (valid : minProbeFrame ≤ size) (seq : UInt16)
    (report : Option DelayReport) :
    fillPayload seq size report = some (probePayload seq size report) := by
  let length := size - FrameHeader.size
  let number := (LinkProbe.mk seq).encode
  have start : number.length = LinkProbe.size := rfl
  have head : number.length ≤ length := Nat.le_sub_of_add_le' valid
  have before : (padTo length number).take LinkProbe.size = number := List.take_left' start
  have behind : (padTo length number).drop LinkProbe.size =
    List.replicate (length - number.length) 0 := List.drop_left' start
  unfold fillPayload probePayload
  dsimp only
  rw [overwrite_zeros head]
  cases report with
  | none => simp [number, length]
  | some report =>
    dsimp only [bind, Option.bind_some, pure]
    by_cases room : 0 < LinkProbe.reportRoom length
    · have eight : report.encode.length = DelayReport.size := report.read_back.1
      have fits : report.encode.length ≤ length - number.length := by
        have enough := (Nat.div_pos_iff.mp room).2
        omega
      rw [if_pos room, if_pos room, before, behind, overwrite_zeros fits]
      simp [padTo, Nat.sub_sub, Nat.add_assoc, number, length]
    · simp [if_neg room, number, length]

theorem drop_probePayload (valid : minProbeFrame ≤ size) (seq : UInt16)
    (report : Option DelayReport) :
    ∃ rest, (probePayload seq size report).drop LinkProbe.size =
      (if 24 ≤ size then (report.map DelayReport.encode).getD [] else []) ++
        List.replicate rest 0 := by
  have start : (LinkProbe.mk seq).encode.length = LinkProbe.size := rfl
  unfold probePayload padTo
  dsimp only
  rw [List.append_assoc, ← start, List.drop_left]
  refine ⟨_, congrArg (· ++ _) ?_⟩
  cases report with
  | none => simp
  | some report => simp only [room_iff valid, Option.map_some, Option.getD_some]

/-- A probe with room for it reports what its sender had to report, and else nothing. -/
private theorem reportTo?_probe (valid : minProbeFrame ≤ size) (payload : frame.payload =
    probePayload seq size report) {eth : EtherAddress} (other : eth ≠ .zero) :
    frame.reportTo? eth = if 24 ≤ size then
      (report.filter (·.peer = eth)).map (·.micros.toNat) else none := by
  obtain ⟨rest, behind⟩ := drop_probePayload valid seq report
  rw [← payload] at behind
  by_cases room : 24 ≤ size
  · rw [if_pos room] at behind ⊢
    cases report with
    | none => exact Frame.reportTo?_zeros behind other
    | some report =>
      have read := report.read_back.decode_append (List.replicate rest 0)
      rw [Option.map_some, Option.getD_some] at behind
      rw [Frame.reportTo?_of_decode (behind ▸ read) eth, Option.filter_some]
      by_cases same : report.peer = eth <;> simp [same]
  · rw [if_neg room] at behind ⊢
    exact Frame.reportTo?_zeros behind other

/-- The delay that a prober has measured of a peer's pairs, if it is to go with its own probes. -/
theorem pendingReport_eq (short : p.sampler.Short) (peer : EtherAddress) (now : Time) :
    (p.pendingReport peer now).1 =
      if p.config.reply = .piggyback then
        some ⟨peer, UInt16.ofNat (p.forwardDelay peer now).1.micros⟩ else none := by
  have bound : (p.forwardDelay peer now).1.micros ≤ noDelay := short.answer_le peer now
  unfold pendingReport
  cases p.config.reply with
  | piggyback =>
    dsimp only
    rw [Nat.min_eq_left bound, if_pos rfl]
  | direct => rfl

private theorem forwardDelay_missing (short : p.sampler.Short) (peer : EtherAddress) (now : Time) :
    (p.forwardDelay peer now).1.micros = noDelay ↔
      (p.sampler.measured peer).prune p.sampler.forwardAge now = [] := by
  show (p.sampler.forwardDelay peer now).1.micros = noDelay ↔ _
  rw [DelaySampler.forwardDelay_answer]
  cases found : (p.sampler.measured peer).prune p.sampler.forwardAge now with
  | nil => exact iff_of_true rfl rfl
  | cons x older =>
    have kept := (DelayWindow.mem_prune (found ▸ List.mem_cons_self)).1
    exact iff_of_false (Nat.ne_of_lt (short peer x kept)) nofun

section Trip

variable {ν : Type} [Medium ν] {function : SampleFunction} {forwardAge reverseAge : Time}
  {calls : List DelaySampler.Call} {A : Prober}

/-- What a receiver makes of a probe: if both sides let reports ride on probes, it records the delay
that concerns it, provided that the probe has room for a report. -/
private theorem records_pairDraft (short : A.sampler.Short) (valid : minProbeFrame ≤ size) (id : UInt64)
    (now : Time) (B : Prober) (air : Air ν) (nonzero : B.eth ≠ .zero) :
    B.Records (.ofDraft id (A.pairDraft peer seq size (A.pendingReport peer now).1)) air
      (if A.config.reply = .piggyback ∧ B.config.reply = .piggyback ∧ 24 ≤ size ∧ peer = B.eth then
        some (A.forwardDelay peer now).1.micros else none) := by
  have told := A.pendingReport_eq short peer now
  have unaltered : (UInt16.ofNat (A.forwardDelay peer now).1.micros).toNat =
      (A.forwardDelay peer now).1.micros := short.answer_unaltered peer now
  generalize UInt16.ofNat (A.forwardDelay peer now).1.micros = field at told unaltered
  generalize (A.pendingReport peer now).1 = report at told
  have number : (Frame.ofDraft id (A.pairDraft peer seq size report)).probeSeq? = some seq :=
    (probe_sized valid rfl rfl).2
  have records := B.records_probe air number
  rw [reportTo?_probe valid rfl nonzero] at records
  have delay : (if B.config.reply = .piggyback then if 24 ≤ size then
      (report.filter (·.peer = B.eth)).map (·.micros.toNat) else none else none) =
      if A.config.reply = .piggyback ∧ B.config.reply = .piggyback ∧ 24 ≤ size ∧ peer = B.eth then
        some (A.forwardDelay peer now).1.micros else none := by
    rw [told, ← unaltered]
    cases A.config.reply <;> cases B.config.reply <;> by_cases own : peer = B.eth <;>
      simp [own, Option.filter_some]
  rwa [delay] at records

private theorem records_replyDraft (short : A.sampler.Short) (id : UInt64) (now : Time) (B : Prober)
    (air : Air ν) (own : B.eth = peer) :
    B.Records (.ofDraft id (A.replyDraft peer (A.forwardDelay peer now).1.micros)) air
      (some (A.forwardDelay peer now).1.micros) := by
  obtain ⟨size, read⟩ := report_of_reply ⟨peer, UInt16.ofNat (A.forwardDelay peer now).1.micros⟩
  have unaltered : (UInt16.ofNat (A.forwardDelay peer now).1.micros).toNat =
      (A.forwardDelay peer now).1.micros := short.answer_unaltered peer now
  have long : minProbeFrame ≤
      (Frame.ofDraft id (A.replyDraft peer (A.forwardDelay peer now).1.micros)).size :=
    Nat.le_trans (by decide) (Nat.le_of_eq size.symm)
  have records := B.records_reply air rfl long
  rwa [Frame.reportTo?_of_decode read, if_pos own.symm, unaltered] at records

/-- Delay reports survive the trip. A prober of valid settings, in whatever state its samples are,
sends two probes of just the sizes that are set, and nothing is written past their ends. If it lets
reports ride on probes, one with room for a report carries the delay that it has measured, or 65535
if there is none. A receiver that takes reports from probes records that delay as the newest one of
the sender; of all other probes it records nothing, and of no frame whose report names another
address. The field of sixteen bits alters no delay, in replies either. -/
theorem reports_survive_the_trip (valid : A.config.validate = .ok ())
    (sampled : A.sampler = (DelaySampler.empty function forwardAge reverseAge).run calls)
    (peer : EtherAddress) (air : Air μ) :
    let delay := (A.forwardDelay peer air.now).1.micros
    let report := (A.pendingReport peer air.now).1
    (A.sendPair peer air).2 =
        (air.post A.node (A.pairDraft peer 1 A.config.firstSize report)).post A.node
          (A.pairDraft peer 2 A.config.secondSize report) ∧
      (∀ seq size, seq = 1 ∧ size = A.config.firstSize ∨ seq = 2 ∧ size = A.config.secondSize →
        ∀ id, let frame := Frame.ofDraft id (A.pairDraft peer seq size report)
          fillPayload seq size report = some frame.payload ∧ frame.size = size ∧
          (A.config.reply = .piggyback → 24 ≤ size →
            DelayReport.decode (frame.payload.drop LinkProbe.size) =
              .ok ⟨peer, UInt16.ofNat delay⟩) ∧
          ∀ (B : Prober) (air' : Air ν), B.eth ≠ .zero → B.Records frame air'
            (if A.config.reply = .piggyback ∧ B.config.reply = .piggyback ∧ 24 ≤ size ∧
              peer = B.eth then some delay else none)) ∧
      (∀ (frame : Frame) (B : Prober) (air' : Air ν) (other : DelayReport),
        DelayReport.decode (frame.payload.drop LinkProbe.size) = .ok other →
          other.peer ≠ B.eth → B.Records frame air' none) ∧
      (UInt16.ofNat delay).toNat = delay ∧
      (delay = 65535 ↔ (A.sampler.measured peer).prune A.sampler.forwardAge air.now = []) ∧
      ∀ id (B : Prober) (air' : Air ν), B.eth = peer →
        B.Records (.ofDraft id (A.replyDraft peer delay)) air' (some delay) := by
  have short : A.sampler.Short :=
    sampled ▸ (DelaySampler.short_empty function forwardAge reverseAge).run calls
  obtain ⟨first, second⟩ := sizes_of_validate valid
  intro delay report
  refine ⟨A.sendPair_eq peer air, ?_, ?_, short.answer_unaltered peer air.now,
    A.forwardDelay_missing short peer air.now, ?_⟩
  · intro seq size either id frame
    have long : minProbeFrame ≤ size := by
      obtain ⟨-, rfl⟩ | ⟨-, rfl⟩ := either
      · exact first
      · exact second
    refine ⟨fillPayload_eq long seq report, (probe_sized long rfl rfl).1, ?_, ?_⟩
    · intro rides room
      obtain ⟨rest, behind⟩ := drop_probePayload long seq report
      have own : report = some ⟨peer, UInt16.ofNat delay⟩ :=
        (A.pendingReport_eq short peer air.now).trans (if_pos rides)
      rw [if_pos room, own, Option.map_some, Option.getD_some] at behind
      show DelayReport.decode ((probePayload seq size report).drop LinkProbe.size) = _
      rw [own, behind]
      exact (DelayReport.mk peer (UInt16.ofNat delay)).read_back.decode_append _
    · intro B air' nonzero
      exact records_pairDraft short long id air.now B air' nonzero
  · intro frame B air' other read apart
    exact B.records_none air' ((Frame.reportTo?_of_decode read B.eth).trans (if_neg apart))
  · intro id B air' own
    exact records_replyDraft short id air.now B air' own

end Trip

/-- Settings by which reports ride on probes, of which only the first has room for one. -/
def ridingConfig (i : Nat) : ProbingConfig :=
  { firstSize := 24, secondSize := 23, eth := some (.ofIndex i), reply := .piggyback }

/-- A prober of these settings with the samples that some calls have left. -/
def riding (i : Nat) (calls : List DelaySampler.Call) : Prober where
  node := i
  eth := .ofIndex i
  config := ridingConfig i
  sampler := (DelaySampler.empty .min (.ofSeconds 2) (.ofSeconds 12)).run calls
  neighbors := .empty
  rounds := .ofConfig (ridingConfig i) (.ofSeed 1) 0

/-- The frames of a pair of the second node come 120 microseconds apart. -/
def onePair : List DelaySampler.Call :=
  [.recordForward (.ofIndex 2) 1 .zero, .recordForward (.ofIndex 2) 2 (.ofMicros 120)]

/-- Of the next two probes to the second node the first one brings it that delay. -/
theorem one_delay_arrives :
    let A := riding 1 onePair
    let B := riding 2 []
    let report := (A.pendingReport (.ofIndex 2) (.ofMillis 1)).1
    A.config.validate = .ok () ∧ B.eth ≠ .zero ∧
      B.Records (.ofDraft 7 (A.pairDraft (.ofIndex 2) 1 24 report)) (stillAir (.ofMillis 2))
        (some 120) ∧
      B.Records (.ofDraft 8 (A.pairDraft (.ofIndex 2) 2 23 report)) (stillAir (.ofMillis 2))
        none := by
  intro A B report
  have passes : A.config.validate.toOption = some () := by decide +kernel
  have valid := ok_of_toOption passes
  have nonzero : B.eth ≠ .zero := by decide
  obtain ⟨-, probes, -⟩ := reports_survive_the_trip (A := A) (ν := Transcript) valid rfl
    (.ofIndex 2) (stillAir (.ofMillis 1))
  have first := (probes 1 24 (.inl ⟨rfl, rfl⟩) 7).2.2.2 B (stillAir (.ofMillis 2)) nonzero
  have second := (probes 2 23 (.inr ⟨rfl, rfl⟩) 8).2.2.2 B (stillAir (.ofMillis 2)) nonzero
  have measured : (A.forwardDelay (.ofIndex 2) (stillAir (.ofMillis 1)).now).1.micros = 120 := by
    decide +kernel
  rw [if_pos ⟨rfl, rfl, Nat.le_refl 24, rfl⟩, measured] at first
  rw [if_neg (by decide)] at second
  exact ⟨valid, nonzero, first, second⟩

end Prober

end WirelessMesh
