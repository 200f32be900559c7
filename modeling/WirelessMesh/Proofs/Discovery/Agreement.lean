import WirelessMesh.Air.Transcript
import WirelessMesh.Proofs.Discovery.Frames
import WirelessMesh.Proofs.Probing.Samples

/-!
The two ends of a link agree on its rates. What a listener holds for its forward rate to a peer is
the reverse rate that the peer had for it when it sent the last frame that names the listener and
came through. Main statement: at every point of every history of two ends, the peer's next frame is
in order and the listener's forward rate is that reverse rate, until it is too old.
-/
namespace WirelessMesh

/-- Whether a discovery frame names a node. -/
def Frame.names (frame : Frame) (eth : EtherAddress) : Bool :=
  match DiscoveryProbe.decode frame.payload with
  | .ok probe => probe.entries.any (·.peer = eth)
  | .error _ => false

namespace DeliveryRates

/-- Work that does not change what is known of peers: on the timer, and sending. -/
inductive Tends (d : DeliveryRates) : DeliveryRates → Prop
  | started (sim : Simulator MeshEvent) : Tends d (d.start sim).1
  | stopped (sim : Simulator MeshEvent) : Tends d (d.stop sim).1
  | announced (air : Air Transcript) : Tends d (d.onTimer air).1

structure SameEnd (d d' : DeliveryRates) : Prop where
  eth : d'.eth = d.eth
  config : d'.config = d.config

variable {d d' : DeliveryRates} {frame : Frame} {probe : DiscoveryProbe} {now : Time}

theorem Tends.same (tends : d.Tends d') : d.SameEnd d' ∧ d'.peers = d.peers := by
  cases tends <;> exact ⟨⟨rfl, rfl⟩, rfl⟩

private theorem sameEnd_onFrame (d : DeliveryRates) (frame : Frame) (now : Time) :
    d.SameEnd (d.onFrame frame now) := by
  unfold onFrame
  split <;> exact ⟨rfl, rfl⟩

def reportOf (d : DeliveryRates) (peer : EtherAddress) : Option (Nat × Time) :=
  (d.peers.get? peer).bind (·.reported)

/-- The forward rate is what the peer last said, for as long as the window of rates. -/
private theorem forwardRate_eq (d : DeliveryRates) (peer : EtherAddress) (now : Time) :
    d.forwardRate peer now = (d.reportOf peer).bind fun report =>
      if now - report.2 ≤ d.config.window then some report.1 else none := by
  have late (said : Time) : d.config.window < now - said ↔ ¬ now - said ≤ d.config.window :=
    Nat.not_le.symm
  unfold forwardRate reportOf
  cases d.peers.get? peer with
  | none => rfl
  | some history =>
    obtain ⟨_, _, reported⟩ := history
    cases reported with
    | none => rfl
    | some report => simp only [Option.bind_eq_bind, Option.bind_some, late, ite_not]

theorem reportOf_hear (d : DeliveryRates) (source peer : EtherAddress) (probe : DiscoveryProbe)
    (now : Time) : (d.hear source probe now).reportOf peer =
      if peer = source then
        ((probe.entries.find? (·.peer = d.eth)).map fun entry => (entry.percent.toNat, now)).or
          (d.reportOf peer)
      else d.reportOf peer := by
  simp only [hear, reportOf, Directory.get?_insert, Ranked.rank_inj]
  by_cases same : peer = source
  · subst same
    rw [if_pos rfl, if_pos rfl]
    cases probe.entries.find? (·.peer = d.eth) with
    | some entry => rfl
    | none => cases d.peers.get? peer <;> rfl
  · rw [if_neg (Ne.symm same), if_neg same]

private theorem reportOf_onFrame_of_ne {peer : EtherAddress} (foreign : frame.source ≠ peer) :
    (d.onFrame frame now).reportOf peer = d.reportOf peer := by
  unfold onFrame
  split
  · rw [reportOf_hear, if_neg (Ne.symm foreign)]
  · rfl

/-- The first entry for a node says the sender's reverse rate for it. -/
theorem Tells.find {d : DeliveryRates} (tells : d.Tells now frame probe) {eth : EtherAddress}
    {entry : RateEntry} (found : probe.entries.find? (·.peer = eth) = some entry) :
    d.reverseRate eth now = some entry.percent.toNat := by
  have same := List.find?_some found
  exact of_decide_eq_true same ▸ tells.rates entry (List.mem_of_find?_eq_some found)

/-- A frame that names the listener replaces what the listener holds of the sender by the sender's
reverse rate; one that does not leaves it. -/
private theorem Tells.reportOf_onFrame {sender : DeliveryRates} {sentAt : Time}
    (tells : sender.Tells sentAt frame probe) (d : DeliveryRates) (number : UInt64) (now : Time) :
    (d.onFrame { frame with id := number } now).reportOf sender.eth =
      if frame.names d.eth then (sender.reverseRate d.eth sentAt).map fun percent => (percent, now)
      else d.reportOf sender.eth := by
  have heard : d.onFrame { frame with id := number } now = d.hear sender.eth probe now := by
    unfold onFrame
    simp only [tells.read, tells.source]
  have names : frame.names d.eth = probe.entries.any (·.peer = d.eth) := by
    unfold Frame.names
    simp only [tells.read]
  rw [heard, reportOf_hear, if_pos rfl, names, ← List.isSome_find?]
  cases found : probe.entries.find? (·.peer = d.eth) with
  | none => rfl
  | some entry =>
    rw [tells.find found]
    rfl

/-- A node sends its frame to all, and sets the time of the next about a period later. -/
private theorem onTimer_paced (d : DeliveryRates) (air : Air Transcript) : ∃ millis,
    (d.onTimer air).1.timer.map (·.firesAt) = some (air.now + .ofMillis millis) ∧
      d.config.periodMillis ≤ millis + d.config.periodMillis / 10 ∧
      millis ≤ d.config.periodMillis + d.config.periodMillis / 10 := by
  obtain ⟨draw, within, off⟩ := jitteredMillis_off d.config.periodMillis d.random
  refine ⟨(jitteredMillis d.config.periodMillis d.random).1, ?_, ?_, ?_⟩
  · show some ((d.timer.disarm air.sim).now + _) = _
    cases d.timer <;> rfl
  · omega
  · omega

end DeliveryRates

/-- A discovery frame with what its sender knew when it left, and when that was. -/
structure Telling where
  frame : Frame
  sender : DeliveryRates
  sentAt : Time

/-- Two ends of a link, with the frames that one has sent and those of them that the other has
heard, and when; the latest first. -/
structure Correspondence where
  listener : DeliveryRates
  peer : DeliveryRates
  sent : List Telling := []
  heard : List (Telling × Time) := []

namespace Correspondence

/-- The last frame that came through and names the listener, and when it came. -/
def latest? (c : Correspondence) : Option (Telling × Time) :=
  c.heard.find? (·.1.frame.names c.listener.eth)

/-- The listener's forward rate is the reverse rate that the peer had for it when it sent the last
frame that came through and names it, as long as this is no older than the listener's window, and
else there is none. -/
structure Agrees (c : Correspondence) (now : Time) : Prop where
  unnamed : c.latest? = none → c.listener.forwardRate c.peer.eth now = none
  named : ∀ telling heardAt, c.latest? = some (telling, heardAt) → ∃ percent ≤ 100,
    telling.sender.reverseRate c.listener.eth telling.sentAt = some percent ∧
    c.listener.forwardRate c.peer.eth now =
      if now - heardAt ≤ c.listener.config.window then some percent else none

/-- One thing that happens at one of the ends. A frame may be heard never, late, or more than
once. -/
inductive Step : Correspondence → Correspondence → Prop
  | announced (c : Correspondence) (air : Air Transcript) (frame : Frame)
      (few : c.peer.peers.size < 2 ^ 16)
      (out : (c.peer.onTimer air).2.medium.lines =
        ⟨.broadcast, c.peer.node, frame⟩ :: air.medium.lines) :
      Step c { c with
        peer := (c.peer.onTimer air).1, sent := ⟨frame, c.peer, air.now⟩ :: c.sent }
  | heard (c : Correspondence) (telling : Telling) (sent : telling ∈ c.sent) (number : UInt64)
      (now : Time) :
      Step c { c with
        listener := c.listener.onFrame { telling.frame with id := number } now
        heard := (telling, now) :: c.heard }
  | heardOther (c : Correspondence) (frame : Frame) (foreign : frame.source ≠ c.peer.eth)
      (now : Time) :
      Step c { c with listener := c.listener.onFrame frame now }
  | peerHeard (c : Correspondence) (frame : Frame) (now : Time) :
      Step c { c with peer := c.peer.onFrame frame now }
  | tended (c : Correspondence) (listener : DeliveryRates) (tends : c.listener.Tends listener) :
      Step c { c with listener }
  | peerTended (c : Correspondence) (peer : DeliveryRates) (tends : c.peer.Tends peer) :
      Step c { c with peer }

/-- Two ends after any history since both were made. -/
inductive Reached : Correspondence → Prop
  | created {node node' : NodeId} {eth eth' : EtherAddress} {config config' : DiscoveryConfig}
      {random random' : RandomSource} {listener peer : DeliveryRates}
      (made : DeliveryRates.create node eth config random = .ok listener)
      (made' : DeliveryRates.create node' eth' config' random' = .ok peer)
      (period : config'.periodMillis < 2 ^ 32) : Reached { listener, peer }
  | step {c c' : Correspondence} (reached : Reached c) (step : Step c c') : Reached c'

structure Sound (c : Correspondence) : Prop where
  valid : c.peer.config.validate = .ok ()
  period : c.peer.config.periodMillis < 2 ^ 32
  /-- Every frame sent tells the rates of the moment. -/
  sent : ∀ telling ∈ c.sent, telling.sender.eth = c.peer.eth ∧
    ∃ probe, telling.sender.Tells telling.sentAt telling.frame probe
  heard : ∀ h ∈ c.heard, h.1 ∈ c.sent
  /-- The listener holds what the last frame that names it told. -/
  held : c.listener.reportOf c.peer.eth = c.latest?.bind fun h =>
    (h.1.sender.reverseRate c.listener.eth h.1.sentAt).map fun percent => (percent, h.2)

variable {c c' : Correspondence}

theorem Sound.bounded (sound : c.Sound) (few : c.peer.peers.size < 2 ^ 16) : c.peer.Bounded :=
  ⟨sound.valid, sound.period, few⟩

private theorem Sound.of_create {node node' : NodeId} {eth eth' : EtherAddress}
    {config config' : DiscoveryConfig} {random random' : RandomSource}
    {listener peer : DeliveryRates}
    (made : DeliveryRates.create node eth config random = .ok listener)
    (made' : DeliveryRates.create node' eth' config' random' = .ok peer)
    (period : config'.periodMillis < 2 ^ 32) : Sound { listener, peer } := by
  simp only [DeliveryRates.create, bind, Except.bind] at made made'
  split at made
  · cases made
  · split at made'
    · cases made'
    · next valid =>
      cases made
      cases made'
      exact ⟨valid, period, nofun, nofun, rfl⟩

private theorem Sound.of_listener (sound : c.Sound) {listener : DeliveryRates}
    (same : c.listener.SameEnd listener)
    (held : listener.reportOf c.peer.eth = c.listener.reportOf c.peer.eth) :
    Sound { c with listener } where
  valid := sound.valid
  period := sound.period
  sent := sound.sent
  heard := sound.heard
  held := by
    have latest : ({ c with listener } : Correspondence).latest? = c.latest? := by
      simp only [latest?, same.eth]
    rw [held, latest, sound.held, same.eth]

private theorem Sound.of_peer (sound : c.Sound) {peer : DeliveryRates} (same : c.peer.SameEnd peer) :
    Sound { c with peer } where
  valid := same.config ▸ sound.valid
  period := same.config ▸ sound.period
  sent := same.eth ▸ sound.sent
  heard := sound.heard
  held := same.eth ▸ sound.held

private theorem Sound.tells_of_out (sound : c.Sound) {air : Air Transcript} {frame : Frame}
    (few : c.peer.peers.size < 2 ^ 16)
    (out : (c.peer.onTimer air).2.medium.lines =
      ⟨.broadcast, c.peer.node, frame⟩ :: air.medium.lines) :
    c.peer.Tells air.now frame (c.peer.nextProbe air.now) := by
  have line := (List.cons.inj out).1
  have is : Frame.ofDraft _ (c.peer.nextDraft air.now) = frame := (Transmission.mk.inj line).2.2
  exact is ▸ (sound.bounded few).tells air.now _

theorem Sound.step (sound : c.Sound) (step : Step c c') : c'.Sound := by
  cases step with
  | announced air frame few out =>
    have same := (DeliveryRates.Tends.announced air : c.peer.Tends _).same.1
    have after := sound.of_peer same
    refine ⟨after.valid, after.period, fun telling member => ?_, fun h member => ?_, after.held⟩
    · rcases List.mem_cons.mp member with rfl | earlier
      · exact ⟨same.eth.symm, _, sound.tells_of_out few out⟩
      · exact after.sent telling earlier
    · exact List.mem_cons_of_mem _ (sound.heard h member)
  | heard telling member number now =>
    obtain ⟨origin, probe, tells⟩ := sound.sent telling member
    have same := c.listener.sameEnd_onFrame { telling.frame with id := number } now
    refine ⟨sound.valid, sound.period, sound.sent, fun h there => ?_, ?_⟩
    · rcases List.mem_cons.mp there with rfl | earlier
      · exact member
      · exact sound.heard h earlier
    · have held := tells.reportOf_onFrame c.listener number now
      rw [origin] at held
      simp only [latest?, same.eth, List.find?_cons, held]
      split
      · next named => rw [named]; rfl
      · next unnamed =>
        rw [Bool.eq_false_iff.mpr unnamed]
        exact sound.held
  | heardOther frame foreign now =>
    exact sound.of_listener (c.listener.sameEnd_onFrame frame now)
      (DeliveryRates.reportOf_onFrame_of_ne foreign)
  | peerHeard frame now => exact sound.of_peer (c.peer.sameEnd_onFrame frame now)
  | tended listener tends =>
    obtain ⟨same, peers⟩ := tends.same
    exact sound.of_listener same (by simp only [DeliveryRates.reportOf, peers])
  | peerTended peer tends => exact sound.of_peer tends.same.1

theorem Reached.sound (reached : c.Reached) : c.Sound := by
  induction reached with
  | created made made' period => exact .of_create made made' period
  | step _ step ih => exact ih.step step

theorem Sound.rated (sound : c.Sound) {h : Telling × Time} (latest : c.latest? = some h) :
    ∃ percent ≤ 100,
      h.1.sender.reverseRate c.listener.eth h.1.sentAt = some percent := by
  have there := List.mem_of_find?_eq_some latest
  obtain ⟨-, probe, tells⟩ := sound.sent h.1 (sound.heard h there)
  have names := List.find?_some latest
  simp only [Frame.names, tells.read, ← List.isSome_find?] at names
  obtain ⟨entry, found⟩ := Option.isSome_iff_exists.mp names
  exact ⟨_, DeliveryRates.reverseRate_le (tells.find found), tells.find found⟩

theorem Sound.agrees (sound : c.Sound) (now : Time) : c.Agrees now where
  unnamed unnamed := by rw [DeliveryRates.forwardRate_eq, sound.held, unnamed]; rfl
  named telling heardAt latest := by
    obtain ⟨percent, small, rated⟩ := sound.rated latest
    refine ⟨percent, small, rated, ?_⟩
    rw [DeliveryRates.forwardRate_eq, sound.held, latest]
    simp only [Option.bind_some, rated, Option.map_some]

/-- The peer's next frame goes to all at its full size and says its next number, its period and the
rates of as many peers as there is room for, in ascending order, and the one after it is set for
about a period later; and the listener's forward rate is the peer's reverse rate. -/
theorem ends_agree_on_rates (reached : c.Reached) :
    (c.peer.peers.size < 2 ^ 16 → ∀ air : Air Transcript, ∃ frame probe,
      (c.peer.onTimer air).2.medium.lines =
          ⟨.broadcast, c.peer.node, frame⟩ :: air.medium.lines ∧
        c.peer.Tells air.now frame probe ∧ (c.peer.onTimer air).1.seq = probe.seq ∧
        ∃ millis, (c.peer.onTimer air).1.timer.map (·.firesAt) =
            some (air.now + .ofMillis millis) ∧
          c.peer.config.periodMillis ≤ millis + c.peer.config.periodMillis / 10 ∧
          millis + c.peer.config.periodMillis / 10 < 2 ^ 33) ∧
    ∀ now, c.Agrees now := by
  have sound := reached.sound
  refine ⟨fun few air => ?_, sound.agrees⟩
  obtain ⟨millis, due, least, most⟩ := c.peer.onTimer_paced air
  have period := sound.period
  exact ⟨_, _, rfl, (sound.bounded few).tells air.now _, rfl, millis, due, least, by omega⟩

def announce (c : Correspondence) (now : Time) : Correspondence :=
  { c with
    peer := (c.peer.onTimer (⟨{ Simulator.empty with now }, {}⟩ : Air Transcript)).1
    sent := ⟨.ofDraft 1 (c.peer.nextDraft now), c.peer, now⟩ :: c.sent }

def passOn (c : Correspondence) (now : Time) : Correspondence :=
  match c.sent with
  | [] => c
  | telling :: _ => { c with
      listener := c.listener.onFrame { telling.frame with id := 7 } now
      heard := (telling, now) :: c.heard }

theorem Reached.announce (reached : c.Reached) (few : c.peer.peers.size < 2 ^ 16) (now : Time) :
    (c.announce now).Reached :=
  reached.step (.announced c _ _ few rfl)

theorem Reached.passOn (reached : c.Reached) (now : Time) : (c.passOn now).Reached := by
  unfold Correspondence.passOn
  split
  · exact reached
  · next telling earlier sent =>
    exact reached.step (.heard c telling (sent ▸ List.mem_cons_self) 7 now)

def silentEnd (i : Nat) : DeliveryRates :=
  ⟨i, .ofIndex i, {}, 0, .empty, .ofSeed 1, none⟩

/-- Two ends of which the peer has heard one frame of the listener. -/
def heardOnce : Correspondence where
  listener := silentEnd 0
  peer := (silentEnd 1).onFrame (.ofDraft 1 ((silentEnd 0).nextDraft .zero)) (.ofMillis 100)

theorem silentEnd_created (i : Nat) :
    DeliveryRates.create i (.ofIndex i) {} (.ofSeed 1) = .ok (silentEnd i) := rfl

private theorem heardOnce_reached : heardOnce.Reached :=
  .step (.created (silentEnd_created 0) (silentEnd_created 1) (by decide)) (.peerHeard _ _ _)

/-- The peer's next frame comes through and the one after it is lost. -/
def toldOnce : Correspondence := (heardOnce.announce (.ofMillis 500)).passOn (.ofMillis 600)

private theorem toldOnce_reached : toldOnce.Reached :=
  (heardOnce_reached.announce (by decide +kernel) _).passOn _

/-- The peer heard one frame of the ten in its window, and the listener says so after the peer's
next frame came through, until the word of it is too old; a later frame that is lost changes
nothing. -/
theorem forward_rate_until_old : ∃ c : Correspondence, c.Reached ∧ c.latest?.isSome = true ∧
    c.listener.forwardRate c.peer.eth (.ofMillis 10600) = some 10 ∧
    c.listener.forwardRate c.peer.eth (.ofMillis 10601) = none ∧
    c.Agrees (.ofMillis 10600) ∧ c.Agrees (.ofMillis 10601) := by
  have few : toldOnce.peer.peers.size < 2 ^ 16 := by decide +kernel
  have reached : (toldOnce.announce (.ofMillis 1500)).Reached := toldOnce_reached.announce few _
  refine ⟨_, reached, ?_, ?_, ?_, ?_, ?_⟩
  · decide +kernel
  · decide +kernel
  · decide +kernel
  · exact (ends_agree_on_rates reached).2 _
  · exact (ends_agree_on_rates reached).2 _

end Correspondence

end WirelessMesh
