import WirelessMesh.Air.Medium
import WirelessMesh.Config.Settings
import WirelessMesh.Directory
import WirelessMesh.Probing.Rounds
import WirelessMesh.Wire.Discovery

/-!
Delivery rates. Every node broadcasts discovery frames at a known pace, so a listener knows how many
it should have heard within a window. The share that it did hear is the reverse rate of the link,
and it tells the sender in its own discovery frames, where it is the sender's forward rate.
-/
namespace WirelessMesh

/-- What was heard of one peer. -/
structure PeerHistory where
  /-- Arrivals of its frames within the window, the oldest first. -/
  arrivals : List Time := []
  periodMillis : Nat := 0
  /-- The share of this node's frames that the peer has heard, and when it said so. -/
  reported : Option (Nat × Time) := none
  deriving DecidableEq

/-- The share of the frames due from a peer within a window that arrived in it, in percent. -/
def PeerHistory.rate (history : PeerHistory) (windowMillis : Nat) (cutoff : Time) : Option Nat :=
  if history.periodMillis = 0 then none
  else
    let heard := history.arrivals.countP (cutoff ≤ ·)
    let expected := max (windowMillis / history.periodMillis) 1
    some (min (heard * 100 / expected) 100)

/-- The part of a node that sends and hears discovery frames. -/
structure DeliveryRates where
  node : NodeId
  eth : EtherAddress
  config : DiscoveryConfig
  seq : UInt32
  peers : Directory EtherAddress PeerHistory
  random : RandomSource
  timer : TimerSlot

namespace DeliveryRates

def create (node : NodeId) (eth : EtherAddress) (config : DiscoveryConfig)
    (random : RandomSource) : Except ConfigError DeliveryRates := do
  config.validate
  return ⟨node, eth, config, 0, .empty, random, none⟩

/-- Whether discovery is going on. -/
def isArmed (d : DeliveryRates) (sim : Simulator MeshEvent) : Bool := d.timer.isArmed sim

def arm (d : DeliveryRates) (sim : Simulator MeshEvent) (delay : Time) :
    DeliveryRates × Simulator MeshEvent :=
  let (timer, sim) := d.timer.rearm sim delay (.timer d.node .discovery)
  ({ d with timer }, sim)

/-- Starts discovery at some moment within a period. -/
def start (d : DeliveryRates) (sim : Simulator MeshEvent) : DeliveryRates × Simulator MeshEvent :=
  let (millis, random) := d.random.below d.config.periodMillis
  { d with random }.arm sim (.ofMillis millis)

def stop (d : DeliveryRates) (sim : Simulator MeshEvent) : DeliveryRates × Simulator MeshEvent :=
  ({ d with timer := none }, d.timer.disarm sim)

/-- The start of the window that ends now. -/
def cutoff (d : DeliveryRates) (now : Time) : Time := now - d.config.window

/-- The share of this node's frames that a peer has heard, as far as it said so within the
window. -/
def forwardRate (d : DeliveryRates) (peer : EtherAddress) (now : Time) : Option Nat := do
  let history ← d.peers.get? peer
  let (percent, saidAt) ← history.reported
  if d.config.window < now - saidAt then none else some percent

/-- The share of a peer's frames that this node has heard. -/
def reverseRate (d : DeliveryRates) (peer : EtherAddress) (now : Time) : Option Nat := do
  let history ← d.peers.get? peer
  history.rate d.config.windowMillis (d.cutoff now)

/-- The peers that were heard within the window, in ascending order. -/
def neighbors (d : DeliveryRates) (now : Time) : List EtherAddress :=
  (d.peers.entries.filter fun entry => entry.2.arrivals.getLast?.any (d.cutoff now ≤ ·)).map (·.1)

def payloadSize (d : DeliveryRates) : Nat := d.config.probeSize - FrameHeader.size

/-- The number of entries for which a discovery frame has room. -/
def entryRoom (d : DeliveryRates) : Nat :=
  (d.payloadSize - DiscoveryProbe.headerSize) / RateEntry.size

/-- The rates that a discovery frame sent now reports. -/
def rateEntries (d : DeliveryRates) (now : Time) : List RateEntry :=
  (d.peers.keys.filterMap fun peer =>
    (d.reverseRate peer now).map fun percent => ⟨peer, UInt16.ofNat percent⟩).take d.entryRoom

section Sending

variable {μ : Type} [Medium μ]

/-- Broadcasts the next discovery frame. -/
def sendProbe (d : DeliveryRates) (air : Air μ) : DeliveryRates × Air μ :=
  let d' := { d with seq := d.seq + 1 }
  let probe : DiscoveryProbe :=
    ⟨d'.seq, UInt32.ofNat d.config.periodMillis, d.rateEntries air.now⟩
  let payload := padTo d.payloadSize probe.encode
  (d', air.announce d.node ⟨.broadcast, d.eth, FrameType.discovery, payload⟩)

/-- Broadcasts a discovery frame and sets the time of the next. -/
def onTimer (d : DeliveryRates) (air : Air μ) : DeliveryRates × Air μ :=
  let (d, air) := d.sendProbe air
  let (millis, random) := jitteredMillis d.config.periodMillis d.random
  let (d, sim) := { d with random }.arm air.sim (.ofMillis millis)
  (d, { air with sim })

end Sending

/-- Takes in the payload of a peer's discovery frame. -/
def hear (d : DeliveryRates) (peer : EtherAddress) (probe : DiscoveryProbe) (now : Time) :
    DeliveryRates :=
  let history := (d.peers.get? peer).getD {}
  let arrivals := (history.arrivals ++ [now]).dropWhile (· < d.cutoff now)
  let reported :=
    match probe.entries.find? (·.peer = d.eth) with
    | some entry => some (entry.percent.toNat, now)
    | none => history.reported
  { d with peers := d.peers.insert peer ⟨arrivals, probe.periodMillis.toNat, reported⟩ }

/-- Takes in a discovery frame; one that cannot be read is ignored. -/
def onFrame (d : DeliveryRates) (frame : Frame) (now : Time) : DeliveryRates :=
  match DiscoveryProbe.decode frame.payload with
  | .ok probe => d.hear frame.source probe now
  | .error _ => d

end DeliveryRates

end WirelessMesh
