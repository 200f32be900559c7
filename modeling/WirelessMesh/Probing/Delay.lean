import WirelessMesh.Address.Ether
import WirelessMesh.Config.Settings
import WirelessMesh.Directory

/-!
Delay samples. Of a peer that probes this node the gap between the frames of its latest pair is
kept; of a peer that this node probes, all gaps that it reported within a window. Samples that are
too old are dropped when they are looked for, not before.
-/
namespace WirelessMesh

/-- The delay that stands for no sample. Measured delays are smaller. -/
def noDelay : Nat := 65535

/-- A delay and when it was seen. -/
structure DelaySample where
  micros : Nat
  seenAt : Time
  deriving DecidableEq

namespace DelaySample

/-- What a look for a sample answers when there is none. -/
def missing (now : Time) : DelaySample := ⟨noDelay, now⟩

def isMissing (s : DelaySample) : Bool := noDelay ≤ s.micros

end DelaySample

/-- Samples, the newest first. -/
abbrev DelayWindow := List DelaySample

namespace DelayWindow

/-- Cuts a window at the first sample that is older than allowed. -/
def prune (window : DelayWindow) (maxAge now : Time) : DelayWindow :=
  window.takeWhile fun s => now - maxAge ≤ s.seenAt

/-- The smaller of two samples, the first one of two that are equal. -/
def smaller (best s : DelaySample) : DelaySample := if best.micros ≤ s.micros then best else s

/-- The sample that stands for a window. -/
def aggregate (window : DelayWindow) (function : SampleFunction) : Option DelaySample :=
  match window, function with
  | [], _ => none
  | newest :: older, .min => some (older.foldl smaller newest)
  | newest :: _, .ewma => some newest

end DelayWindow

/-- What is known of one direction of a link. -/
structure LinkDelays where
  /-- When the first frame of a pair came that still lacks its second. -/
  mark : Option Time := none
  window : DelayWindow := []
  deriving DecidableEq

/-- The delays of both directions of all links of a node. -/
structure DelaySampler where
  function : SampleFunction
  /-- The greatest age of a sample that this node measured. -/
  forwardAge : Time
  /-- The greatest age of a sample that a peer reported. -/
  reverseAge : Time
  forward : Directory EtherAddress LinkDelays
  reverse : Directory EtherAddress LinkDelays

namespace DelaySampler

def empty (function : SampleFunction) (forwardAge reverseAge : Time) : DelaySampler :=
  ⟨function, forwardAge, reverseAge, .empty, .empty⟩

/-- Takes in one frame of a probe pair. The first frame leaves a mark; the second one right behind
it makes a sample of the time between them, unless that is too long for one; any other frame wipes
the mark. Answers the sample's delay. -/
def recordForward (s : DelaySampler) (peer : EtherAddress) (seq : UInt16) (now : Time) :
    Option Nat × DelaySampler :=
  let link := (s.forward.get? peer).getD {}
  let (delay, link) : Option Nat × LinkDelays :=
    if seq = 1 then (none, { link with mark := some now })
    else
      match link.mark with
      | some mark =>
        let gap := (now - mark).micros
        if seq = 2 ∧ gap < noDelay then (some gap, ⟨none, [⟨gap, now⟩]⟩)
        else (none, { link with mark := none })
      | none => (none, link)
  (delay, { s with forward := s.forward.insert peer link })

/-- Takes in a delay that a peer reported. -/
def recordReverse (s : DelaySampler) (peer : EtherAddress) (micros : Nat) (now : Time) :
    DelaySampler :=
  let link := (s.reverse.get? peer).getD {}
  { s with reverse := s.reverse.insert peer { link with window := ⟨micros, now⟩ :: link.window } }

/-- Drops the samples of one peer that are too old. -/
def pruneLink (links : Directory EtherAddress LinkDelays) (peer : EtherAddress) (maxAge now : Time) :
    Directory EtherAddress LinkDelays :=
  links.modify peer fun link => { link with window := link.window.prune maxAge now }

/-- The window of a peer, which is empty for an unknown one. -/
def windowOf (links : Directory EtherAddress LinkDelays) (peer : EtherAddress) : DelayWindow :=
  ((links.get? peer).map (·.window)).getD []

/-- The latest gap that was measured for a peer. -/
def forwardDelay (s : DelaySampler) (peer : EtherAddress) (now : Time) :
    DelaySample × DelaySampler :=
  let s := { s with forward := pruneLink s.forward peer s.forwardAge now }
  ((windowOf s.forward peer).head?.getD (.missing now), s)

/-- The sample that stands for what a peer has reported. -/
def reverseDelay (s : DelaySampler) (peer : EtherAddress) (now : Time) :
    DelaySample × DelaySampler :=
  let s := { s with reverse := pruneLink s.reverse peer s.reverseAge now }
  (((windowOf s.reverse peer).aggregate s.function).getD (.missing now), s)

/-- Takes the latest gap of a peer away, so that it is reported once. -/
def takeForward (s : DelaySampler) (peer : EtherAddress) : Option DelaySample × DelaySampler :=
  ((windowOf s.forward peer).head?,
    { s with forward := s.forward.modify peer fun link => { link with window := link.window.tail } })

end DelaySampler

end WirelessMesh
