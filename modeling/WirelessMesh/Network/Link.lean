import WirelessMesh.Air.Medium
import WirelessMesh.Random

/-!
A link in one direction. Frames go over it one at a time: each waits until the one before has left,
takes its length over the bandwidth to leave, and arrives after the latency. Which frames are lost
is decided by their numbers, so a run can be repeated.
-/
namespace WirelessMesh

structure Link where
  source : NodeId
  target : NodeId
  latency : Time
  /-- Bits per second. -/
  bandwidth : Nat
  /-- When the last frame leaves. -/
  busyUntil : Time
  lossPercent : Nat
  /-- Makes links lose different frames. -/
  salt : UInt64
  deriving DecidableEq

namespace Link

/-- A link that loses nothing. -/
def create (source target : NodeId) (latency : Time) (bandwidth : Nat) : Link where
  source := source
  target := target
  latency := latency
  bandwidth := bandwidth
  busyUntil := .zero
  lossPercent := 0
  salt := (UInt64.ofNat source <<< 32) ^^^ UInt64.ofNat target

/-- The time that stands for the transmission of anything over no bandwidth. -/
def stalled : Time := .ofNanos (0xffff_ffff_ffff_ffff / 4)

/-- The time that a number of bytes takes to leave, in nanoseconds rounded up. -/
def transmissionTime (l : Link) (bytes : UInt32) : Time :=
  if l.bandwidth = 0 then stalled
  else .ofNanos ((bytes.toNat * 8 * 1_000_000_000 + (l.bandwidth - 1)) / l.bandwidth)

/-- Whether the frame of a number is lost. -/
def drops (l : Link) (frame : UInt64) : Bool :=
  if l.lossPercent = 0 then false
  else if 100 ≤ l.lossPercent then true
  else (mix64 (frame ^^^ l.salt)).toNat % 100 < l.lossPercent

/-- When a frame handed over now has left. -/
def departure (l : Link) (now : Time) (bytes : UInt32) : Time :=
  max now l.busyUntil + l.transmissionTime bytes

end Link

end WirelessMesh
