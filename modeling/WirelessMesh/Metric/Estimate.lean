import WirelessMesh.Config.Settings
import WirelessMesh.Metric.Basic

/-!
The metric of a link: how often a packet has to be sent until it arrives, times how long one
sending takes. The first comes from the delivery rates of both directions, the second from the
delay between the two frames of a probe pair.

Quotients are those that a double holds: the exact ratio rounded to 53 binary digits, halfway to the
even neighbour. Counts below `2 ^ 53` lie well inside the range of exponents, so this is all there is
to it.
-/
namespace WirelessMesh

/-- A quotient of counts. Nothing over nothing is no quotient, and a count over nothing is beyond
all counts. -/
inductive Quotient64 where
  | finite (num den : Nat)
  | infinite
  | undefined
  deriving DecidableEq

namespace Quotient64

/-- `num / den` rounded to 53 binary digits, for positive counts. -/
def round (num den : Nat) : Quotient64 :=
  let shift := den.log2 + 54
  let scaled := num <<< shift
  let drop := (scaled / den).log2 - 52
  let unit := den <<< drop
  let below := scaled / unit
  let rest := scaled % unit
  let digits :=
    if unit < 2 * rest ∨ (2 * rest = unit ∧ below % 2 = 1) then below + 1 else below
  finite (digits <<< drop) (1 <<< shift)

/-- The rounded quotient of two counts. -/
def ofCounts (num den : Nat) : Quotient64 :=
  if den = 0 then (if num = 0 then undefined else infinite)
  else if num = 0 then finite 0 1
  else round num den

/-- A count over a quotient, rounded again. -/
def divide (count : Nat) : Quotient64 → Quotient64
  | finite num den => ofCounts (count * den) num
  | infinite => finite 0 1
  | undefined => undefined

/-- The quotient cut to a whole 32-bit count: the largest one if it is larger, none if there is no
quotient. -/
def toCost : Quotient64 → UInt32
  | finite num den => UInt32.ofNat (min (num / den) 0xffff_ffff)
  | infinite => UInt32.ofNat 0xffff_ffff
  | undefined => 0

end Quotient64

/-- The expected number of transmissions, times one hundred. The link cannot be used while a rate
is unknown or zero. -/
def expectedTransmissions (forward reverse : Option Nat) : Metric :=
  match forward, reverse with
  | some forward, some reverse =>
    if forward = 0 ∨ reverse = 0 then .bad
    else .good (UInt32.ofNat (1000000 / (min forward 100 * min reverse 100)))
  | _, _ => .bad

/-- The time of one transmission: the packet size over the bandwidth, which is the size of a probe
over its delay beyond the calibration. -/
def transmissionTime (delayMicros probeSize : Nat) (config : MetricConfig) : UInt32 :=
  let delay := max (delayMicros - config.calibrationMicros) 1
  ((Quotient64.ofCounts probeSize delay).divide config.packetSize).toCost

/-- Expected transmissions times the time of one. -/
def expectedTransmissionTime (transmissions : Metric) (delayMicros probeSize : Nat)
    (config : MetricConfig) : Metric :=
  match transmissions with
  | .good count => .good (Metric.mulCost count (transmissionTime delayMicros probeSize config))
  | .bad => .bad

end WirelessMesh
