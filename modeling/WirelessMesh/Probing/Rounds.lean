import WirelessMesh.Air.Medium
import WirelessMesh.Config.Settings
import WirelessMesh.Random

namespace WirelessMesh

/-- A period given or taken up to a tenth of it, in milliseconds; a period too short for that
stays as it is. Sums of 64 bits are the same as long as the period and a tenth of it stay below `2 ^ 64`
together. -/
def jitteredMillis (periodMillis : Nat) (random : RandomSource) : Nat × RandomSource :=
  let spread := periodMillis / 10
  if spread = 0 then (periodMillis, random)
  else
    let (draw, random) := random.below (spread * 2)
    (periodMillis + draw - spread, random)

/-- The time before the first round of the batch schedule. -/
def batchWarmup : Time := .ofNanos 4_000_000_000

/-- The periods for which a staggered round keeps a silent neighbour. -/
def staggeredPeriods : Nat := 10

/-- The timers of probing and what they are set by. -/
structure ProbeRounds where
  schedule : ProbeSchedule
  period : Time
  margin : Float
  samples : Nat
  probeDelay : Time
  /-- Keeps nodes with neighbouring addresses apart. -/
  salt : UInt64
  random : RandomSource
  roundTimer : TimerSlot := none
  probeTimer : TimerSlot := none
  /-- Neighbours not heard after this time are not probed in this round. -/
  cutoff : Time := .zero

namespace ProbeRounds

def ofConfig (config : ProbingConfig) (random : RandomSource) (salt : UInt64) : ProbeRounds where
  schedule := config.schedule
  period := config.period
  margin := config.sampleMargin
  samples := config.samples
  probeDelay := config.probeDelay
  salt := salt
  random := random

/-- Seeds chance from the address and the time in milliseconds. -/
def reseed (r : ProbeRounds) (address : EtherAddress) (now : Time) : ProbeRounds :=
  { r with
    random := .ofSeed ((address.toWord + UInt64.ofNat now.millis) ^^^ r.salt) }

/-- The time before the first round. -/
def startOffset (r : ProbeRounds) (address : EtherAddress) (now : Time) : Time × ProbeRounds :=
  match r.schedule with
  | .staggered =>
    let r := r.reseed address now
    let (percent, random) := r.random.below 100
    (r.period.scale ((UInt64.ofNat percent).toFloat / 100), { r with random })
  | .batch => (batchWarmup, r)

/-- Starts a round: sets the time after which a neighbour must have been heard. -/
def beginRound (r : ProbeRounds) (now : Time) : ProbeRounds :=
  let periods := match r.schedule with
    | .staggered => staggeredPeriods
    | .batch => r.samples
  { r with cutoff := now - (r.period.scaleNat periods + r.period.scale r.margin) }

/-- The time from this round to the next. -/
def nextRoundDelay (r : ProbeRounds) (address : EtherAddress) (now : Time) : Time × ProbeRounds :=
  match r.schedule with
  | .staggered =>
    let r := r.reseed address now
    if r.period.millis / 10 = 0 then (r.period, r)
    else
      let (millis, random) := jitteredMillis r.period.millis r.random
      (.ofMillis millis, { r with random })
  | .batch => (r.period, r)

def armRound (r : ProbeRounds) (sim : Simulator MeshEvent) (delay : Time) (node : NodeId) :
    ProbeRounds × Simulator MeshEvent :=
  let (roundTimer, sim) := r.roundTimer.rearm sim delay (.timer node .probeRound)
  ({ r with roundTimer }, sim)

def armProbe (r : ProbeRounds) (sim : Simulator MeshEvent) (node : NodeId) :
    ProbeRounds × Simulator MeshEvent :=
  let (probeTimer, sim) := r.probeTimer.rearm sim r.probeDelay (.timer node .probeNext)
  ({ r with probeTimer }, sim)

/-- Takes back both timers. -/
def stop (r : ProbeRounds) (sim : Simulator MeshEvent) : ProbeRounds × Simulator MeshEvent :=
  ({ r with roundTimer := none, probeTimer := none }, r.probeTimer.disarm (r.roundTimer.disarm sim))

end ProbeRounds

end WirelessMesh
