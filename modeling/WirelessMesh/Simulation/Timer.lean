import WirelessMesh.Simulation.Simulator

namespace WirelessMesh

universe u

/-- A scheduled event as its holder knows it. -/
structure Timer where
  id : EventId
  firesAt : Time
  deriving DecidableEq

namespace Timer

variable {ε : Type u}

def schedule (sim : Simulator ε) (due : Time) (event : ε) : Timer × Simulator ε :=
  let (id, sim) := sim.schedule due event
  (⟨id, due⟩, sim)

def scheduleAfter (sim : Simulator ε) (delay : Time) (event : ε) : Timer × Simulator ε :=
  schedule sim (sim.now + delay) event

/-- Whether the event is still to come. -/
def isArmed (timer : Timer) (sim : Simulator ε) : Bool := sim.isPending timer.id

def cancel (timer : Timer) (sim : Simulator ε) : Simulator ε := (sim.cancel timer.id).2

end Timer

/-- The place of a timer, which may be empty. A timer that has fired stays in its place. -/
abbrev TimerSlot := Option Timer

namespace TimerSlot

variable {ε : Type u}

/-- Whether there is a timer that is still to fire. -/
def isArmed (slot : TimerSlot) (sim : Simulator ε) : Bool := slot.any (·.isArmed sim)

/-- Takes back the timer of a slot. -/
def disarm (slot : TimerSlot) (sim : Simulator ε) : Simulator ε :=
  match slot with
  | none => sim
  | some timer => timer.cancel sim

/-- A slot that fires after a delay, in place of what it held. -/
def rearm (slot : TimerSlot) (sim : Simulator ε) (delay : Time) (event : ε) :
    TimerSlot × Simulator ε :=
  let (timer, sim) := Timer.scheduleAfter (disarm slot sim) delay event
  (some timer, sim)

end TimerSlot

end WirelessMesh
