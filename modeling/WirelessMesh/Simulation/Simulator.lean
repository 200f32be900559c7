import WirelessMesh.Simulation.Queue
import Std.Data.TreeSet

/-!
The simulator: a clock and the events to come. A cancelled event stays in the queue and is passed
over when its turn comes; `pending` holds the events that will still run. A run takes the events
in order, moves the clock to each and lets a world carry it out, which may schedule and cancel.
-/
namespace WirelessMesh

universe u v w

/-- A clock, the queue of events and the numbers of those that are still to run. The next number counts
what was ever scheduled, which 64 bits hold below `2 ^ 64`. -/
structure Simulator (ε : Type u) where
  now : Time
  nextId : EventId
  queue : EventQueue ε
  pending : Std.TreeSet Nat

namespace Simulator

variable {ε : Type u}

/-- A simulator at time zero with nothing to do. -/
def empty : Simulator ε := ⟨.zero, 0, .empty, ∅⟩

instance : Inhabited (Simulator ε) := ⟨empty⟩

/-- Schedules an event for a time, which may lie in the past: then it is due before all others. -/
def schedule (s : Simulator ε) (due : Time) (event : ε) : EventId × Simulator ε :=
  (s.nextId,
    { s with
      nextId := s.nextId + 1
      queue := s.queue.push ⟨due, s.nextId, event⟩
      pending := s.pending.insert s.nextId })

/-- Schedules an event for a delay from now. -/
def scheduleAfter (s : Simulator ε) (delay : Time) (event : ε) : EventId × Simulator ε :=
  s.schedule (s.now + delay) event

def isPending (s : Simulator ε) (id : EventId) : Bool := s.pending.contains id

/-- Takes an event off the ones to run; tells whether it was one of them. -/
def cancel (s : Simulator ε) (id : EventId) : Bool × Simulator ε :=
  (s.isPending id, { s with pending := s.pending.erase id })

def pendingCount (s : Simulator ε) : Nat := s.pending.size

/-- The next event to run, unless it is due after the limit, and the simulator at that event. -/
def next? (s : Simulator ε) (limit : Option Time) : Option (Scheduled ε × Simulator ε) :=
  let queue := s.queue.prune s.isPending
  match queue.top? with
  | none => none
  | some item =>
    if limit.any (· < item.due) then none
    else some (item,
      { s with now := item.due, queue := queue.tail, pending := s.pending.erase item.id })

end Simulator

/-- What carries out events, with a state of its own: `execute` carries out one event and `tick`
comes after each. -/
structure World (ε : Type u) (σ : Type v) (φ : Type w) where
  execute : ε → Simulator ε → σ → Except φ (Simulator ε × σ)
  tick : Simulator ε → σ → Simulator ε × σ := fun sim state => (sim, state)

/-- Why a run stopped before its end. -/
inductive Halt (φ : Type w) where
  /-- An event could not be carried out. -/
  | fault (cause : φ)
  /-- The number of events allowed for the run was used up. -/
  | exhausted

namespace World

variable {ε : Type u} {σ : Type v} {φ : Type w}

/-- The world in which events do nothing, so that a run only moves the clock. -/
def idle : World ε Unit Empty where
  execute _ sim state := .ok (sim, state)

/-- Carries out one event that has been taken from the queue. -/
def step (world : World ε σ φ) (event : ε) (sim : Simulator ε) (state : σ) :
    Except φ (Simulator ε × σ) :=
  (world.execute event sim state).map fun (sim, state) => world.tick sim state

/-- Runs events in order until none is due within the limit, `steps` events at most. -/
def drain (world : World ε σ φ) (limit : Option Time) :
    Nat → Simulator ε → σ → Except (Halt φ) (Simulator ε × σ)
  | steps, sim, state =>
    match sim.next? limit with
    | none => .ok (sim, state)
    | some (item, sim) =>
      match steps with
      | 0 => .error .exhausted
      | steps + 1 =>
        match world.step item.event sim state with
        | .error cause => .error (.fault cause)
        | .ok (sim, state) => drain world limit steps sim state

/-- The events that one run may take: more than any run can live to see. -/
def stepLimit : Nat := UInt64.size

/-- Runs every event there is, and every event that these schedule. -/
def run (world : World ε σ φ) (sim : Simulator ε) (state : σ) :
    Except (Halt φ) (Simulator ε × σ) :=
  world.drain none stepLimit sim state

/-- Runs the events due up to a time, then moves the clock there if it is not past it. -/
def runUntil (world : World ε σ φ) (limit : Time) (sim : Simulator ε) (state : σ) :
    Except (Halt φ) (Simulator ε × σ) :=
  (world.drain (some limit) stepLimit sim state).map fun (sim, state) =>
    ({ sim with now := max sim.now limit }, state)

end World

end WirelessMesh
