import WirelessMesh.Directory
import WirelessMesh.Simulation.Timer

namespace WirelessMesh

instance : Ranked Nat := ⟨id, fun same => same⟩

/-- What a script may ask of the simulator. Each scheduled event comes with its own actions. -/
inductive Action where
  | schedule (due : Time) (tag : Nat) (actions : List Action)
  | scheduleAfter (delay : Time) (tag : Nat) (actions : List Action)
  | cancel (id : EventId)
  | isPending (id : EventId)
  /-- Takes back the timer of a slot and puts a new one there. -/
  | rearm (slot : Nat) (delay : Time) (tag : Nat) (actions : List Action)
  /-- Takes back the timer of a slot. -/
  | disarm (slot : Nat)
  /-- Puts a new timer into a slot; one that was there goes on unheld. -/
  | hold (slot : Nat) (due : Time) (tag : Nat) (actions : List Action)
  | inspect (slot : Nat)
  /-- Empties a slot; the timer that was there goes on unheld. -/
  | release (slot : Nat)

/-- An event of a scripted world. -/
inductive ScriptEvent where
  | script (tag : Nat) (actions : List Action)
  /-- An event that means nothing to a scripted world. -/
  | foreign

/-- What an action answers. -/
inductive Answer where
  | nothing
  | id (id : EventId)
  | flag (value : Bool)
  /-- A timer, and whether it is still to fire. -/
  | timer (timer : Timer) (armed : Bool)

/-- A line of the notes that a scripted world takes. -/
inductive ScriptNote where
  | fired (tag : Nat) (time : Time)
  | answered (answer : Answer)

/-- The timers in slots, the notes so far (latest first) and the number of events carried out. -/
structure ScriptState where
  slots : Directory Nat Timer := .empty
  notes : List ScriptNote := []
  ticks : Nat := 0

/-- The one thing that a scripted world cannot do. -/
inductive ScriptFault where
  | foreignEvent

namespace ScriptState

def slot (state : ScriptState) (n : Nat) : TimerSlot := state.slots.get? n

def setSlot (state : ScriptState) (n : Nat) (timer : TimerSlot) : ScriptState :=
  match timer with
  | some timer => { state with slots := state.slots.insert n timer }
  | none => { state with slots := state.slots.erase n }

def note (state : ScriptState) (line : ScriptNote) : ScriptState :=
  { state with notes := line :: state.notes }

end ScriptState

/-- Performs one action. -/
def Action.perform (action : Action) (sim : Simulator ScriptEvent) (state : ScriptState) :
    Answer × Simulator ScriptEvent × ScriptState :=
  match action with
  | .schedule due tag actions =>
    let (id, sim) := sim.schedule due (.script tag actions)
    (.id id, sim, state)
  | .scheduleAfter delay tag actions =>
    let (id, sim) := sim.scheduleAfter delay (.script tag actions)
    (.id id, sim, state)
  | .cancel id =>
    let (was, sim) := sim.cancel id
    (.flag was, sim, state)
  | .isPending id => (.flag (sim.isPending id), sim, state)
  | .rearm n delay tag actions =>
    let (slot, sim) := (state.slot n).rearm sim delay (.script tag actions)
    (.nothing, sim, state.setSlot n slot)
  | .disarm n => (.nothing, (state.slot n).disarm sim, state.setSlot n none)
  | .hold n due tag actions =>
    let (timer, sim) := Timer.schedule sim due (.script tag actions)
    (.timer timer (timer.isArmed sim), sim, state.setSlot n (some timer))
  | .inspect n =>
    match state.slot n with
    | none => (.nothing, sim, state)
    | some timer => (.timer timer (timer.isArmed sim), sim, state)
  | .release n => (.nothing, sim, state.setSlot n none)

/-- Performs actions in order and notes what they answer. -/
def Action.performAll (actions : List Action) (sim : Simulator ScriptEvent) (state : ScriptState) :
    Simulator ScriptEvent × ScriptState :=
  actions.foldl (fun (sim, state) action =>
    let (answer, sim, state) := action.perform sim state
    (sim, state.note (.answered answer))) (sim, state)

/-- The world of scripted events; a tick counts the events carried out. -/
def scriptedWorld : World ScriptEvent ScriptState ScriptFault where
  execute event sim state :=
    match event with
    | .script tag actions => .ok (Action.performAll actions sim (state.note (.fired tag sim.now)))
    | .foreign => .error .foreignEvent
  tick sim state := (sim, { state with ticks := state.ticks + 1 })

end WirelessMesh
