import WirelessMesh.Proofs.Simulation.Agenda

/-!
Sessions with a simulator: a program schedules, cancels and asks, and lets the simulator run; the
events that it carries out are programs too. A session notes all that happens and every answer.
Runs of the real simulator are sessions, and a session cannot tell it from an agenda.
-/
namespace WirelessMesh

universe u v w x

/-- What can be done with a simulator or an agenda. -/
class Timeline (τ : Type v) (ε : outParam (Type u)) where
  now : τ → Time
  schedule : τ → Time → ε → EventId × τ
  scheduleAfter : τ → Time → ε → EventId × τ
  cancel : τ → EventId → Bool × τ
  isPending : τ → EventId → Bool
  pendingCount : τ → Nat
  next? : τ → Option Time → Option (Scheduled ε × τ)
  /-- Moves the clock to a time that it is not past. -/
  wait : τ → Time → τ

instance Simulator.timeline {ε : Type u} : Timeline (Simulator ε) ε where
  now := now
  schedule := schedule
  scheduleAfter := scheduleAfter
  cancel := cancel
  isPending := isPending
  pendingCount := pendingCount
  next? := next?
  wait s limit := { s with now := max s.now limit }

instance Agenda.timeline {ε : Type u} : Timeline (Agenda ε) ε where
  now := now
  schedule := schedule
  scheduleAfter := scheduleAfter
  cancel := cancel
  isPending := isPending
  pendingCount := pendingCount
  next? := next?
  wait a limit := { a with now := max a.now limit }

/-- What an event may do while it is carried out, each step depending on the answers so far. -/
inductive Program (ε : Type u) (α : Type v) where
  | done (answer : α)
  | schedule (due : Time) (event : ε) (next : EventId → Program ε α)
  | scheduleAfter (delay : Time) (event : ε) (next : EventId → Program ε α)
  | cancel (id : EventId) (next : Bool → Program ε α)
  | isPending (id : EventId) (next : Bool → Program ε α)
  | pendingCount (next : Nat → Program ε α)
  | now (next : Time → Program ε α)

/-- A line of the notes of a session. -/
inductive Note (ε : Type u) where
  | scheduled (item : Scheduled ε)
  | cancelled (id : EventId) (was : Bool)
  | asked (id : EventId) (pending : Bool)
  | counted (pending : Nat)
  | read (time : Time)
  /-- An event is carried out, at the time that the clock shows. -/
  | began (item : Scheduled ε) (time : Time)
  | ticked (time : Time)

section Performing

variable {ε : Type u} {τ : Type u} [Timeline τ ε]

/-- Performs a program, with notes of what it did. -/
def Program.perform {α : Type v} : Program ε α → τ → α × τ × List (Note ε)
  | done answer, t => (answer, t, [])
  | schedule due event next, t =>
    let (id, t) := Timeline.schedule t due event
    let (answer, t, notes) := (next id).perform t
    (answer, t, .scheduled ⟨due, id, event⟩ :: notes)
  | scheduleAfter delay event next, t =>
    let due := Timeline.now t + delay
    let (id, t) := Timeline.scheduleAfter t delay event
    let (answer, t, notes) := (next id).perform t
    (answer, t, .scheduled ⟨due, id, event⟩ :: notes)
  | cancel id next, t =>
    let (was, t) := Timeline.cancel t id
    let (answer, t, notes) := (next was).perform t
    (answer, t, .cancelled id was :: notes)
  | isPending id next, t =>
    let pending := Timeline.isPending t id
    let (answer, t, notes) := (next pending).perform t
    (answer, t, .asked id pending :: notes)
  | pendingCount next, t =>
    let pending := Timeline.pendingCount t
    let (answer, t, notes) := (next pending).perform t
    (answer, t, .counted pending :: notes)
  | now next, t =>
    let time := Timeline.now t
    let (answer, t, notes) := (next time).perform t
    (answer, t, .read time :: notes)

end Performing

/-- A world whose events are programs: what each event does, which may fail, and what comes after
each. -/
structure Behaviour (ε : Type u) (σ : Type v) (φ : Type w) where
  execute : ε → σ → Program ε (Except φ σ)
  tick : σ → Program ε σ

namespace Behaviour

variable {ε : Type u} {σ : Type v} {φ : Type w}

/-- The behaviour as a world of the real simulator. -/
def world (b : Behaviour ε σ φ) : World ε σ φ where
  execute event sim state :=
    let (result, sim, _) := (b.execute event state).perform sim
    result.map fun state => (sim, state)
  tick sim state :=
    let (state, sim, _) := (b.tick state).perform sim
    (sim, state)

variable {τ : Type u} [Timeline τ ε]

/-- Carries out one event that has been taken. -/
def step (b : Behaviour ε σ φ) (item : Scheduled ε) (t : τ) (state : σ) :
    List (Note ε) × Except φ (τ × σ) :=
  let (result, t', notes) := (b.execute item.event state).perform t
  match result with
  | .error cause => (.began item (Timeline.now t) :: notes, .error cause)
  | .ok state =>
    let (state, t'', ticking) := (b.tick state).perform t'
    (.began item (Timeline.now t) :: notes ++ .ticked (Timeline.now t') :: ticking,
      .ok (t'', state))

/-- Carries out events in order until none is due within the limit, `steps` of them at most. -/
def drain (b : Behaviour ε σ φ) (limit : Option Time) :
    Nat → τ → σ → List (Note ε) × Except (Halt φ) (τ × σ)
  | steps, t, state =>
    match Timeline.next? t limit with
    | none => ([], .ok (t, state))
    | some (item, t) =>
      match steps with
      | 0 => ([], .error .exhausted)
      | steps + 1 =>
        match b.step item t state with
        | (notes, .error cause) => (notes, .error (.fault cause))
        | (notes, .ok (t, state)) =>
          let (later, result) := b.drain limit steps t state
          (notes ++ later, result)

/-- Runs every event there is. -/
def run (b : Behaviour ε σ φ) (t : τ) (state : σ) : List (Note ε) × Except (Halt φ) (τ × σ) :=
  b.drain none World.stepLimit t state

/-- Runs the events due up to a time, then moves the clock there if it is not past it. -/
def runUntil (b : Behaviour ε σ φ) (limit : Time) (t : τ) (state : σ) :
    List (Note ε) × Except (Halt φ) (τ × σ) :=
  let (notes, result) := b.drain (some limit) World.stepLimit t state
  (notes, result.map fun (t, state) => (Timeline.wait t limit, state))

end Behaviour

section Cases

variable {ε τ : Type u} {σ : Type v} {φ : Type w} [Timeline τ ε] {b : Behaviour ε σ φ}
variable {limit : Option Time} {t t' t'' : τ} {state state' : σ} {item : Scheduled ε}
variable {notes : List (Note ε)}

theorem Behaviour.drain_of_none (stopped : Timeline.next? t limit = none) (steps : Nat) :
    b.drain limit steps t state = ([], .ok (t, state)) := by
  rw [drain]
  simp only [stopped]

theorem Behaviour.drain_zero (taken : Timeline.next? t limit = some (item, t')) :
    b.drain limit 0 t state = ([], .error .exhausted) := by
  rw [drain]
  simp only [taken]

theorem Behaviour.drain_fault {cause : φ} (taken : Timeline.next? t limit = some (item, t'))
    (failed : b.step item t' state = (notes, .error cause)) (steps : Nat) :
    b.drain limit (steps + 1) t state = (notes, .error (.fault cause)) := by
  rw [drain]
  simp only [taken, failed]

theorem Behaviour.drain_step (taken : Timeline.next? t limit = some (item, t'))
    (done : b.step item t' state = (notes, .ok (t'', state'))) (steps : Nat) :
    b.drain limit (steps + 1) t state =
      (notes ++ (b.drain limit steps t'' state').1, (b.drain limit steps t'' state').2) := by
  rw [drain]
  simp only [taken, done]

end Cases

/-- What can be done from outside: programs, and runs between them. -/
inductive Session (ε : Type u) (α : Type v) : Type (max u (v + 1)) where
  | done (answer : α)
  | act {β : Type v} (program : Program ε β) (next : β → Session ε α)
  | run (next : Session ε α)
  | runUntil (limit : Time) (next : Session ε α)

/-- Performs a session, with notes of what happened. -/
def Session.perform {ε τ : Type u} {σ : Type v} {φ : Type w} {α : Type x} [Timeline τ ε]
    (b : Behaviour ε σ φ) : Session ε α → τ → σ → List (Note ε) × Except (Halt φ) (τ × σ × α)
  | done answer, t, state => ([], .ok (t, state, answer))
  | act program next, t, state =>
    let (answer, t, notes) := program.perform t
    let (later, result) := (next answer).perform b t state
    (notes ++ later, result)
  | run next, t, state =>
    match b.run t state with
    | (notes, .error halt) => (notes, .error halt)
    | (notes, .ok (t, state)) =>
      let (later, result) := next.perform b t state
      (notes ++ later, result)
  | runUntil limit next, t, state =>
    match b.runUntil limit t state with
    | (notes, .error halt) => (notes, .error halt)
    | (notes, .ok (t, state)) =>
      let (later, result) := next.perform b t state
      (notes ++ later, result)

end WirelessMesh
