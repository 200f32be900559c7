import WirelessMesh.Proofs.Simulation.LiveEvents

/-!
The simulator as one would first write it: a clock and a list of the events to come, in the order
in which they will run, from which a cancelled event is struck at once. The real simulator, with
its heap and its dead events, gives the same answers.
-/
namespace WirelessMesh

universe u

/-- A clock and the events to come, the first one first. -/
structure Agenda (ε : Type u) where
  now : Time
  nextId : EventId
  events : List (Scheduled ε)

namespace Agenda

variable {ε : Type u}

def empty : Agenda ε := ⟨.zero, 0, []⟩

def place (x : Scheduled ε) : List (Scheduled ε) → List (Scheduled ε)
  | [] => [x]
  | y :: rest => if x.precedes y then x :: y :: rest else y :: place x rest

def schedule (a : Agenda ε) (due : Time) (event : ε) : EventId × Agenda ε :=
  (a.nextId,
    { a with nextId := a.nextId + 1, events := place ⟨due, a.nextId, event⟩ a.events })

def scheduleAfter (a : Agenda ε) (delay : Time) (event : ε) : EventId × Agenda ε :=
  a.schedule (a.now + delay) event

def isPending (a : Agenda ε) (id : EventId) : Bool := a.events.any (·.id == id)

def cancel (a : Agenda ε) (id : EventId) : Bool × Agenda ε :=
  (a.isPending id, { a with events := a.events.filter (·.id != id) })

def pendingCount (a : Agenda ε) : Nat := a.events.length

/-- Takes the first event, unless it is due after the limit, and moves the clock to it. -/
def next? (a : Agenda ε) (limit : Option Time) : Option (Scheduled ε × Agenda ε) :=
  match a.events with
  | [] => none
  | x :: rest =>
    if limit.any (· < x.due) then none else some (x, { a with now := x.due, events := rest })

theorem place_perm (x : Scheduled ε) (events : List (Scheduled ε)) :
    (place x events).Perm (x :: events) := by
  induction events with
  | nil => exact .refl _
  | cons y rest ih =>
    unfold place
    split
    · exact .refl _
    · exact (ih.cons y).trans (.swap x y rest)

theorem place_sorted {x : Scheduled ε} {events : List (Scheduled ε)}
    (sorted : events.Pairwise fun y z => y.precedes z = true) :
    (place x events).Pairwise fun y z => y.precedes z = true := by
  induction events with
  | nil => simp [place]
  | cons y rest ih =>
    obtain ⟨least, tail⟩ := List.pairwise_cons.mp sorted
    unfold place
    split
    · next first =>
      refine List.pairwise_cons.mpr ⟨fun z member => ?_, sorted⟩
      rcases List.mem_cons.mp member with rfl | later
      · exact first
      · exact Scheduled.precedes_trans first (least z later)
    · next later =>
      refine List.pairwise_cons.mpr ⟨fun z member => ?_, ih tail⟩
      rcases List.mem_cons.mp ((place_perm x rest).subset member) with rfl | present
      · exact Scheduled.precedes_of_not later
      · exact least z present

end Agenda

/-- A simulator whose live events, put in order, are those of an agenda. -/
structure Simulator.Keeps {ε : Type u} (s : Simulator ε) (a : Agenda ε) : Prop where
  valid : s.WellFormed
  now : s.now = a.now
  nextId : s.nextId = a.nextId
  sorted : a.events.Pairwise fun x y => x.precedes y = true
  events : a.events.Perm s.live

namespace Simulator.Keeps

variable {ε : Type u} {s : Simulator ε} {a : Agenda ε}

theorem empty : (Simulator.empty : Simulator ε).Keeps .empty :=
  ⟨empty_wellFormed, rfl, rfl, .nil, .refl _⟩

theorem schedule (keeps : s.Keeps a) (due : Time) (event : ε) :
    (s.schedule due event).1 = (a.schedule due event).1 ∧
      (s.schedule due event).2.Keeps (a.schedule due event).2 := by
  refine ⟨keeps.nextId, keeps.valid.schedule due event, keeps.now, ?_, ?_, ?_⟩
  · exact congrArg (· + 1) keeps.nextId
  · exact Agenda.place_sorted keeps.sorted
  · refine (Agenda.place_perm _ _).trans ?_
    rw [← keeps.nextId]
    exact (keeps.events.cons _).trans (keeps.valid.live_schedule due event).symm

theorem isPending (keeps : s.Keeps a) (id : EventId) : s.isPending id = a.isPending id := by
  rw [Bool.eq_iff_iff, keeps.valid.isPending_iff, Agenda.isPending, List.any_eq_true]
  simp only [keeps.events.mem_iff, beq_iff_eq]

theorem cancel (keeps : s.Keeps a) (id : EventId) :
    (s.cancel id).1 = (a.cancel id).1 ∧ (s.cancel id).2.Keeps (a.cancel id).2 := by
  refine ⟨keeps.isPending id, keeps.valid.cancel id, keeps.now, keeps.nextId, ?_, ?_⟩
  · exact keeps.sorted.filter _
  · rw [live_cancel]
    exact keeps.events.filter _

theorem pendingCount (keeps : s.Keeps a) : s.pendingCount = a.pendingCount := by
  rw [keeps.valid.pendingCount_eq, ← keeps.events.length_eq, Agenda.pendingCount]

theorem wait (keeps : s.Keeps a) (limit : Time) :
    { s with now := max s.now limit }.Keeps { a with now := max a.now limit } :=
  ⟨⟨keeps.valid.ordered, keeps.valid.distinct, keeps.valid.given, keeps.valid.queued⟩,
    by simp only [keeps.now], keeps.nextId, keeps.sorted, keeps.events⟩

/-- Where the agenda has no event within the limit, neither has the simulator. -/
theorem next?_none (keeps : s.Keeps a) {limit : Option Time} (stopped : a.next? limit = none) :
    s.next? limit = none := by
  cases taken : s.next? limit with
  | none => rfl
  | some next =>
    obtain ⟨x, s'⟩ := next
    have member := keeps.events.symm.subset (keeps.valid.next?_live taken)
    have within := next?_within taken
    unfold Agenda.next? at stopped
    cases events : a.events with
    | nil => simp [events] at member
    | cons y rest =>
      simp only [events] at stopped
      split at stopped
      · next beyond =>
        -- The first event of the agenda is due no later than the one that was taken.
        have sorted := keeps.sorted
        rw [events] at sorted member
        have first : y.precedes x = true := by
          rcases List.mem_cons.mp member with rfl | later
          · exact x.precedes_refl
          · exact (List.pairwise_cons.mp sorted).1 x later
        cases limit with
        | none => cases beyond
        | some limit =>
          simp only [Option.any_some, decide_eq_true_eq, decide_eq_false_iff_not,
            Time.lt_def] at beyond within
          rw [Scheduled.precedes_iff] at first
          omega
      · cases stopped

theorem next?_some (keeps : s.Keeps a) {limit : Option Time} {x : Scheduled ε} {a' : Agenda ε}
    (taken : a.next? limit = some (x, a')) :
    ∃ s', s.next? limit = some (x, s') ∧ s'.Keeps a' := by
  unfold Agenda.next? at taken
  cases events : a.events with
  | nil => simp [events] at taken
  | cons y rest =>
    simp only [events] at taken
    split at taken
    · cases taken
    · next within =>
      simp only [Option.some.injEq, Prod.mk.injEq] at taken
      obtain ⟨rfl, rfl⟩ := taken
      have sorted := keeps.sorted
      have perm := keeps.events
      rw [events] at sorted perm
      have member : y ∈ s.live := perm.subset List.mem_cons_self
      cases found : s.next? limit with
      | none => exact absurd (keeps.valid.next?_none found member) within
      | some next =>
        obtain ⟨x, s'⟩ := next
        have live := keeps.valid.live_next? found
        -- The two events precede each other, so they are one.
        have same : x = y := by
          refine keeps.valid.live_unique (live.symm.subset List.mem_cons_self) member ?_
          refine Scheduled.id_eq_of_precedes (keeps.valid.next?_first found member) ?_
          rcases List.mem_cons.mp (perm.symm.subset (live.symm.subset List.mem_cons_self))
            with rfl | later
          · exact x.precedes_refl
          · exact (List.pairwise_cons.mp sorted).1 x later
        subst same
        refine ⟨s', rfl, keeps.valid.next? found, next?_now found, ?_, ?_, ?_⟩
        · rw [next?_nextId found, keeps.nextId]
        · exact (List.pairwise_cons.mp sorted).2
        · exact (perm.trans live).cons_inv

end Simulator.Keeps

end WirelessMesh
