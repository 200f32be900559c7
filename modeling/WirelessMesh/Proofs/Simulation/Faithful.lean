import WirelessMesh.Proofs.Simulation.History

namespace WirelessMesh

universe u v w x

variable {ε : Type u}

/-- An agenda holds the events that are outstanding by the notes so far. -/
structure Agenda.Recorded (a : Agenda ε) (past : List (Note ε)) : Prop where
  nextId : a.nextId = Note.schedulings past
  events : a.events.Perm (Note.outstanding past)
  sorted : a.events.Pairwise fun x y => x.precedes y = true
  given : ∀ x ∈ a.events, x.id < a.nextId
  distinct : (a.events.map (·.id)).Nodup

namespace Agenda.Recorded

variable {a a' : Agenda ε} {past : List (Note ε)}

theorem empty : (Agenda.empty : Agenda ε).Recorded [] :=
  ⟨rfl, .refl _, .nil, by simp [Agenda.empty], .nil⟩

/-- A line about nothing but answers leaves all as it is. -/
theorem silent (recorded : a.Recorded past) {note : Note ε}
    (same : Note.outstanding (past ++ [note]) = Note.outstanding past)
    (none : note.scheduledId? = none) : a.Recorded (past ++ [note]) := by
  refine ⟨?_, same ▸ recorded.events, recorded.sorted, recorded.given, recorded.distinct⟩
  rw [recorded.nextId, Note.schedulings_append]
  simp [Note.schedulings, none]

theorem ticked (recorded : a.Recorded past) (time : Time) :
    a.Recorded (past ++ [.ticked time]) := by
  refine recorded.silent ?_ rfl
  rw [Note.outstanding_concat]
  rfl

theorem schedule (recorded : a.Recorded past) (due : Time) (event : ε) :
    (a.schedule due event).2.Recorded (past ++ [.scheduled ⟨due, a.nextId, event⟩]) := by
  have perm := Agenda.place_perm ⟨due, a.nextId, event⟩ a.events
  refine ⟨?_, ?_, Agenda.place_sorted recorded.sorted, ?_, ?_⟩
  · rw [Note.schedulings_append, ← recorded.nextId]
    rfl
  · rw [Note.outstanding_concat]
    exact perm.trans (recorded.events.cons _)
  · intro x member
    rcases List.mem_cons.mp (perm.subset member) with rfl | old
    · exact Nat.lt_succ_self _
    · exact Nat.lt_succ_of_lt (recorded.given x old)
  · refine (perm.map (·.id)).nodup_iff.mpr (List.nodup_cons.mpr ⟨?_, recorded.distinct⟩)
    intro member
    obtain ⟨x, old, same⟩ := List.mem_map.mp member
    exact Nat.ne_of_lt (recorded.given x old) same

private theorem isPending_iff (recorded : a.Recorded past) (id : EventId) :
    a.isPending id = true ↔ ∃ y ∈ Note.outstanding past, y.id = id := by
  simp only [Agenda.isPending, List.any_eq_true, beq_iff_eq, recorded.events.mem_iff]

theorem cancel (recorded : a.Recorded past) (id : EventId) (was : Bool) :
    (a.cancel id).2.Recorded (past ++ [.cancelled id was]) := by
  refine ⟨?_, ?_, recorded.sorted.filter _, ?_, ?_⟩
  · rw [Note.schedulings_append]
    exact recorded.nextId
  · rw [Note.outstanding_concat]
    exact recorded.events.filter _
  · intro x member
    exact recorded.given x (List.mem_filter.mp member).1
  · exact recorded.distinct.sublist (List.filter_sublist.map _)

theorem wait (recorded : a.Recorded past) (now : Time) : { a with now }.Recorded past :=
  ⟨recorded.nextId, recorded.events, recorded.sorted, recorded.given, recorded.distinct⟩

/-- Taking the next event agrees with the notes so far, and so does what is left. -/
theorem next? (recorded : a.Recorded past) {limit : Option Time} {item : Scheduled ε}
    (taken : a.next? limit = some (item, a')) :
    (Note.began item a'.now).Fits past ∧ a'.Recorded (past ++ [.began item a'.now]) := by
  unfold Agenda.next? at taken
  cases events : a.events with
  | nil => simp [events] at taken
  | cons y rest =>
    simp only [events] at taken
    split at taken
    · cases taken
    · simp only [Option.some.injEq, Prod.mk.injEq] at taken
      obtain ⟨rfl, rfl⟩ := taken
      obtain ⟨nextId, perm, sorted, given, distinct⟩ := recorded
      rw [events] at perm sorted given distinct
      obtain ⟨least, tail⟩ := List.pairwise_cons.mp sorted
      obtain ⟨alone, others⟩ := List.nodup_cons.mp distinct
      refine ⟨⟨perm.subset List.mem_cons_self, rfl, ?_⟩, ?_, ?_, tail, ?_, others⟩
      · intro z member
        have first : y.precedes z = true := by
          rcases List.mem_cons.mp (perm.symm.subset member) with rfl | later
          · exact z.precedes_refl
          · exact least z later
        rwa [Scheduled.precedes, Bool.or_eq_true, Bool.and_eq_true, decide_eq_true_eq,
          decide_eq_true_eq, decide_eq_true_eq] at first
      · rw [Note.schedulings_append]
        exact nextId
      · rw [Note.outstanding_concat]
        refine .trans (.of_eq ?_) (perm.filter (·.id != y.id))
        rw [List.filter_cons, if_neg (by simp)]
        refine (List.filter_eq_self.mpr fun z member => ?_).symm
        have differs : z.id ≠ y.id := fun same =>
          alone (List.mem_map.mpr ⟨z, member, same⟩)
        simpa using differs
      · exact fun z member => given z (List.mem_cons_of_mem _ member)

end Agenda.Recorded

section Performing

variable {a a' : Agenda ε} {past : List (Note ε)}

private theorem faithful_cons {note : Note ε} {notes : List (Note ε)} (fits : note.Fits past)
    (rest : Note.Faithful (past ++ [note]) notes ∧ a'.Recorded (past ++ [note] ++ notes)) :
    Note.Faithful past (note :: notes) ∧ a'.Recorded (past ++ note :: notes) := by
  refine ⟨⟨fits, rest.1⟩, ?_⟩
  simpa using rest.2

theorem Program.perform_faithful {α : Type v} (program : Program ε α)
    (recorded : a.Recorded past) :
    Note.Faithful past (program.perform a).2.2 ∧
      (program.perform a).2.1.Recorded (past ++ (program.perform a).2.2) := by
  induction program generalizing a past with
  | done answer => exact ⟨trivial, by simpa [perform] using recorded⟩
  | schedule due event next ih =>
    exact faithful_cons recorded.nextId (ih _ (recorded.schedule due event))
  | scheduleAfter delay event next ih =>
    exact faithful_cons recorded.nextId (ih _ (recorded.schedule (a.now + delay) event))
  | cancel id next ih =>
    exact faithful_cons (recorded.isPending_iff id) (ih _ (recorded.cancel id _))
  | isPending id next ih =>
    refine faithful_cons (recorded.isPending_iff id) (ih _ (recorded.silent ?_ rfl))
    rw [Note.outstanding_concat]
    rfl
  | pendingCount next ih =>
    refine faithful_cons recorded.events.length_eq (ih _ (recorded.silent ?_ rfl))
    rw [Note.outstanding_concat]
    rfl
  | now next ih =>
    refine faithful_cons trivial (ih _ (recorded.silent ?_ rfl))
    rw [Note.outstanding_concat]
    rfl

variable {σ : Type v} {φ : Type w} (b : Behaviour ε σ φ)

private theorem Behaviour.step_faithful {item : Scheduled ε} (state : σ)
    (fits : (Note.began item a.now).Fits past)
    (recorded : a.Recorded (past ++ [.began item a.now])) :
    Note.Faithful past (b.step item a state).1 ∧
      ∀ a' state', (b.step item a state).2 = .ok (a', state') →
        a'.Recorded (past ++ (b.step item a state).1) := by
  have executed := faithful_cons fits
    ((b.execute item.event state).perform_faithful recorded)
  simp only [step, Timeline.now]
  cases ((b.execute item.event state).perform a).1 with
  | error cause => exact ⟨executed.1, by simp⟩
  | ok after =>
    have noted := executed.2.ticked ((b.execute item.event state).perform a).2.1.now
    have ticking := faithful_cons (show (Note.ticked _).Fits _ from trivial)
      ((b.tick after).perform_faithful noted)
    refine ⟨Note.faithful_append.mpr ⟨executed.1, ticking.1⟩, fun a' state' ended => ?_⟩
    simp only [Except.ok.injEq, Prod.mk.injEq] at ended
    rw [← ended.1, ← List.append_assoc]
    exact ticking.2

theorem Behaviour.drain_faithful (limit : Option Time) (steps : Nat) (state : σ)
    (recorded : a.Recorded past) :
    Note.Faithful past (b.drain limit steps a state).1 ∧
      ∀ a' state', (b.drain limit steps a state).2 = .ok (a', state') →
        a'.Recorded (past ++ (b.drain limit steps a state).1) := by
  induction steps generalizing a past state with
  | zero =>
    cases taken : a.next? limit with
    | none =>
      rw [drain_of_none (t := a) taken]
      refine ⟨trivial, fun a' state' ended => ?_⟩
      cases ended
      simpa using recorded
    | some next =>
      rw [drain_zero (t := a) taken]
      exact ⟨trivial, fun _ _ ended => nomatch ended⟩
  | succ steps ih =>
    cases taken : a.next? limit with
    | none =>
      rw [drain_of_none (t := a) taken]
      refine ⟨trivial, fun a' state' ended => ?_⟩
      cases ended
      simpa using recorded
    | some next =>
      obtain ⟨item, a'⟩ := next
      obtain ⟨fits, after⟩ := recorded.next? taken
      obtain ⟨written, kept⟩ := b.step_faithful state fits after
      cases done : b.step item a' state with
      | mk notes result =>
        rw [done] at written kept
        cases result with
        | error cause =>
          rw [drain_fault (t := a) taken done]
          exact ⟨written, fun _ _ ended => nomatch ended⟩
        | ok next =>
          obtain ⟨later, finished⟩ := ih next.2 (kept _ _ rfl)
          rw [drain_step (t := a) taken done]
          refine ⟨Note.faithful_append.mpr ⟨written, later⟩, fun a'' state'' ended => ?_⟩
          rw [← List.append_assoc]
          exact finished a'' state'' ended

private theorem Behaviour.runUntil_faithful (limit : Time) (state : σ) (recorded : a.Recorded past) :
    Note.Faithful past (b.runUntil limit a state).1 ∧
      ∀ a' state', (b.runUntil limit a state).2 = .ok (a', state') →
        a'.Recorded (past ++ (b.runUntil limit a state).1) := by
  obtain ⟨written, kept⟩ := b.drain_faithful (some limit) World.stepLimit state recorded
  refine ⟨written, fun a' state' ended => ?_⟩
  simp only [runUntil] at ended
  cases done : (b.drain (some limit) World.stepLimit a state).2 with
  | error halt => simp [done, Except.map] at ended
  | ok next =>
    simp only [done, Except.map, Except.ok.injEq, Prod.mk.injEq] at ended
    rw [← ended.1]
    exact (kept _ _ done).wait _

theorem Session.perform_faithful {α : Type x} (session : Session ε α) (state : σ)
    (recorded : a.Recorded past) : Note.Faithful past (session.perform b a state).1 := by
  induction session generalizing a past state with
  | done answer => trivial
  | act program next ih =>
    obtain ⟨written, kept⟩ := program.perform_faithful recorded
    exact Note.faithful_append.mpr ⟨written, ih _ state kept⟩
  | run next ih =>
    obtain ⟨written, kept⟩ := b.drain_faithful none World.stepLimit state recorded
    simp only [perform, Behaviour.run]
    cases done : b.drain none World.stepLimit a state with
    | mk notes result =>
      rw [done] at written kept
      cases result with
      | error halt => exact written
      | ok next => exact Note.faithful_append.mpr ⟨written, ih _ (kept _ _ rfl)⟩
  | runUntil limit next ih =>
    obtain ⟨written, kept⟩ := b.runUntil_faithful limit state recorded
    simp only [perform]
    cases done : b.runUntil limit a state with
    | mk notes result =>
      rw [done] at written kept
      cases result with
      | error halt => exact written
      | ok next => exact Note.faithful_append.mpr ⟨written, ih _ (kept _ _ rfl)⟩

end Performing

end WirelessMesh
