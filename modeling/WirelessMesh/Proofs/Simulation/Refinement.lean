import WirelessMesh.Proofs.Simulation.Faithful

namespace WirelessMesh

universe u v w x

variable {ε : Type u}

section Keeping

variable {s : Simulator ε} {a : Agenda ε}

theorem Program.perform_keeps {α : Type v} (program : Program ε α) (keeps : s.Keeps a) :
    (program.perform s).1 = (program.perform a).1 ∧
      (program.perform s).2.1.Keeps (program.perform a).2.1 ∧
      (program.perform s).2.2 = (program.perform a).2.2 := by
  induction program generalizing s a with
  | done answer => exact ⟨rfl, keeps, rfl⟩
  | schedule due event next ih =>
    obtain ⟨same, after⟩ := keeps.schedule due event
    obtain ⟨answer, kept, notes⟩ := ih (s.schedule due event).1 after
    simp only [Program.perform, Timeline.schedule, ← same]
    exact ⟨answer, kept, congrArg _ notes⟩
  | scheduleAfter delay event next ih =>
    obtain ⟨same, after⟩ := keeps.schedule (s.now + delay) event
    rw [keeps.now] at same after
    obtain ⟨answer, kept, notes⟩ := ih (s.schedule (a.now + delay) event).1 after
    simp only [Program.perform, Timeline.scheduleAfter, Timeline.now, Simulator.scheduleAfter,
      Agenda.scheduleAfter, keeps.now, ← same]
    exact ⟨answer, kept, congrArg _ notes⟩
  | cancel id next ih =>
    obtain ⟨same, after⟩ := keeps.cancel id
    obtain ⟨answer, kept, notes⟩ := ih (s.cancel id).1 after
    simp only [Program.perform, Timeline.cancel, ← same]
    exact ⟨answer, kept, congrArg _ notes⟩
  | isPending id next ih =>
    obtain ⟨answer, kept, notes⟩ := ih (s.isPending id) keeps
    simp only [Program.perform, Timeline.isPending, ← keeps.isPending id]
    exact ⟨answer, kept, congrArg _ notes⟩
  | pendingCount next ih =>
    obtain ⟨answer, kept, notes⟩ := ih s.pendingCount keeps
    simp only [Program.perform, Timeline.pendingCount, ← keeps.pendingCount]
    exact ⟨answer, kept, congrArg _ notes⟩
  | now next ih =>
    obtain ⟨answer, kept, notes⟩ := ih s.now keeps
    simp only [Program.perform, Timeline.now, ← keeps.now]
    exact ⟨answer, kept, congrArg _ notes⟩

/-- Two ends are alike if both stopped for one cause, or the simulator keeps the agenda and all else
is the same. -/
def SameEnd {ρ : Type v} {κ : Type w} :
    Except κ (Simulator ε × ρ) → Except κ (Agenda ε × ρ) → Prop
  | .ok (s, rest), .ok (a, rest') => s.Keeps a ∧ rest = rest'
  | .error cause, .error cause' => cause = cause'
  | _, _ => False

theorem SameEnd.inv {ρ : Type v} {κ : Type w} {real : Except κ (Simulator ε × ρ)}
    {ideal : Except κ (Agenda ε × ρ)} (same : SameEnd real ideal) :
    (∃ cause, real = .error cause ∧ ideal = .error cause) ∨
      ∃ s a rest, real = .ok (s, rest) ∧ ideal = .ok (a, rest) ∧ s.Keeps a := by
  cases real <;> cases ideal
  · exact .inl ⟨_, rfl, congrArg Except.error (Eq.symm same)⟩
  · exact same.elim
  · exact same.elim
  · exact .inr ⟨_, _, _, rfl, congrArg Except.ok (Prod.ext rfl same.2.symm), same.1⟩

variable {σ : Type v} {φ : Type w} (b : Behaviour ε σ φ)

private theorem Behaviour.step_keeps (item : Scheduled ε) (state : σ) (keeps : s.Keeps a) :
    (b.step item s state).1 = (b.step item a state).1 ∧
      SameEnd (b.step item s state).2 (b.step item a state).2 := by
  obtain ⟨answer, kept, notes⟩ := (b.execute item.event state).perform_keeps keeps
  simp only [step, answer, notes, Timeline.now, keeps.now]
  cases ((b.execute item.event state).perform a).1 with
  | error cause => exact ⟨rfl, rfl⟩
  | ok state =>
    obtain ⟨ticked, kept', ticking⟩ := (b.tick state).perform_keeps kept
    simp only [ticking, kept.now]
    exact ⟨trivial, kept', ticked⟩

theorem Behaviour.drain_keeps (limit : Option Time) (steps : Nat) (state : σ)
    (keeps : s.Keeps a) :
    (b.drain limit steps s state).1 = (b.drain limit steps a state).1 ∧
      SameEnd (b.drain limit steps s state).2 (b.drain limit steps a state).2 := by
  induction steps generalizing s a state with
  | zero =>
    cases taken : a.next? limit with
    | none =>
      rw [drain_of_none (t := s) (keeps.next?_none taken), drain_of_none (t := a) taken]
      exact ⟨rfl, keeps, rfl⟩
    | some next =>
      obtain ⟨s', found, -⟩ := keeps.next?_some taken
      rw [drain_zero (t := s) found, drain_zero (t := a) taken]
      exact ⟨rfl, rfl⟩
  | succ steps ih =>
    cases taken : a.next? limit with
    | none =>
      rw [drain_of_none (t := s) (keeps.next?_none taken), drain_of_none (t := a) taken]
      exact ⟨rfl, keeps, rfl⟩
    | some next =>
      obtain ⟨item, a'⟩ := next
      obtain ⟨s', found, after⟩ := keeps.next?_some taken
      obtain ⟨notes, same⟩ := b.step_keeps item state after
      cases real : b.step item s' state with
      | mk written result =>
        cases ideal : b.step item a' state with
        | mk written' result' =>
          rw [real, ideal] at notes same
          obtain rfl : written = written' := notes
          rcases same.inv with ⟨cause, rfl, rfl⟩ | ⟨s'', a'', state', rfl, rfl, kept⟩
          · rw [drain_fault (t := s) found real, drain_fault (t := a) taken ideal]
            exact ⟨rfl, rfl⟩
          · obtain ⟨later, finished⟩ := ih state' kept
            rw [drain_step (t := s) found real, drain_step (t := a) taken ideal]
            exact ⟨congrArg (written ++ ·) later, finished⟩

private theorem Behaviour.runUntil_keeps (limit : Time) (state : σ) (keeps : s.Keeps a) :
    (b.runUntil limit s state).1 = (b.runUntil limit a state).1 ∧
      SameEnd (b.runUntil limit s state).2 (b.runUntil limit a state).2 := by
  obtain ⟨notes, same⟩ := b.drain_keeps (some limit) World.stepLimit state keeps
  unfold runUntil
  cases real : b.drain (some limit) World.stepLimit s state with
  | mk written result =>
    cases ideal : b.drain (some limit) World.stepLimit a state with
    | mk written' result' =>
      rw [real, ideal] at notes same
      rcases same.inv with ⟨cause, rfl, rfl⟩ | ⟨s', a', state', rfl, rfl, kept⟩
      · exact ⟨notes, rfl⟩
      · exact ⟨notes, kept.wait limit, rfl⟩

private theorem Session.perform_keeps {α : Type x} (session : Session ε α) (state : σ)
    (keeps : s.Keeps a) :
    (session.perform b s state).1 = (session.perform b a state).1 ∧
      SameEnd (session.perform b s state).2 (session.perform b a state).2 := by
  induction session generalizing s a state with
  | done answer => exact ⟨rfl, keeps, rfl⟩
  | act program next ih =>
    obtain ⟨answer, kept, notes⟩ := program.perform_keeps keeps
    obtain ⟨later, same⟩ := ih (program.perform a).1 state kept
    simp only [perform, answer, notes, later]
    exact ⟨trivial, same⟩
  | run next ih =>
    obtain ⟨notes, same⟩ := b.drain_keeps none World.stepLimit state keeps
    simp only [perform, Behaviour.run]
    cases real : b.drain none World.stepLimit s state with
    | mk written result =>
      cases ideal : b.drain none World.stepLimit a state with
      | mk written' result' =>
        rw [real, ideal] at notes same
        obtain rfl : written = written' := notes
        rcases same.inv with ⟨cause, rfl, rfl⟩ | ⟨s', a', state', rfl, rfl, kept⟩
        · exact ⟨rfl, rfl⟩
        · obtain ⟨later, finished⟩ := ih state' kept
          exact ⟨congrArg (written ++ ·) later, finished⟩
  | runUntil limit next ih =>
    obtain ⟨notes, same⟩ := b.runUntil_keeps limit state keeps
    simp only [perform]
    cases real : b.runUntil limit s state with
    | mk written result =>
      cases ideal : b.runUntil limit a state with
      | mk written' result' =>
        rw [real, ideal] at notes same
        obtain rfl : written = written' := notes
        rcases same.inv with ⟨cause, rfl, rfl⟩ | ⟨s', a', state', rfl, rfl, kept⟩
        · exact ⟨rfl, rfl⟩
        · obtain ⟨later, finished⟩ := ih state' kept
          exact ⟨congrArg (written ++ ·) later, finished⟩

end Keeping

section Running

variable {σ : Type v} {φ : Type w} (b : Behaviour ε σ φ)

private theorem Behaviour.world_step (item : Scheduled ε) (sim : Simulator ε) (state : σ) :
    b.world.step item.event sim state = (b.step item sim state).2 := by
  simp only [World.step, world, step]
  cases ((b.execute item.event state).perform sim).1 <;> rfl

theorem Behaviour.world_drain (limit : Option Time) (steps : Nat) (sim : Simulator ε)
    (state : σ) : b.world.drain limit steps sim state = (b.drain limit steps sim state).2 := by
  induction steps generalizing sim state with
  | zero =>
    rw [World.drain]
    cases taken : sim.next? limit with
    | none => rw [drain_of_none (t := sim) taken]
    | some next => rw [drain_zero (t := sim) taken]
  | succ steps ih =>
    rw [World.drain]
    cases taken : sim.next? limit with
    | none => rw [drain_of_none (t := sim) taken]
    | some next =>
      obtain ⟨item, sim'⟩ := next
      simp only [b.world_step item]
      cases done : b.step item sim' state with
      | mk notes result =>
        cases result with
        | error cause => rw [drain_fault (t := sim) taken done]
        | ok next => rw [drain_step (t := sim) taken done, ← ih]

private theorem Behaviour.world_run (sim : Simulator ε) (state : σ) :
    b.world.run sim state = (b.run sim state).2 :=
  b.world_drain none World.stepLimit sim state

private theorem Behaviour.world_runUntil (limit : Time) (sim : Simulator ε) (state : σ) :
    b.world.runUntil limit sim state = (b.runUntil limit sim state).2 :=
  congrArg (Except.map _) (b.world_drain (some limit) World.stepLimit sim state)

end Running

section Exhaustion

variable {τ : Type u} [Timeline τ ε] {σ : Type v} {φ : Type w} (b : Behaviour ε σ φ)

private theorem begun_append (notes more : List (Note ε)) :
    Note.begun (notes ++ more) = Note.begun notes ++ Note.begun more := by
  simp [Note.begun]

private theorem Behaviour.step_begun (item : Scheduled ε) (t : τ) (state : σ) :
    0 < (Note.begun (b.step item t state).1).length := by
  simp only [step]
  cases ((b.execute item.event state).perform t).1 <;> simp [Note.begun, Note.begunId?]

/-- A run that is cut short has carried out as many events as it was allowed. -/
private theorem Behaviour.drain_exhausted {limit : Option Time} {steps : Nat} {t : τ} {state : σ}
    (cut : (b.drain limit steps t state).2 = .error .exhausted) :
    steps ≤ (Note.begun (b.drain limit steps t state).1).length := by
  induction steps generalizing t state with
  | zero => exact Nat.zero_le _
  | succ steps ih =>
    cases taken : Timeline.next? t limit with
    | none =>
      rw [drain_of_none taken] at cut
      cases cut
    | some next =>
      obtain ⟨item, t'⟩ := next
      have first := b.step_begun item t' state
      cases done : b.step item t' state with
      | mk notes result =>
        rw [done] at first
        cases result with
        | error cause =>
          rw [drain_fault taken done] at cut
          cases cut
        | ok next =>
          rw [drain_step taken done] at cut ⊢
          have rest := ih cut
          rw [begun_append, List.length_append]
          exact Nat.add_comm steps 1 ▸ Nat.add_le_add first rest

private theorem Session.perform_exhausted {α : Type x} {session : Session ε α} {t : τ} {state : σ}
    (cut : (session.perform b t state).2 = .error .exhausted) :
    World.stepLimit ≤ (Note.begun (session.perform b t state).1).length := by
  induction session generalizing t state with
  | done answer => cases cut
  | act program next ih =>
    have rest := ih _ cut
    simp only [perform, begun_append, List.length_append]
    exact Nat.le_add_left_of_le rest
  | run next ih =>
    simp only [perform, Behaviour.run] at cut ⊢
    cases done : b.drain none World.stepLimit t state with
    | mk notes result =>
      rw [done] at cut
      cases result with
      | error halt =>
        obtain rfl : halt = .exhausted := Except.error.inj cut
        simpa [done] using b.drain_exhausted (congrArg Prod.snd done)
      | ok next =>
        have rest := ih cut
        simp only [begun_append, List.length_append]
        exact Nat.le_add_left_of_le rest
  | runUntil limit next ih =>
    simp only [perform, Behaviour.runUntil] at cut ⊢
    cases done : b.drain (some limit) World.stepLimit t state with
    | mk notes result =>
      rw [done] at cut
      cases result with
      | error halt =>
        obtain rfl : halt = .exhausted := Except.error.inj cut
        simpa [done, Except.map] using b.drain_exhausted (congrArg Prod.snd done)
      | ok next =>
        have rest := ih cut
        simp only [Except.map, begun_append, List.length_append]
        exact Nat.le_add_left_of_le rest

end Exhaustion

/-- Every session with the simulator has the notes and the end of the same session with an agenda.
Its notes are faithful: events run in order, each once at most, and none that was cancelled while it
was outstanding. A session is cut short only if it schedules more events than a run may take. The
runs of the simulator are what sessions perform. -/
theorem session_agrees_with_agenda {σ : Type v} {φ : Type w} {α : Type x}
    (b : Behaviour ε σ φ) (session : Session ε α) (state : σ) :
    let real := session.perform b (Simulator.empty : Simulator ε) state
    let ideal := session.perform b (Agenda.empty : Agenda ε) state
    (real.1 = ideal.1 ∧ SameEnd real.2 ideal.2) ∧
      (Note.Faithful [] real.1 ∧ (Note.begun real.1).Nodup ∧
        ∀ before id after, real.1 = before ++ .cancelled id true :: after →
          id ∉ Note.begun after) ∧
      (real.2 = .error .exhausted → World.stepLimit ≤ Note.schedulings real.1) ∧
      (∀ sim state, b.world.run sim state = (b.run sim state).2) ∧
      ∀ limit sim state, b.world.runUntil limit sim state = (b.runUntil limit sim state).2 := by
  intro real ideal
  have same : real.1 = ideal.1 ∧ SameEnd real.2 ideal.2 := session.perform_keeps b state .empty
  have faithful : Note.Faithful [] real.1 := by
    rw [same.1]
    exact session.perform_faithful b state .empty
  have given : Note.Given ([] : List (Note ε)) := by simp [Note.Given, Note.outstanding]
  refine ⟨same, ⟨faithful, faithful.begun_nodup given, ?_⟩, ?_, b.world_run, b.world_runUntil⟩
  · intro before id after split
    rw [split] at faithful
    exact faithful.not_begun_of_cancelled given
  · intro cut
    exact Nat.le_trans (Session.perform_exhausted b cut) faithful.begun_length_le

end WirelessMesh
