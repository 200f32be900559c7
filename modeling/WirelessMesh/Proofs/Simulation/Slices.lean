import WirelessMesh.Proofs.Simulation.LiveEvents
import WirelessMesh.Simulation.Script

namespace WirelessMesh

universe u v w

variable {ε : Type u} {σ : Type v} {φ : Type w}

def Time.Within (narrow wide : Option Time) : Prop :=
  ∀ due : Time, narrow.any (· < due) = false → wide.any (· < due) = false

theorem Time.within_some {early late : Time} (ordered : early ≤ late) :
    Time.Within (some early) (some late) := by
  intro due allowed
  simp only [Option.any_some, decide_eq_false_iff_not, lt_def, le_def] at allowed ordered ⊢
  omega

private theorem Time.within_none (limit : Option Time) : Time.Within limit none := fun _ _ => rfl

namespace Simulator

variable {s s' : Simulator ε} {limit narrow wide : Option Time} {item : Scheduled ε}

/-- What is next within a limit is what is next at all, unless it is due after the limit. -/
theorem next?_eq_some_iff {next : Scheduled ε × Simulator ε} : s.next? limit = some next ↔
    s.next? none = some next ∧ limit.any (· < next.1.due) = false := by
  simp only [next?, Option.any_none, Bool.false_eq_true, if_false]
  cases (s.queue.prune s.isPending).top? with
  | none => simp
  | some item =>
    simp only
    split
    · next beyond =>
      refine ⟨nofun, fun ⟨taken, within⟩ => ?_⟩
      obtain rfl := Option.some.inj taken
      exact absurd beyond (Bool.eq_false_iff.mp within)
    · next within =>
      refine ⟨fun taken => ⟨taken, ?_⟩, And.left⟩
      obtain rfl := Option.some.inj taken
      exact Bool.eq_false_iff.mpr within

theorem next?_widen (wider : Time.Within narrow wide) (taken : s.next? narrow = some (item, s')) :
    s.next? wide = some (item, s') := by
  obtain ⟨first, allowed⟩ := next?_eq_some_iff.mp taken
  exact next?_eq_some_iff.mpr ⟨first, wider _ allowed⟩

private theorem next?_none_of_none (stopped : s.next? none = none) (limit : Option Time) :
    s.next? limit = none := by
  cases taken : s.next? limit with
  | none => rfl
  | some next =>
    have first := (next?_eq_some_iff.mp taken).1
    rw [stopped] at first
    cases first

/-- Nothing is next, whatever the limit, exactly if no event is to come. -/
theorem next?_none_iff : s.next? none = none ↔ s.live = [] := by
  constructor
  · intro stopped
    have bare : (s.queue.prune s.isPending).toList = [] := by
      refine EventQueue.toList_of_top?_none ?_
      cases top : (s.queue.prune s.isPending).top? with
      | none => rfl
      | some item => simp [next?, top] at stopped
    obtain ⟨dead, perm, buried⟩ := EventQueue.toList_prune s.isPending s.queue
    rw [bare, List.append_nil] at perm
    refine List.filter_eq_nil_iff.mpr fun item member => ?_
    rw [buried item (perm.subset member)]
    exact Bool.false_ne_true
  · intro idle
    cases top : (s.queue.prune s.isPending).top? with
    | none => simp [next?, top]
    | some item =>
      obtain ⟨dead, perm, -⟩ := EventQueue.toList_prune s.isPending s.queue
      have queued := perm.symm.subset
        (List.mem_append_right dead ((EventQueue.toList_tail top).symm.subset List.mem_cons_self))
      have pending := EventQueue.alive_top_prune item top
      have live : item ∈ s.live := mem_live.mpr ⟨queued, pending⟩
      rw [idle] at live
      cases live

end Simulator

namespace World

variable {world : World ε σ φ} {sim sim' : Simulator ε} {state state' : σ} {item : Scheduled ε}
  {limit narrow wide : Option Time} {steps : Nat}

theorem drain_of_none (stopped : sim.next? limit = none) (steps : Nat) :
    world.drain limit steps sim state = .ok (sim, state) := by
  rw [drain.eq_def]
  simp only [stopped]

theorem drain_zero (taken : sim.next? limit = some (item, sim')) :
    world.drain limit 0 sim state = .error .exhausted := by
  rw [drain]
  simp only [taken]

theorem drain_fault {cause : φ} (taken : sim.next? limit = some (item, sim'))
    (failed : world.step item.event sim' state = .error cause) (steps : Nat) :
    world.drain limit (steps + 1) sim state = .error (.fault cause) := by
  rw [drain]
  simp only [taken, failed]

theorem drain_step {next : Simulator ε × σ} (taken : sim.next? limit = some (item, sim'))
    (done : world.step item.event sim' state = .ok next) (steps : Nat) :
    world.drain limit (steps + 1) sim state = world.drain limit steps next.1 next.2 := by
  rw [drain]
  simp only [taken, done]

/-- Induction on a run: it stops, is cut short, fails at an event, or goes on after one. -/
theorem drain_induct (world : World ε σ φ) (limit : Option Time)
    {motive : Nat → Simulator ε → σ → Prop}
    (stop : ∀ steps sim state, sim.next? limit = none → motive steps sim state)
    (cut : ∀ sim state next, sim.next? limit = some next → motive 0 sim state)
    (fault : ∀ steps sim state next cause, sim.next? limit = some next →
      world.step next.1.event next.2 state = .error cause → motive (steps + 1) sim state)
    (step : ∀ steps sim state next after, sim.next? limit = some next →
      world.step next.1.event next.2 state = .ok after → motive steps after.1 after.2 →
      motive (steps + 1) sim state)
    (steps : Nat) (sim : Simulator ε) (state : σ) : motive steps sim state := by
  induction steps generalizing sim state with
  | zero =>
    cases taken : sim.next? limit with
    | none => exact stop 0 sim state taken
    | some next => exact cut sim state next taken
  | succ steps ih =>
    cases taken : sim.next? limit with
    | none => exact stop (steps + 1) sim state taken
    | some next =>
      cases done : world.step next.1.event next.2 state with
      | error cause => exact fault steps sim state next cause taken done
      | ok after => exact step steps sim state next after taken done (ih after.1 after.2)

/-- A run that is not cut short takes no notice of how many events more it may have. -/
theorem drain_more (whole : world.drain limit steps sim state ≠ .error .exhausted) (more : Nat) :
    world.drain limit (steps + more) sim state = world.drain limit steps sim state := by
  induction steps, sim, state using world.drain_induct limit with
  | stop steps sim state stopped => rw [drain_of_none stopped, drain_of_none stopped]
  | cut sim state next taken => exact absurd (drain_zero taken) whole
  | fault steps sim state next cause taken failed =>
    rw [Nat.succ_add, drain_fault taken failed, drain_fault taken failed]
  | step steps sim state next after taken done ih =>
    rw [drain_step taken done] at whole
    rw [Nat.succ_add, drain_step taken done, drain_step taken done, ih whole]

/-- A run goes through where a narrower limit stops it, and goes on from there as if it had not stopped. -/
theorem drain_through (wider : Time.Within narrow wide)
    (whole : world.drain wide steps sim state ≠ .error .exhausted) :
    (do
      let (sim, state) ← world.drain narrow steps sim state
      world.drain wide steps sim state) = world.drain wide steps sim state := by
  induction steps, sim, state using world.drain_induct narrow with
  | stop steps sim state stopped =>
    rw [drain_of_none stopped]
    rfl
  | cut sim state next taken => exact absurd (drain_zero (Simulator.next?_widen wider taken)) whole
  | fault steps sim state next cause taken failed =>
    rw [drain_fault taken failed, drain_fault (Simulator.next?_widen wider taken) failed]
    rfl
  | step steps sim state next after taken done ih =>
    rw [drain_step (Simulator.next?_widen wider taken) done] at whole ⊢
    rw [drain_step taken done]
    have through := ih whole
    cases first : world.drain narrow steps after.1 after.2 with
    | error halt => rw [first] at through; exact through
    | ok mid =>
      rw [first] at through
      -- The second part may take all of the steps, though the first one has used up some of them.
      have rest : world.drain wide steps mid.1 mid.2 ≠ .error .exhausted := by
        intro cut
        exact whole (through.symm.trans cut)
      exact (drain_more rest 1).trans through

/-- A run within a limit and then one within a wider limit are one run within the wider limit. -/
theorem drain_join {mid last : Simulator ε × σ} {more : Nat} (wider : Time.Within narrow wide)
    (first : world.drain narrow steps sim state = .ok mid)
    (second : world.drain wide more mid.1 mid.2 = .ok last) :
    world.drain wide (steps + more) sim state = .ok last := by
  induction steps, sim, state using world.drain_induct narrow with
  | stop steps sim state stopped =>
    rw [drain_of_none stopped] at first
    cases first
    rw [Nat.add_comm, drain_more (second ▸ nofun)]
    exact second
  | cut sim state next taken =>
    rw [drain_zero taken] at first
    cases first
  | fault steps sim state next cause taken failed =>
    rw [drain_fault taken failed] at first
    cases first
  | step steps sim state next after taken done ih =>
    rw [drain_step taken done] at first
    rw [Nat.succ_add, drain_step (Simulator.next?_widen wider taken) done]
    exact ih first

private theorem drain_clock (taken : sim.next? limit = some (item, sim')) (time : Time) :
    world.drain limit steps { sim with now := time } state = world.drain limit steps sim state := by
  have taken' : { sim with now := time }.next? limit = some (item, sim') := taken
  cases steps with
  | zero => rw [drain_zero taken, drain_zero taken']
  | succ steps =>
    cases done : world.step item.event sim' state with
    | error cause => rw [drain_fault taken done, drain_fault taken' done]
    | ok after => rw [drain_step taken done, drain_step taken' done]

/-- A run up to a time that may take so many events. -/
def runUntilIn (world : World ε σ φ) (steps : Nat) (limit : Time) (sim : Simulator ε) (state : σ) :
    Except (Halt φ) (Simulator ε × σ) :=
  (world.drain (some limit) steps sim state).map fun (sim, state) =>
    ({ sim with now := max sim.now limit }, state)

private theorem runUntil_eq (world : World ε σ φ) : world.runUntil = world.runUntilIn stepLimit := rfl

/-- It makes no difference that the clock has been moved on before. -/
theorem runUntilIn_waited {time limit : Time} (ordered : time ≤ limit) :
    world.runUntilIn steps limit { sim with now := max sim.now time } state =
      world.runUntilIn steps limit sim state := by
  unfold runUntilIn
  cases taken : sim.next? (some limit) with
  | none =>
    have taken' : { sim with now := max sim.now time }.next? (some limit) = none := taken
    have clock : max (max sim.now time) limit = max sim.now limit := by
      refine Time.ext ?_
      rw [Time.le_def] at ordered
      simp only [Time.ns_max]
      omega
    rw [drain_of_none taken, drain_of_none taken']
    simp only [Except.map, clock]
  | some next => rw [drain_clock taken]

theorem ok_of_runUntilIn {limit : Time} {last : Simulator ε × σ}
    (done : world.runUntilIn steps limit sim state = .ok last) :
    ∃ mid, world.drain (some limit) steps sim state = .ok mid ∧
      last = ({ mid.1 with now := max mid.1.now limit }, mid.2) := by
  unfold runUntilIn at done
  cases drained : world.drain (some limit) steps sim state with
  | error halt =>
    rw [drained] at done
    cases done
  | ok mid =>
    rw [drained] at done
    cases done
    exact ⟨mid, rfl, rfl⟩

private theorem runUntilIn_through {early late : Time} (ordered : early ≤ late)
    (whole : world.runUntilIn steps late sim state ≠ .error .exhausted) :
    (do
      let (sim, state) ← world.runUntilIn steps early sim state
      world.runUntilIn steps late sim state) = world.runUntilIn steps late sim state := by
  have uncut : world.drain (some late) steps sim state ≠ .error .exhausted := by
    intro cut
    rw [runUntilIn, cut] at whole
    exact whole rfl
  have through := drain_through (Time.within_some ordered) uncut
  cases first : world.drain (some early) steps sim state with
  | error halt =>
    rw [first] at through
    rw [runUntilIn, runUntilIn, first, ← through]
    rfl
  | ok mid =>
    rw [first] at through
    have waited : world.runUntilIn steps late { mid.1 with now := max mid.1.now early } mid.2 =
        world.runUntilIn steps late mid.1 mid.2 := runUntilIn_waited ordered
    rw [runUntilIn, first]
    refine waited.trans ?_
    rw [runUntilIn, runUntilIn, ← through]
    rfl

private theorem runUntilIn_join {early late : Time} {more : Nat} {mid last : Simulator ε × σ}
    (ordered : early ≤ late) (first : world.runUntilIn steps early sim state = .ok mid)
    (second : world.runUntilIn more late mid.1 mid.2 = .ok last) :
    world.runUntilIn (steps + more) late sim state = .ok last := by
  obtain ⟨stop, drained, rfl⟩ := ok_of_runUntilIn first
  rw [runUntilIn_waited ordered] at second
  obtain ⟨stop', drained', rfl⟩ := ok_of_runUntilIn second
  rw [runUntilIn, drain_join (Time.within_some ordered) drained drained']
  rfl

/-- The events that a run begins, in order. -/
def begun (world : World ε σ φ) (limit : Option Time) : Nat → Simulator ε → σ → List (Scheduled ε)
  | 0, _, _ => []
  | steps + 1, sim, state =>
    match sim.next? limit with
    | none => []
    | some (item, sim) =>
      match world.step item.event sim state with
      | .error _ => [item]
      | .ok (sim, state) => item :: begun world limit steps sim state

private theorem begun_fault {cause : φ} (taken : sim.next? limit = some (item, sim'))
    (failed : world.step item.event sim' state = .error cause) :
    world.begun limit (steps + 1) sim state = [item] := by
  rw [begun]
  simp only [taken, failed]

private theorem begun_step {next : Simulator ε × σ} (taken : sim.next? limit = some (item, sim'))
    (done : world.step item.event sim' state = .ok next) :
    world.begun limit (steps + 1) sim state = item :: world.begun limit steps next.1 next.2 := by
  rw [begun]
  simp only [taken, done]

/-- A run is not stopped by a limit after which none of its events is due. -/
private theorem drain_of_begun (whole : world.drain none steps sim state ≠ .error .exhausted)
    (within : ∀ x ∈ world.begun none steps sim state, limit.any (· < x.due) = false) :
    world.drain limit steps sim state = world.drain none steps sim state := by
  induction steps, sim, state using world.drain_induct none with
  | stop steps sim state stopped =>
    rw [drain_of_none stopped, drain_of_none (Simulator.next?_none_of_none stopped limit)]
  | cut sim state next taken => exact absurd (drain_zero taken) whole
  | fault steps sim state next cause taken failed =>
    rw [begun_fault taken failed] at within
    have taken' := Simulator.next?_eq_some_iff.mpr ⟨taken, within _ List.mem_cons_self⟩
    rw [drain_fault taken failed, drain_fault taken' failed]
  | step steps sim state next after taken done ih =>
    rw [begun_step taken done] at within
    obtain ⟨first, later⟩ := List.forall_mem_cons.mp within
    have taken' := Simulator.next?_eq_some_iff.mpr ⟨taken, first⟩
    rw [drain_step taken done] at whole
    rw [drain_step taken done, drain_step taken' done, ih whole later]

private theorem next?_of_drain {last : Simulator ε × σ}
    (done : world.drain limit steps sim state = .ok last) : last.1.next? limit = none := by
  induction steps, sim, state using world.drain_induct limit with
  | stop steps sim state stopped =>
    rw [drain_of_none stopped] at done
    cases done
    exact stopped
  | cut sim state next taken =>
    rw [drain_zero taken] at done
    cases done
  | fault steps sim state next cause taken failed =>
    rw [drain_fault taken failed] at done
    cases done
  | step steps sim state next after taken stepped ih =>
    rw [drain_step taken stepped] at done
    exact ih done

/-- A run up to a time that leaves no event to come is a run without limit. -/
private theorem drain_none_of_idle {limit : Time} {last : Simulator ε × σ}
    (done : world.runUntilIn steps limit sim state = .ok last) (idle : last.1.live = []) :
    ∃ now, world.drain none steps sim state = .ok ({ last.1 with now }, last.2) := by
  obtain ⟨mid, drained, rfl⟩ := ok_of_runUntilIn done
  have stopped : mid.1.next? none = none := Simulator.next?_none_iff.mpr idle
  exact ⟨mid.1.now, drain_join (Time.within_none _) drained (drain_of_none stopped 0)⟩

/-- A run up to a time and then one up to a later time come to the same as the second one alone: the same
state of the world, which holds all that events were answered, the same clock and the same events to come. If
both of them end, so does the second one alone, which may have to take as many events as both. A run without
limit leaves no event to come, and what it comes to is what a run up to a time comes to, the clock apart, if
none of its events is due after that time. -/
theorem slices_change_nothing (world : World ε σ φ) (sim : Simulator ε) (state : σ) :
    (∀ early late : Time, early ≤ late →
      (world.runUntil late sim state ≠ .error .exhausted →
        (do
          let (sim, state) ← world.runUntil early sim state
          world.runUntil late sim state) = world.runUntil late sim state) ∧
      ∀ mid last, world.runUntil early sim state = .ok mid → world.runUntil late mid.1 mid.2 = .ok last →
        world.runUntilIn (stepLimit + stepLimit) late sim state = .ok last) ∧
    (∀ last, world.run sim state = .ok last →
      (last.1.live = [] ∧ (last.1.WellFormed → last.1.pendingCount = 0)) ∧
      ∀ limit, (∀ x ∈ world.begun none stepLimit sim state, x.due ≤ limit) →
        world.runUntil limit sim state = .ok ({ last.1 with now := max last.1.now limit }, last.2)) ∧
    ∀ limit last, world.runUntil limit sim state = .ok last → last.1.live = [] →
      ∃ now, world.run sim state = .ok ({ last.1 with now }, last.2) := by
  refine ⟨fun early late ordered => ⟨runUntilIn_through ordered, fun mid last => runUntilIn_join ordered⟩,
    fun last done => ⟨?_, fun limit within => ?_⟩, fun limit last => drain_none_of_idle⟩
  · have idle := Simulator.next?_none_iff.mp (next?_of_drain done)
    exact ⟨idle, fun valid => valid.pendingCount_eq.trans (congrArg List.length idle)⟩
  · have ended : world.drain none stepLimit sim state = .ok last := done
    have due (x : Scheduled ε) (member : x ∈ world.begun none stepLimit sim state) :
        (some limit).any (· < x.due) = false := by
      have early := within x member
      simpa [Time.lt_def, Time.le_def] using early
    have same : world.drain (some limit) stepLimit sim state = world.drain none stepLimit sim state :=
      drain_of_begun (ended ▸ nofun) due
    rw [runUntil_eq, runUntilIn, same, ended]
    rfl

end World

/-- The first event schedules another one for the same time and takes back the second one. -/
def shuffled : Simulator ScriptEvent :=
  let first := [.schedule (.ofNanos 2) 3 [], .cancel 1]
  let sim := (Simulator.empty.schedule (.ofNanos 2) (.script 0 first)).2
  let sim := (sim.schedule (.ofNanos 3) (.script 1 [])).2
  (sim.schedule (.ofNanos 5) (.script 2 [])).2

private theorem ok_of_ticks {outcome : Except (Halt ScriptFault) (Simulator ScriptEvent × ScriptState)}
    {ticks : Nat} (seen : outcome.toOption.map (·.2.ticks) = some ticks) :
    ∃ last, outcome = .ok last ∧ last.2.ticks = ticks := by
  cases outcome with
  | error halt => cases seen
  | ok last => exact ⟨last, rfl, Option.some.inj seen⟩

private theorem shuffled_ticks :
    (scriptedWorld.runUntil (.ofNanos 4) shuffled {}).toOption.map (·.2.ticks) = some 2 ∧
      (scriptedWorld.run shuffled {}).toOption.map (·.2.ticks) = some 3 ∧
      (scriptedWorld.begun none World.stepLimit shuffled {}).map (·.due.ns) = [2, 2, 5] := by
  decide +kernel

/-- Two events begin by the time of the first slice, none in the second one, and the last one after both. -/
theorem shuffled_in_slices :
    (∃ last, scriptedWorld.runUntil (.ofNanos 4) shuffled {} = .ok last ∧ last.2.ticks = 2 ∧
      (do
        let (sim, state) ← scriptedWorld.runUntil (.ofNanos 2) shuffled {}
        scriptedWorld.runUntil (.ofNanos 4) sim state) = .ok last) ∧
    ∃ last, scriptedWorld.run shuffled {} = .ok last ∧ last.2.ticks = 3 ∧ last.1.live = [] ∧
      scriptedWorld.runUntil (.ofNanos 5) shuffled {} =
        .ok ({ last.1 with now := max last.1.now (.ofNanos 5) }, last.2) := by
  obtain ⟨ticks, whole, due⟩ := shuffled_ticks
  obtain ⟨sliced, unlimited, -⟩ := scriptedWorld.slices_change_nothing shuffled {}
  constructor
  · obtain ⟨last, ended, count⟩ := ok_of_ticks ticks
    have through := (sliced (.ofNanos 2) (.ofNanos 4) (by decide)).1 (ended ▸ nofun)
    exact ⟨last, ended, count, through.trans ended⟩
  · obtain ⟨last, ended, count⟩ := ok_of_ticks whole
    obtain ⟨⟨idle, -⟩, upTo⟩ := unlimited last ended
    refine ⟨last, ended, count, idle, upTo _ fun x member => ?_⟩
    have listed := List.mem_map_of_mem (f := fun x : Scheduled ScriptEvent => x.due.ns) member
    rw [due] at listed
    have early : x.due.ns ≤ 5 := by
      simp only [List.mem_cons, List.not_mem_nil, or_false] at listed
      omega
    exact early

end WirelessMesh
