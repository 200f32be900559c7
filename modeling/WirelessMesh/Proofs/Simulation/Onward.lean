import WirelessMesh.Proofs.Simulation.Ownership

namespace WirelessMesh

universe u

variable {ε : Type u}

namespace Simulator

variable {s s' s'' : Simulator ε} {events later : List (Scheduled ε)} {limit : Option Time}
  {item : Scheduled ε}

/-- Events are scheduled in order while the clock stands still: the queue has them beside what it had,
under the numbers that are given out, and none is due before now. -/
structure Schedules (s : Simulator ε) (events : List (Scheduled ε)) (s' : Simulator ε) : Prop where
  now : s'.now = s.now
  numbers : events.map (·.id) = List.range' s.nextId events.length
  nextId : s'.nextId = s.nextId + events.length
  queue : s'.queue.toList.Perm (events ++ s.queue.toList)
  due : ∀ x ∈ events, s.now ≤ x.due
  valid : s.WellFormed → s'.WellFormed
  live : s.WellFormed → ∀ x ∈ s'.live, x ∈ events ∨ x ∈ s.live

namespace Schedules

theorem refl (s : Simulator ε) : s.Schedules [] s :=
  ⟨rfl, rfl, rfl, .refl _, nofun, id, fun _ _ member => .inr member⟩

theorem trans (first : s.Schedules events s') (second : s'.Schedules later s'') :
    s.Schedules (events ++ later) s'' where
  now := second.now.trans first.now
  numbers := by
    rw [List.map_append, first.numbers, second.numbers, first.nextId, List.length_append,
      List.range'_append_1]
  nextId := by rw [second.nextId, first.nextId, List.length_append, Nat.add_assoc]
  queue := by
    have whole := second.queue.trans (first.queue.append_left later)
    rw [← List.append_assoc] at whole
    exact whole.trans (List.perm_append_comm.append_right _)
  due x member := by
    rcases List.mem_append.mp member with early | late
    · exact first.due x early
    · exact first.now ▸ second.due x late
  valid valid := second.valid (first.valid valid)
  live valid x member := by
    rcases second.live (first.valid valid) x member with late | before
    · exact .inl (List.mem_append_right _ late)
    · exact (first.live valid x before).imp_left fun early => List.mem_append_left _ early

end Schedules

theorem schedules_schedule {due : Time} (later : s.now ≤ due) (event : ε) :
    s.Schedules [⟨due, s.nextId, event⟩] (s.schedule due event).2 where
  now := rfl
  numbers := rfl
  nextId := rfl
  queue := EventQueue.toList_push s.queue _
  due x member := List.mem_singleton.mp member ▸ later
  valid valid := valid.schedule due event
  live valid x member := by
    rcases valid.mem_schedule.mp member with rfl | old
    · exact .inl List.mem_cons_self
    · exact .inr old

/-- An event that is taken back stays in the queue, though it will not run. -/
private theorem schedules_cancel (s : Simulator ε) (id : EventId) : s.Schedules [] (s.cancel id).2 where
  now := rfl
  numbers := rfl
  nextId := rfl
  queue := .refl _
  due := nofun
  valid valid := valid.cancel id
  live _ x member := by
    rw [live_cancel] at member
    exact .inr (List.mem_filter.mp member).1

theorem Schedules.timely (schedules : s.Schedules events s') (valid : s.WellFormed)
    (timely : s.Timely) : s'.Timely := by
  intro x member
  rw [schedules.now]
  rcases schedules.live valid x member with new | old
  · exact schedules.due x new
  · exact timely x old

/-- Time goes on, or stands still, and the events that are scheduled then are due at that time or
later. -/
structure Onward (s : Simulator ε) (events : List (Scheduled ε)) (s' : Simulator ε) : Prop where
  clock : s.now ≤ s'.now
  numbers : events.map (·.id) = List.range' s.nextId events.length
  nextId : s'.nextId = s.nextId + events.length
  queued : ∀ x ∈ events, x ∈ s'.queue.toList
  due : ∀ x ∈ events, s'.now ≤ x.due

theorem Onward.of_now (now : s.now ≤ s'.now) (nextId : s'.nextId = s.nextId) : s.Onward [] s' :=
  ⟨now, rfl, nextId, nofun, nofun⟩

theorem Schedules.onward (schedules : s'.Schedules events s'') (clock : s.now ≤ s'.now)
    (nextId : s'.nextId = s.nextId) : s.Onward events s'' where
  clock := schedules.now.symm ▸ clock
  numbers := nextId ▸ schedules.numbers
  nextId := nextId ▸ schedules.nextId
  queued _ member := schedules.queue.symm.subset (List.mem_append_left _ member)
  due x member := schedules.now.symm ▸ schedules.due x member

end Simulator

namespace TimerSlot

theorem schedules_disarm (slot : TimerSlot) (s : Simulator ε) : s.Schedules [] (slot.disarm s) := by
  cases slot with
  | none => exact .refl s
  | some timer => exact Simulator.schedules_cancel s timer.id

theorem schedules_rearm (slot : TimerSlot) (s : Simulator ε) (delay : Time) (event : ε) :
    ∃ events, s.Schedules events (slot.rearm s delay event).2 :=
  ⟨_, (schedules_disarm slot s).trans
    (Simulator.schedules_schedule (Time.le_add_right _ delay) event)⟩

end TimerSlot

end WirelessMesh
