import WirelessMesh.Proofs.Simulation.Ownership

namespace WirelessMesh

universe u

theorem countP_eq_one {α : Type u} {l : List α} {p : α → Bool} {x : α} (distinct : l.Nodup)
    (member : x ∈ l) (alone : ∀ y ∈ l, p y = true ↔ y = x) : l.countP p = 1 := by
  obtain ⟨before, after, rfl⟩ := List.append_of_mem member
  have mine : p x = true := (alone x member).mpr rfl
  have none : ∀ y ∈ before ++ after, ¬ p y = true := by
    intro y other hit
    have whole := List.nodup_middle.mp distinct
    have same := (alone y (by simp at other ⊢; tauto)).mp hit
    exact (List.nodup_cons.mp whole).1 (same ▸ other)
  rw [List.countP_append, List.countP_cons_of_pos mine,
    List.countP_eq_zero.mpr fun y here => none y (List.mem_append_left _ here),
    List.countP_eq_zero.mpr fun y here => none y (List.mem_append_right _ here)]

namespace Simulator.Spares

variable {ε : Type u} {guarded fewer : ε → Prop} {s s' : Simulator ε}

theorem mono (narrower : ∀ event, fewer event → guarded event) (spares : s.Spares guarded s') :
    s.Spares fewer s' :=
  ⟨spares.valid, spares.nextId, spares.old, fun valid x mine =>
    spares.same valid x (narrower _ mine)⟩

/-- An event that is not guarded is scheduled, at whatever time. -/
theorem schedule (s : Simulator ε) (due : Time) {event : ε} (foreign : ¬ guarded event) :
    s.Spares guarded (s.schedule due event).2 where
  valid valid := valid.schedule due event
  nextId := Nat.le_succ _
  old valid x member given := by
    rcases valid.mem_schedule.mp member with rfl | before
    · exact absurd given (Nat.lt_irrefl _)
    · exact before
  same valid x mine := by
    refine ⟨fun member => ?_, fun before => ?_⟩
    · rcases valid.mem_schedule.mp member with rfl | before
      · exact absurd mine foreign
      · exact before
    · exact valid.mem_schedule.mpr (.inr before)

end Simulator.Spares

/-- When the live events of one kind are due. -/
def Simulator.dueTimes {ε : Type u} [DecidableEq ε] (s : Simulator ε) (event : ε) : List Time :=
  (s.live.filter fun x => x.event = event).map (·.due)

namespace TimerSlot

variable {ε : Type u} {slot : TimerSlot} {event : ε} {owned : ε → Prop} {s s' : Simulator ε}
  {x : Scheduled ε}

/-- Whatever is live of an event is held by the slot, which knows when it is due. -/
structure Holds (slot : TimerSlot) (s : Simulator ε) (event : ε) : Prop where
  owns : slot.Owns s event
  alone : ∀ x ∈ s.live, x.event = event → slot = some ⟨x.id, x.due⟩

theorem holds_none (never : ∀ x ∈ s.live, x.event ≠ event) : Holds none s event :=
  ⟨owns_none, fun x member same => absurd same (never x member)⟩

namespace Holds

theorem isArmed_iff (holds : slot.Holds s event) (valid : s.WellFormed) :
    slot.isArmed s = true ↔ ∃ x ∈ s.live, x.event = event := by
  constructor
  · exact holds.owns.live valid
  · rintro ⟨x, member, same⟩
    rw [holds.alone x member same]
    exact valid.isPending_iff.mpr ⟨x, member, rfl⟩

/-- A timer that is still to fire is in the slot exactly if it is that of a live event. -/
theorem armed_iff (holds : slot.Holds s event) (valid : s.WellFormed) {timer : Timer} :
    (slot = some timer ∧ timer.isArmed s = true) ↔
      ∃ x ∈ s.live, x.event = event ∧ timer = ⟨x.id, x.due⟩ := by
  constructor
  · rintro ⟨held, armed⟩
    obtain ⟨x, member, same⟩ := valid.isPending_iff.mp armed
    have mine := (holds.owns timer held).2 x member same
    exact ⟨x, member, mine, Option.some.inj (held.symm.trans (holds.alone x member mine))⟩
  · rintro ⟨x, member, mine, rfl⟩
    exact ⟨holds.alone x member mine, valid.isPending_iff.mpr ⟨x, member, rfl⟩⟩

/-- There is one event if the slot is armed, and none if it is not. -/
theorem count [DecidableEq ε] (holds : slot.Holds s event) (valid : s.WellFormed) :
    s.live.countP (fun x => x.event = event) = if slot.isArmed s then 1 else 0 := by
  split
  · next armed =>
    obtain ⟨x, member, same⟩ := (holds.isArmed_iff valid).mp armed
    refine countP_eq_one (.of_map _ valid.live_ids_nodup) member fun y live => ?_
    rw [decide_eq_true_eq]
    refine ⟨fun mine => ?_, fun one => one ▸ same⟩
    have held := (holds.alone y live mine).symm.trans (holds.alone x member same)
    exact valid.live_unique live member (congrArg Timer.id (Option.some.inj held))
  · next idle =>
    refine List.countP_eq_zero.mpr fun x member hit => idle ?_
    exact (holds.isArmed_iff valid).mpr ⟨x, member, of_decide_eq_true hit⟩

/-- What others do to the simulator leaves a slot with its event. -/
theorem changes (holds : slot.Holds s event) (valid : s.WellFormed) (changes : s.Changes owned s')
    (foreign : ¬ owned event) : slot.Holds s' event where
  owns := holds.owns.changes valid changes
  alone x member same :=
    holds.alone x ((changes.foreign_iff valid (same ▸ foreign)).mp member) same

theorem next? (holds : slot.Holds s event) (valid : s.WellFormed) {limit : Option Time}
    (taken : s.next? limit = some (x, s')) : slot.Holds s' event := by
  have spares : s.Spares (fun _ => False) s' := .next? taken id
  refine ⟨holds.owns.spares valid spares, fun y member same => ?_⟩
  exact holds.alone y ((valid.mem_next? taken).mp member).1 same

theorem rearm (holds : slot.Holds s event) (valid : s.WellFormed) (delay : Time) :
    Holds (slot.rearm s delay event).1 (slot.rearm s delay event).2 event where
  owns := owns_rearm valid delay event
  alone x member same := by
    have valid' : (slot.disarm s).WellFormed := disarm_wellFormed valid
    rcases valid'.mem_schedule.mp member with rfl | old
    · rfl
    · -- What was live of the event has been taken back.
      obtain ⟨before, apart⟩ := live_disarm.mp old
      exact absurd rfl (apart _ (holds.alone x before same))

theorem disarm (holds : slot.Holds s event) : Holds none (slot.disarm s) event := by
  refine holds_none fun x member same => ?_
  obtain ⟨before, apart⟩ := live_disarm.mp member
  exact absurd rfl (apart _ (holds.alone x before same))

theorem forget (holds : slot.Holds s event) (valid : s.WellFormed)
    (idle : slot.isArmed s = false) : Holds none s event := by
  refine holds_none fun x member same => ?_
  have armed := (holds.isArmed_iff valid).mpr ⟨x, member, same⟩
  exact Bool.false_ne_true (idle.symm.trans armed)

/-- What is done to other events leaves a slot with its event. -/
theorem spares {guarded : ε → Prop} (holds : slot.Holds s event) (valid : s.WellFormed)
    (spares : s.Spares guarded s') (mine : guarded event) : slot.Holds s' event where
  owns := holds.owns.spares valid spares
  alone x member same := holds.alone x ((spares.same valid x (same ▸ mine)).mp member) same

/-- A slot is armed as before when other events come and go. -/
theorem isArmed_spares {guarded : ε → Prop} (holds : slot.Holds s event) (valid : s.WellFormed)
    (spares : s.Spares guarded s') (mine : guarded event) : slot.isArmed s' = slot.isArmed s := by
  rw [Bool.eq_iff_iff, (holds.spares valid spares mine).isArmed_iff (spares.valid valid),
    holds.isArmed_iff valid]
  exact exists_congr fun x => and_congr_left fun same => spares.same valid x (same ▸ mine)

/-- A slot stays armed when another event begins, and does not become armed by any. -/
theorem isArmed_next? (holds : slot.Holds s event) (valid : s.WellFormed) {limit : Option Time}
    (taken : s.next? limit = some (x, s')) :
    slot.isArmed s' = true ↔ slot.isArmed s = true ∧ x.event ≠ event := by
  rw [(holds.next? valid taken).isArmed_iff (valid.next? taken), holds.isArmed_iff valid]
  constructor
  · rintro ⟨y, member, same⟩
    obtain ⟨before, apart⟩ := (valid.mem_next? taken).mp member
    refine ⟨⟨y, before, same⟩, fun begun => apart ?_⟩
    have live := valid.next?_live taken
    have held := (holds.alone y before same).symm.trans (holds.alone x live begun)
    exact congrArg Timer.id (Option.some.inj held)
  · rintro ⟨⟨y, before, same⟩, other⟩
    have live := valid.next?_live taken
    refine ⟨y, (valid.mem_next? taken).mpr ⟨before, fun here => other ?_⟩, same⟩
    rw [← valid.live_unique before live here, same]

end Holds

theorem isArmed_rearm (slot : TimerSlot) (s : Simulator ε) (delay : Time) (event : ε) :
    isArmed (slot.rearm s delay event).1 (slot.rearm s delay event).2 = true :=
  (Simulator.isPending_schedule _ _ _).mpr (.inl rfl)

/-- When the event of a slot is due, if it is still to come. -/
def due? (slot : TimerSlot) (s : Simulator ε) : Option Time :=
  slot.bind fun timer => (s.live.find? fun x => x.id = timer.id).map (·.due)

theorem due?_eq_some_iff (valid : s.WellFormed) {due : Time} :
    slot.due? s = some due ↔
      ∃ timer, slot = some timer ∧ ∃ x ∈ s.live, x.id = timer.id ∧ x.due = due := by
  unfold due?
  rw [Option.bind_eq_some_iff]
  refine exists_congr fun timer => and_congr_right fun _ => ?_
  rw [Option.map_eq_some_iff]
  constructor
  · rintro ⟨x, found, same⟩
    have number : x.id = timer.id := by simpa using List.find?_some found
    exact ⟨x, List.mem_of_find?_eq_some found, number, same⟩
  · rintro ⟨x, member, number, same⟩
    have present : (s.live.find? fun x => x.id = timer.id).isSome = true :=
      List.find?_isSome.mpr ⟨x, member, by simpa using number⟩
    obtain ⟨y, found⟩ := Option.isSome_iff_exists.mp present
    have twin : y.id = timer.id := by simpa using List.find?_some found
    have one := valid.live_unique (List.mem_of_find?_eq_some found) member (twin.trans number.symm)
    exact ⟨y, found, one ▸ same⟩

/-- A slot is armed exactly if its event is due at some time. -/
theorem isSome_due? (valid : s.WellFormed) : (slot.due? s).isSome = slot.isArmed s := by
  rw [Bool.eq_iff_iff, Option.isSome_iff_exists]
  simp only [due?_eq_some_iff valid]
  cases slot with
  | none => simp [isArmed]
  | some timer =>
    show _ ↔ s.isPending timer.id = true
    rw [valid.isPending_iff]
    constructor
    · rintro ⟨_, _, held, x, member, number, -⟩
      cases held
      exact ⟨x, member, number⟩
    · rintro ⟨x, member, number⟩
      exact ⟨x.due, timer, rfl, x, member, number, rfl⟩

/-- A slot tells when the events that it alone holds are due. -/
theorem Holds.dueTimes [DecidableEq ε] (holds : slot.Holds s event) (valid : s.WellFormed) :
    s.dueTimes event = (slot.due? s).toList := by
  unfold Simulator.dueTimes
  cases due : slot.due? s with
  | none =>
    have idle : slot.isArmed s = false := by rw [← isSome_due? valid, due]; rfl
    have none : s.live.filter (fun x => x.event = event) = [] := by
      refine List.filter_eq_nil_iff.mpr fun x member mine => ?_
      have armed := (holds.isArmed_iff valid).mpr ⟨x, member, of_decide_eq_true mine⟩
      exact Bool.false_ne_true (idle.symm.trans armed)
    rw [none]
    rfl
  | some due =>
    obtain ⟨timer, held, x, member, number, rfl⟩ := (due?_eq_some_iff valid).mp due
    have mine := (holds.owns timer held).2 x member number
    have distinct : s.live.Nodup := .of_map _ valid.live_ids_nodup
    have only : (s.live.filter fun x => x.event = event).Perm [x] := by
      refine (List.perm_ext_iff_of_nodup (distinct.filter _) (List.nodup_singleton x)).mpr fun y => ?_
      rw [List.mem_filter, List.mem_singleton, decide_eq_true_eq]
      constructor
      · rintro ⟨live, same⟩
        have twin := held.symm.trans (holds.alone y live same)
        exact valid.live_unique live member
          ((congrArg Timer.id (Option.some.inj twin)).symm.trans number.symm)
      · rintro rfl
        exact ⟨member, mine⟩
    rw [List.perm_singleton.mp only]
    rfl

/-- What others do leaves the event of a slot where it is. -/
theorem due?_changes (owns : slot.Owns s event) (valid : s.WellFormed)
    (changes : s.Changes owned s') (foreign : ¬ owned event) : slot.due? s' = slot.due? s := by
  apply Option.ext
  intro due
  rw [due?_eq_some_iff valid, due?_eq_some_iff (changes.valid valid)]
  refine exists_congr fun timer => and_congr_right fun held => exists_congr fun x => ?_
  obtain ⟨given, mine⟩ := owns timer held
  constructor
  · rintro ⟨member, number, same⟩
    exact ⟨changes.old valid member (number ▸ given), number, same⟩
  · rintro ⟨member, number, same⟩
    refine ⟨(changes.foreign_iff valid ?_).mpr member, number, same⟩
    rwa [mine x member number]

/-- The event of a timer that has just been set is due when the timer says. -/
theorem due?_schedule (valid : s.WellFormed) (due : Time) (event : ε) (firesAt : Time) :
    due? (some ⟨s.nextId, firesAt⟩) (s.schedule due event).2 = some due :=
  (due?_eq_some_iff (valid.schedule due event)).mpr ⟨_, rfl, ⟨due, s.nextId, event⟩,
    valid.mem_schedule.mpr (.inl rfl), rfl, rfl⟩

theorem due?_rearm (valid : s.WellFormed) (delay : Time) (event : ε) :
    due? (slot.rearm s delay event).1 (slot.rearm s delay event).2 = some (s.now + delay) := by
  have valid' : (slot.disarm s).WellFormed := disarm_wellFormed valid
  have now : (slot.disarm s).now = s.now := now_disarm
  rw [← now]
  exact due?_schedule valid' _ event _

end TimerSlot

end WirelessMesh
