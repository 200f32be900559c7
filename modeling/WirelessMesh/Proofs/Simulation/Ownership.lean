import WirelessMesh.Proofs.Simulation.LiveEvents

namespace WirelessMesh

universe u

variable {ε : Type u}

namespace Simulator

/-- The live events of one simulator are those of another, save for some that its holder owns. New
ones have new numbers and are not due before now, and the clock stands still. -/
structure Changes (owned : ε → Prop) (s s' : Simulator ε) : Prop where
  valid : s.WellFormed → s'.WellFormed
  now : s'.now = s.now
  nextId : s.nextId ≤ s'.nextId
  kept : s.WellFormed → ∀ x ∈ s.live, ¬ owned x.event → x ∈ s'.live
  fresh : s.WellFormed → ∀ x ∈ s'.live,
    x ∈ s.live ∨ (s.nextId ≤ x.id ∧ owned x.event ∧ s.now ≤ x.due)

variable {owned other : ε → Prop} {s s' s'' : Simulator ε}

namespace Changes

theorem refl (s : Simulator ε) : s.Changes owned s :=
  ⟨id, rfl, Nat.le_refl _, fun _ _ member _ => member, fun _ _ member => .inl member⟩

theorem trans (first : s.Changes owned s') (second : s'.Changes owned s'') :
    s.Changes owned s'' := by
  refine ⟨fun valid => second.valid (first.valid valid), second.now.trans first.now,
    Nat.le_trans first.nextId second.nextId, ?_,
    ?_⟩
  · intro valid x member foreign
    exact second.kept (first.valid valid) x (first.kept valid x member foreign) foreign
  · intro valid x member
    rcases second.fresh (first.valid valid) x member with old | ⟨new, mine, later⟩
    · exact first.fresh valid x old
    · exact .inr ⟨Nat.le_trans first.nextId new, mine, first.now ▸ later⟩

theorem mono (wider : ∀ event, owned event → other event) (changes : s.Changes owned s') :
    s.Changes other s' :=
  ⟨changes.valid, changes.now, changes.nextId,
    fun valid x member foreign =>
      changes.kept valid x member fun mine => foreign (wider _ mine),
    fun valid x member => (changes.fresh valid x member).imp_right fun new =>
      ⟨new.1, wider _ new.2.1, new.2.2⟩⟩

/-- An event of someone else is live before if and only if it is live after. -/
theorem foreign_iff (changes : s.Changes owned s') (valid : s.WellFormed) {x : Scheduled ε}
    (foreign : ¬ owned x.event) : x ∈ s'.live ↔ x ∈ s.live := by
  refine ⟨fun member => ?_, fun member => changes.kept valid x member foreign⟩
  exact (changes.fresh valid x member).resolve_right fun new => foreign new.2.1

theorem old (changes : s.Changes owned s') (valid : s.WellFormed) {x : Scheduled ε}
    (member : x ∈ s'.live) (given : x.id < s.nextId) : x ∈ s.live :=
  (changes.fresh valid x member).resolve_right fun new => Nat.not_le_of_lt given new.1

end Changes

theorem changes_schedule {due : Time} (later : s.now ≤ due) {event : ε} (mine : owned event) :
    s.Changes owned (s.schedule due event).2 := by
  refine ⟨(·.schedule due event), rfl, Nat.le_succ _, ?_,
    ?_⟩
  · intro valid x member _
    exact valid.mem_schedule.mpr (.inr member)
  · intro valid x member
    rcases valid.mem_schedule.mp member with rfl | old
    · exact .inr ⟨Nat.le_refl _, mine, later⟩
    · exact .inl old

private theorem changes_cancel {id : EventId} (mine : ∀ x ∈ s.live, x.id = id → owned x.event) :
    s.Changes owned (s.cancel id).2 := by
  refine ⟨(·.cancel id), rfl, Nat.le_refl _, ?_,
    ?_⟩
  · intro _ x member foreign
    rw [live_cancel]
    refine List.mem_filter.mpr ⟨member, ?_⟩
    simpa using fun same => foreign (mine x member same)
  · intro _ x member
    rw [live_cancel] at member
    exact .inl (List.mem_filter.mp member).1

/-- Whatever else happens, the guarded events that are live stay so, and no others join them. -/
structure Spares (guarded : ε → Prop) (s s' : Simulator ε) : Prop where
  valid : s.WellFormed → s'.WellFormed
  nextId : s.nextId ≤ s'.nextId
  old : s.WellFormed → ∀ x ∈ s'.live, x.id < s.nextId → x ∈ s.live
  same : s.WellFormed → ∀ x, guarded x.event → (x ∈ s'.live ↔ x ∈ s.live)

theorem Changes.spares {guarded : ε → Prop} (changes : s.Changes owned s')
    (apart : ∀ event, owned event → ¬ guarded event) : s.Spares guarded s' where
  valid := changes.valid
  nextId := changes.nextId
  old valid _ member given := changes.old valid member given
  same valid _ mine := changes.foreign_iff valid fun owns => apart _ owns mine

namespace Spares

variable {guarded : ε → Prop}

theorem refl (s : Simulator ε) : s.Spares guarded s :=
  ⟨id, Nat.le_refl _, fun _ _ member _ => member, fun _ _ _ => Iff.rfl⟩

theorem trans (first : s.Spares guarded s') (second : s'.Spares guarded s'') :
    s.Spares guarded s'' where
  valid valid := second.valid (first.valid valid)
  nextId := Nat.le_trans first.nextId second.nextId
  old valid x member given :=
    first.old valid x
      (second.old (first.valid valid) x member (Nat.lt_of_lt_of_le given first.nextId)) given
  same valid x mine :=
    (second.same (first.valid valid) x mine).trans (first.same valid x mine)

theorem wait (s : Simulator ε) (now : Time) : s.Spares guarded { s with now } :=
  ⟨fun valid => ⟨valid.ordered, valid.distinct, valid.given, valid.queued⟩, Nat.le_refl _,
    fun _ _ member _ => member, fun _ _ _ => Iff.rfl⟩

theorem next? {limit : Option Time} {item : Scheduled ε}
    (taken : s.next? limit = some (item, s')) (foreign : ¬ guarded item.event) :
    s.Spares guarded s' := by
  refine ⟨fun valid => valid.next? taken, Nat.le_of_eq (next?_nextId taken).symm,
    ?_, fun valid x mine => ⟨?_, ?_⟩⟩
  · intro valid x member _
    exact (valid.live_next? taken).symm.subset (List.mem_cons_of_mem _ member)
  · intro member
    exact (valid.live_next? taken).symm.subset (List.mem_cons_of_mem _ member)
  · intro member
    rcases List.mem_cons.mp ((valid.live_next? taken).subset member) with rfl | rest
    · exact absurd mine foreign
    · exact rest

end Spares

/-- Whatever else happens, the guarded events that are live stay so. Others may join them, under new
numbers. -/
structure Retains (guarded : ε → Prop) (s s' : Simulator ε) : Prop where
  valid : s.WellFormed → s'.WellFormed
  nextId : s.nextId ≤ s'.nextId
  old : s.WellFormed → ∀ x ∈ s'.live, x.id < s.nextId → x ∈ s.live
  kept : s.WellFormed → ∀ x ∈ s.live, guarded x.event → x ∈ s'.live

theorem Spares.retains {guarded : ε → Prop} (spares : s.Spares guarded s') :
    s.Retains guarded s' where
  valid := spares.valid
  nextId := spares.nextId
  old := spares.old
  kept valid x member mine := (spares.same valid x mine).mpr member

theorem Retains.refl (s : Simulator ε) {guarded : ε → Prop} : s.Retains guarded s :=
  ⟨id, Nat.le_refl _, fun _ _ member _ => member, fun _ _ member _ => member⟩

theorem Retains.trans {guarded : ε → Prop} (first : s.Retains guarded s')
    (second : s'.Retains guarded s'') : s.Retains guarded s'' where
  valid valid := second.valid (first.valid valid)
  nextId := Nat.le_trans first.nextId second.nextId
  old valid x member given :=
    first.old valid x
      (second.old (first.valid valid) x member (Nat.lt_of_lt_of_le given first.nextId)) given
  kept valid x member mine :=
    second.kept (first.valid valid) x (first.kept valid x member mine) mine

theorem retains_schedule (s : Simulator ε) (due : Time) (event : ε) {guarded : ε → Prop} :
    s.Retains guarded (s.schedule due event).2 where
  valid valid := valid.schedule due event
  nextId := Nat.le_succ _
  old valid x member given := by
    rcases valid.mem_schedule.mp member with rfl | old
    · exact absurd given (Nat.lt_irrefl _)
    · exact old
  kept valid x member _ :=
    valid.mem_schedule.mpr (.inr member)

def Timely (s : Simulator ε) : Prop := ∀ x ∈ s.live, s.now ≤ x.due

theorem Timely.empty : (Simulator.empty : Simulator ε).Timely := nofun

theorem Changes.timely (changes : s.Changes owned s') (valid : s.WellFormed) (timely : s.Timely) :
    s'.Timely := by
  intro x member
  rw [changes.now]
  rcases changes.fresh valid x member with old | new
  · exact timely x old
  · exact new.2.2

theorem Timely.wait (timely : s.Timely) (valid : s.WellFormed) {limit : Time}
    (idle : s.next? (some limit) = none) : { s with now := max s.now limit }.Timely := by
  intro x member
  have later : limit < x.due := of_decide_eq_true (valid.next?_none idle member)
  have due := timely x member
  simp only [Time.le_def, Time.lt_def, Time.ns_max] at later due ⊢
  omega

theorem Timely.next? (timely : s.Timely) (valid : s.WellFormed) {limit : Option Time}
    {item : Scheduled ε} (taken : s.next? limit = some (item, s')) :
    s'.Timely ∧ s.now ≤ s'.now := by
  rw [next?_now taken]
  have live := valid.next?_live taken
  refine ⟨fun x member => ?_, timely item live⟩
  have first := valid.next?_first taken ((valid.mem_next? taken).mp member).1
  rw [Scheduled.precedes_iff] at first
  rw [next?_now taken, Time.le_def]
  omega

end Simulator

namespace TimerSlot

variable {slot : TimerSlot} {event : ε} {owned : ε → Prop} {s s' : Simulator ε}

/-- Whatever timer a slot holds, its number was given out, and to no event but this. -/
def Owns (slot : TimerSlot) (s : Simulator ε) (event : ε) : Prop :=
  ∀ timer, slot = some timer →
    timer.id < s.nextId ∧ ∀ x ∈ s.live, x.id = timer.id → x.event = event

theorem owns_none : Owns none s event := nofun

/-- What a slot owns stays its own whatever is done to the simulator. -/
theorem Owns.spares (owns : slot.Owns s event) (valid : s.WellFormed)
    (spares : s.Spares owned s') : slot.Owns s' event := by
  intro timer held
  obtain ⟨given, alone⟩ := owns timer held
  refine ⟨Nat.lt_of_lt_of_le given spares.nextId, fun x member same => ?_⟩
  exact alone x (spares.old valid x member (same ▸ given)) same

theorem Owns.changes (owns : slot.Owns s event) (valid : s.WellFormed)
    (changes : s.Changes owned s') : slot.Owns s' event := by
  have spares : s.Spares (fun _ => False) s' := changes.spares fun _ _ => id
  exact owns.spares valid spares

theorem Owns.live (owns : slot.Owns s event) (valid : s.WellFormed) (armed : slot.isArmed s = true) :
    ∃ x ∈ s.live, x.event = event := by
  cases held : slot with
  | none =>
    rw [held] at armed
    cases armed
  | some timer =>
    rw [held] at armed
    obtain ⟨x, member, same⟩ := valid.isPending_iff.mp armed
    exact ⟨x, member, (owns timer held).2 x member same⟩

theorem live_disarm {x : Scheduled ε} :
    x ∈ (slot.disarm s).live ↔ x ∈ s.live ∧ ∀ timer, slot = some timer → x.id ≠ timer.id := by
  cases slot with
  | none => simp [disarm]
  | some timer => simp [disarm, Timer.cancel, Simulator.live_cancel]

theorem changes_disarm (owns : slot.Owns s event) (mine : owned event) :
    s.Changes owned (slot.disarm s) := by
  cases slot with
  | none => exact .refl s
  | some timer =>
    apply Simulator.changes_cancel
    intro x member same
    rw [(owns timer rfl).2 x member same]
    exact mine

theorem nextId_disarm : (slot.disarm s).nextId = s.nextId := by
  cases slot <;> rfl

theorem now_disarm : (slot.disarm s).now = s.now := by
  cases slot <;> rfl

theorem disarm_wellFormed (valid : s.WellFormed) : (slot.disarm s).WellFormed := by
  cases slot with
  | none => exact valid
  | some timer => exact valid.cancel timer.id

theorem changes_rearm (owns : slot.Owns s event) (mine : owned event) (delay : Time) :
    s.Changes owned (slot.rearm s delay event).2 :=
  (changes_disarm owns mine).trans (Simulator.changes_schedule (Time.le_add_right _ _) mine)

theorem owns_rearm (valid : s.WellFormed) (delay : Time) (event : ε) :
    Owns (slot.rearm s delay event).1 (slot.rearm s delay event).2 event := by
  have valid' : (slot.disarm s).WellFormed := disarm_wellFormed valid
  rintro timer held
  obtain rfl : _ = timer := Option.some.inj held
  refine ⟨Nat.lt_succ_self _, fun x member same => ?_⟩
  rcases valid'.mem_schedule.mp member with rfl | old
  · rfl
  · exact absurd same (Nat.ne_of_lt (valid'.live_given old))

/-- Whatever timer a slot holds, its number was given out, and its event is due by a time. -/
def DueBy (slot : TimerSlot) (s : Simulator ε) (limit : Time) : Prop :=
  ∀ timer, slot = some timer →
    timer.id < s.nextId ∧ ∀ x ∈ s.live, x.id = timer.id → x.due ≤ limit

/-- The event of a slot is due by then whatever is done to the simulator. -/
theorem DueBy.spares {limit : Time} (dueBy : slot.DueBy s limit) (valid : s.WellFormed)
    (spares : s.Spares owned s') : slot.DueBy s' limit := by
  intro timer held
  obtain ⟨given, by_limit⟩ := dueBy timer held
  constructor
  · exact Nat.lt_of_lt_of_le given spares.nextId
  · intro x member same
    exact by_limit x (spares.old valid x member (same ▸ given)) same

end TimerSlot

end WirelessMesh
