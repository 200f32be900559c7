import WirelessMesh.Proofs.Simulation.Heap
import WirelessMesh.Simulation.Timer

/-!
The live events of a simulator: those in its queue that have neither run nor been cancelled. Each
operation is described by what it does to them; the queue and the set of pending numbers do not
appear in these descriptions.
-/
namespace WirelessMesh

universe u

namespace Simulator

variable {ε : Type u} {s s' : Simulator ε}

/-- The events that will still run, in no useful order. -/
def live (s : Simulator ε) : List (Scheduled ε) := s.queue.toList.filter fun x => s.isPending x.id

/-- The queue is a heap of events with different numbers, all given out before, and every pending
number is that of an event in it. -/
structure WellFormed (s : Simulator ε) : Prop where
  ordered : s.queue.Ordered
  distinct : (s.queue.toList.map (·.id)).Nodup
  given : ∀ x ∈ s.queue.toList, x.id < s.nextId
  queued : ∀ id, s.isPending id = true → ∃ x ∈ s.queue.toList, x.id = id

theorem mem_live {x : Scheduled ε} :
    x ∈ s.live ↔ x ∈ s.queue.toList ∧ s.isPending x.id = true := by
  simp [live]

theorem WellFormed.isPending_iff (valid : s.WellFormed) {id : EventId} :
    s.isPending id = true ↔ ∃ x ∈ s.live, x.id = id := by
  constructor
  · intro pending
    obtain ⟨x, member, rfl⟩ := valid.queued id pending
    exact ⟨x, mem_live.mpr ⟨member, pending⟩, rfl⟩
  · rintro ⟨x, member, rfl⟩
    exact (mem_live.mp member).2

theorem WellFormed.live_ids_nodup (valid : s.WellFormed) : (s.live.map (·.id)).Nodup :=
  valid.distinct.sublist (List.filter_sublist.map _)

theorem WellFormed.live_given (valid : s.WellFormed) {x : Scheduled ε} (member : x ∈ s.live) :
    x.id < s.nextId :=
  valid.given x (mem_live.mp member).1

theorem WellFormed.live_unique (valid : s.WellFormed) {x y : Scheduled ε} (first : x ∈ s.live)
    (second : y ∈ s.live) (same : x.id = y.id) : x = y :=
  List.inj_on_of_nodup_map valid.live_ids_nodup first second same

theorem empty_wellFormed : (empty : Simulator ε).WellFormed := by
  constructor
  · trivial
  · simp [empty]
  · simp [empty]
  · simp [empty, isPending]

@[simp] theorem live_empty : (empty : Simulator ε).live = [] := rfl

section Schedule

variable (due : Time) (event : ε)

@[simp] theorem schedule_id : (s.schedule due event).1 = s.nextId := rfl

@[simp] theorem schedule_now : (s.schedule due event).2.now = s.now := rfl

@[simp] theorem schedule_nextId : (s.schedule due event).2.nextId = s.nextId + 1 := rfl

theorem isPending_schedule (id : EventId) :
    (s.schedule due event).2.isPending id = true ↔ id = s.nextId ∨ s.isPending id = true := by
  simp only [schedule, isPending, Std.TreeSet.contains_insert, Bool.or_eq_true, beq_iff_eq,
    Std.LawfulEqCmp.compare_eq_iff_eq]
  exact or_congr_left eq_comm

theorem WellFormed.schedule (valid : s.WellFormed) : (s.schedule due event).2.WellFormed := by
  have pushed := EventQueue.toList_push s.queue ⟨due, s.nextId, event⟩
  constructor
  · exact valid.ordered.push _
  · refine (pushed.map (·.id)).nodup_iff.mpr (List.nodup_cons.mpr ⟨?_, valid.distinct⟩)
    rintro member
    obtain ⟨x, present, same⟩ := List.mem_map.mp member
    exact Nat.ne_of_lt (valid.given x present) same
  · intro x member
    rcases List.mem_cons.mp (pushed.subset member) with rfl | present
    · exact Nat.lt_succ_self _
    · exact Nat.lt_succ_of_lt (valid.given x present)
  · intro id pending
    rcases (isPending_schedule due event id).mp pending with rfl | pending
    · exact ⟨_, pushed.symm.subset List.mem_cons_self, rfl⟩
    · obtain ⟨x, present, same⟩ := valid.queued id pending
      exact ⟨x, pushed.symm.subset (List.mem_cons_of_mem _ present), same⟩

/-- Scheduling adds one live event, under the next number. -/
theorem WellFormed.live_schedule (valid : s.WellFormed) :
    (s.schedule due event).2.live.Perm (⟨due, s.nextId, event⟩ :: s.live) := by
  have pushed := EventQueue.toList_push s.queue ⟨due, s.nextId, event⟩
  have old : ∀ x ∈ s.queue.toList,
      (s.schedule due event).2.isPending x.id = s.isPending x.id := by
    intro x member
    have differs : x.id ≠ s.nextId := Nat.ne_of_lt (valid.given x member)
    rw [Bool.eq_iff_iff, isPending_schedule]
    simp [differs]
  refine (pushed.filter _).trans ?_
  rw [List.filter_cons, if_pos ((isPending_schedule due event _).mpr (.inl rfl))]
  rw [List.filter_congr old]
  exact .refl _

variable {due event} in
theorem WellFormed.mem_schedule (valid : s.WellFormed) {x : Scheduled ε} :
    x ∈ (s.schedule due event).2.live ↔ x = ⟨due, s.nextId, event⟩ ∨ x ∈ s.live :=
  (valid.live_schedule due event).mem_iff.trans List.mem_cons

end Schedule

section Cancel

variable (id : EventId)

@[simp] theorem cancel_answer : (s.cancel id).1 = s.isPending id := rfl

@[simp] theorem cancel_now : (s.cancel id).2.now = s.now := rfl

@[simp] theorem cancel_nextId : (s.cancel id).2.nextId = s.nextId := rfl

theorem isPending_cancel (other : EventId) :
    (s.cancel id).2.isPending other = true ↔ other ≠ id ∧ s.isPending other = true := by
  simp only [cancel, isPending, Std.TreeSet.contains_erase, Bool.and_eq_true, bne_iff_ne, ne_eq,
    Std.LawfulEqCmp.compare_eq_iff_eq]
  exact and_congr_left' (not_congr eq_comm)

theorem WellFormed.cancel (valid : s.WellFormed) : (s.cancel id).2.WellFormed where
  ordered := valid.ordered
  distinct := valid.distinct
  given := valid.given
  queued other pending := valid.queued other ((isPending_cancel id other).mp pending).2

/-- Cancelling takes the event of one number out of the live ones. -/
theorem live_cancel : (s.cancel id).2.live = s.live.filter fun x => x.id != id := by
  show s.queue.toList.filter _ = (s.queue.toList.filter _).filter _
  rw [List.filter_filter]
  apply List.filter_congr
  intro x _
  rw [Bool.eq_iff_iff, isPending_cancel]
  simp

end Cancel

section Next

variable {limit : Option Time} {x : Scheduled ε}

private theorem next?_some (taken : s.next? limit = some (x, s')) :
    (s.queue.prune s.isPending).top? = some x ∧ limit.any (· < x.due) = false ∧
      s' = { s with
        now := x.due
        queue := (s.queue.prune s.isPending).tail
        pending := s.pending.erase x.id } := by
  unfold next? at taken
  simp only at taken
  split at taken
  · cases taken
  · next item top =>
    split at taken
    · cases taken
    · next within =>
      simp only [Option.some.injEq, Prod.mk.injEq] at taken
      obtain ⟨rfl, rfl⟩ := taken
      exact ⟨top, by simpa using within, rfl⟩

private theorem live_prune :
    s.live.Perm ((s.queue.prune s.isPending).toList.filter fun y => s.isPending y.id) := by
  obtain ⟨dead, perm, buried⟩ := EventQueue.toList_prune s.isPending s.queue
  have none : dead.filter (fun y => s.isPending y.id) = [] :=
    List.filter_eq_nil_iff.mpr fun y member => by simp [buried y member]
  have kept := perm.filter fun y => s.isPending y.id
  rwa [List.filter_append, none, List.nil_append] at kept

theorem next?_now (taken : s.next? limit = some (x, s')) : s'.now = x.due := by
  rw [(next?_some taken).2.2]

theorem next?_nextId (taken : s.next? limit = some (x, s')) : s'.nextId = s.nextId := by
  rw [(next?_some taken).2.2]

theorem next?_within (taken : s.next? limit = some (x, s')) : limit.any (· < x.due) = false :=
  (next?_some taken).2.1

theorem isPending_next? (taken : s.next? limit = some (x, s')) (id : EventId) :
    s'.isPending id = true ↔ id ≠ x.id ∧ s.isPending id = true := by
  rw [(next?_some taken).2.2]
  exact isPending_cancel x.id id

theorem WellFormed.next? (valid : s.WellFormed) (taken : s.next? limit = some (x, s')) :
    s'.WellFormed := by
  obtain ⟨top, -, rfl⟩ := next?_some taken
  obtain ⟨dead, perm, buried⟩ := EventQueue.toList_prune s.isPending s.queue
  have whole := perm.trans ((EventQueue.toList_tail top).append_left dead)
  have distinct := (whole.map (·.id)).nodup_iff.mp valid.distinct
  rw [List.map_append, List.map_cons, List.nodup_append] at distinct
  constructor
  · exact valid.ordered.prune.tail
  · exact (List.nodup_cons.mp distinct.2.1).2
  · intro y member
    exact valid.given y (whole.symm.subset (by simp [member]))
  · intro id pending
    obtain ⟨differs, pending⟩ := (isPending_next? taken id).mp pending
    obtain ⟨y, present, rfl⟩ := valid.queued id pending
    rcases List.mem_append.mp (whole.subset present) with gone | kept
    · rw [buried y gone] at pending
      cases pending
    · rcases List.mem_cons.mp kept with rfl | later
      · exact absurd rfl differs
      · exact ⟨y, later, rfl⟩

theorem WellFormed.live_next? (valid : s.WellFormed) (taken : s.next? limit = some (x, s')) :
    s.live.Perm (x :: s'.live) := by
  obtain ⟨top, -, same⟩ := next?_some taken
  have kept := live_prune.trans ((EventQueue.toList_tail top).filter fun y => s.isPending y.id)
  rw [List.filter_cons, if_pos (EventQueue.alive_top_prune x top)] at kept
  have distinct := (kept.map (·.id)).nodup_iff.mp valid.live_ids_nodup
  rw [List.map_cons, List.nodup_cons] at distinct
  refine kept.trans (.of_eq (congrArg (x :: ·) ?_))
  have queue : s'.queue = (s.queue.prune s.isPending).tail := by rw [same]
  show _ = s'.queue.toList.filter _
  rw [queue]
  apply List.filter_congr
  intro y member
  rw [Bool.eq_iff_iff, isPending_next? taken]
  refine ⟨fun pending => ⟨fun equal => distinct.1 ?_, pending⟩, And.right⟩
  exact List.mem_map.mpr ⟨y, List.mem_filter.mpr ⟨member, pending⟩, equal⟩

theorem WellFormed.next?_live (valid : s.WellFormed) (taken : s.next? limit = some (x, s')) :
    x ∈ s.live :=
  (valid.live_next? taken).symm.subset List.mem_cons_self

/-- The events that are live after one has begun: all the others. -/
theorem WellFormed.mem_next? (valid : s.WellFormed) (taken : s.next? limit = some (x, s'))
    {y : Scheduled ε} : y ∈ s'.live ↔ y ∈ s.live ∧ y.id ≠ x.id := by
  have perm := valid.live_next? taken
  have distinct := (perm.map (·.id)).nodup_iff.mp valid.live_ids_nodup
  rw [List.map_cons, List.nodup_cons] at distinct
  rw [perm.mem_iff, List.mem_cons]
  constructor
  · intro member
    refine ⟨.inr member, fun same => distinct.1 ?_⟩
    exact List.mem_map.mpr ⟨y, member, same⟩
  · rintro ⟨rfl | member, other⟩
    · exact absurd rfl other
    · exact member

/-- The event taken precedes all that were live. -/
theorem WellFormed.next?_first (valid : s.WellFormed) (taken : s.next? limit = some (x, s'))
    {y : Scheduled ε} (member : y ∈ s.live) : x.precedes y = true := by
  obtain ⟨top, -, -⟩ := next?_some taken
  have kept := (List.mem_filter.mp (live_prune.subset member)).1
  exact valid.ordered.prune.precedes_top top kept

/-- No event is taken only if none that is live is due within the limit. -/
theorem WellFormed.next?_none (valid : s.WellFormed) (stopped : s.next? limit = none)
    {y : Scheduled ε} (member : y ∈ s.live) : limit.any (· < y.due) = true := by
  have kept := (List.mem_filter.mp (live_prune.subset member)).1
  unfold Simulator.next? at stopped
  simp only at stopped
  split at stopped
  · next top =>
    rw [EventQueue.toList_of_top?_none top] at kept
    cases kept
  · next item top =>
    split at stopped
    · next beyond =>
      have first := valid.ordered.prune.precedes_top top kept
      cases limit with
      | none => simp at beyond
      | some limit =>
        simp only [Option.any_some, decide_eq_true_eq, Time.lt_def] at beyond ⊢
        rw [Scheduled.precedes_iff] at first
        omega
    · cases stopped

end Next

theorem WellFormed.pendingCount_eq (valid : s.WellFormed) : s.pendingCount = s.live.length := by
  have distinct : s.pending.toList.Nodup := by
    refine s.pending.distinct_toList.imp fun differs same => differs ?_
    simp [same]
  have perm : s.pending.toList.Perm (s.live.map (·.id)) := by
    apply (List.perm_ext_iff_of_nodup distinct valid.live_ids_nodup).mpr
    intro id
    rw [Std.TreeSet.mem_toList, List.mem_map]
    exact valid.isPending_iff
  rw [pendingCount, ← Std.TreeSet.length_toList, perm.length_eq, List.length_map]

end Simulator

end WirelessMesh
