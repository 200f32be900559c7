import WirelessMesh.Proofs.Simulation.Session

namespace WirelessMesh

universe u v w x

variable {ε : Type u}

namespace Note

/-- The outstanding events after a line, given those before it. -/
def apply (outstanding : List (Scheduled ε)) : Note ε → List (Scheduled ε)
  | scheduled item => item :: outstanding
  | cancelled id _ => outstanding.filter (·.id != id)
  | began item _ => outstanding.filter (·.id != item.id)
  | _ => outstanding

/-- The events that were scheduled and have neither run nor been cancelled. -/
def outstanding (past : List (Note ε)) : List (Scheduled ε) := past.foldl apply []

def scheduledId? : Note ε → Option EventId
  | scheduled item => some item.id
  | _ => none

def begunId? : Note ε → Option EventId
  | began item _ => some item.id
  | _ => none

/-- The number of events that were scheduled. -/
def schedulings (past : List (Note ε)) : Nat := (past.filterMap scheduledId?).length

/-- The events that were carried out, in order. -/
def begun (past : List (Note ε)) : List EventId := past.filterMap begunId?

/-- Whether a line agrees with the notes before it. Events get numbers in the order of scheduling;
answers are about the outstanding events; the event carried out is the first of these, by time and
then by number, and the clock shows its time. -/
def Fits (past : List (Note ε)) : Note ε → Prop
  | scheduled item => item.id = schedulings past
  | cancelled id was => was = true ↔ ∃ y ∈ outstanding past, y.id = id
  | asked id pending => pending = true ↔ ∃ y ∈ outstanding past, y.id = id
  | counted pending => pending = (outstanding past).length
  | began item time =>
    item ∈ outstanding past ∧ time = item.due ∧
      ∀ y ∈ outstanding past, item.due < y.due ∨ (item.due = y.due ∧ item.id ≤ y.id)
  | read _ => True
  | ticked _ => True

/-- Whether each line agrees with all notes before it. -/
def Faithful : List (Note ε) → List (Note ε) → Prop
  | _, [] => True
  | past, note :: rest => note.Fits past ∧ Faithful (past ++ [note]) rest

@[simp] theorem outstanding_concat (past : List (Note ε)) (note : Note ε) :
    outstanding (past ++ [note]) = note.apply (outstanding past) := by
  simp [outstanding]

@[simp] theorem schedulings_append (past more : List (Note ε)) :
    schedulings (past ++ more) = schedulings past + schedulings more := by
  simp [schedulings]

theorem faithful_append {past notes more : List (Note ε)} :
    Faithful past (notes ++ more) ↔ Faithful past notes ∧ Faithful (past ++ notes) more := by
  induction notes generalizing past with
  | nil => simp [Faithful]
  | cons note rest ih => simp [Faithful, ih, and_assoc]

/-- An event is over when it was scheduled and is not outstanding. -/
def Over (past : List (Note ε)) (id : EventId) : Prop :=
  id < schedulings past ∧ ∀ y ∈ outstanding past, y.id ≠ id

theorem Over.concat {past : List (Note ε)} {note : Note ε} {id : EventId}
    (closed : Over past id) (fits : note.Fits past) : Over (past ++ [note]) id := by
  obtain ⟨given, gone⟩ := closed
  refine ⟨by rw [schedulings_append]; exact Nat.lt_add_right _ given, fun y member => ?_⟩
  rw [outstanding_concat] at member
  cases note with
  | scheduled item =>
    rcases List.mem_cons.mp member with rfl | old
    · exact (show y.id = schedulings past from fits) ▸ (Nat.ne_of_lt given).symm
    · exact gone y old
  | cancelled | began => exact gone y (List.mem_filter.mp member).1
  | asked | counted | read | ticked => exact gone y member

theorem Over.not_begun {past notes : List (Note ε)} {id : EventId} (closed : Over past id)
    (faithful : Faithful past notes) : id ∉ begun notes := by
  induction notes generalizing past with
  | nil => simp [begun]
  | cons note rest ih =>
    have later := ih (closed.concat faithful.1) faithful.2
    cases note with
    | began item time =>
      have differs := closed.2 item faithful.1.1
      exact List.not_mem_cons_of_ne_of_not_mem differs.symm later
    | _ => exact later

def Given (past : List (Note ε)) : Prop := ∀ y ∈ outstanding past, y.id < schedulings past

theorem Given.concat {past : List (Note ε)} {note : Note ε} (given : Given past)
    (fits : note.Fits past) : Given (past ++ [note]) := by
  intro y member
  rw [outstanding_concat] at member
  rw [schedulings_append]
  cases note with
  | scheduled item =>
    rcases List.mem_cons.mp member with rfl | old
    · rw [show y.id = schedulings past from fits]
      exact Nat.lt_succ_self _
    · exact Nat.lt_add_right _ (given y old)
  | cancelled | began => exact Nat.lt_add_right _ (given y (List.mem_filter.mp member).1)
  | asked | counted | read | ticked => exact Nat.lt_add_right _ (given y member)

private theorem over_of_began {past : List (Note ε)} {item : Scheduled ε} {time : Time}
    (given : Given past) (fits : (began item time).Fits past) :
    Over (past ++ [began item time]) item.id := by
  refine ⟨?_, ?_⟩
  · rw [schedulings_append]
    exact Nat.lt_add_right _ (given item fits.1)
  · intro y member
    rw [outstanding_concat] at member
    simpa using (List.mem_filter.mp member).2

private theorem over_of_cancelled {past : List (Note ε)} {id : EventId}
    (given : Given past) (fits : (cancelled id true).Fits past) :
    Over (past ++ [cancelled id true]) id := by
  obtain ⟨y, member, rfl⟩ := fits.mp rfl
  refine ⟨?_, ?_⟩
  · rw [schedulings_append]
    exact Nat.lt_add_right _ (given y member)
  · intro z kept
    rw [outstanding_concat] at kept
    simpa using (List.mem_filter.mp kept).2

/-- No event is carried out twice. -/
theorem Faithful.begun_nodup {past notes : List (Note ε)} (given : Given past)
    (faithful : Faithful past notes) : (begun notes).Nodup := by
  induction notes generalizing past with
  | nil => simp [begun]
  | cons note rest ih =>
    have later := ih (given.concat faithful.1) faithful.2
    cases note with
    | began item time =>
      have gone := (over_of_began given faithful.1).not_begun faithful.2
      exact List.nodup_cons.mpr ⟨gone, later⟩
    | _ => exact later

/-- An event that was cancelled in time is not carried out. -/
theorem Faithful.not_begun_of_cancelled {past before after : List (Note ε)} {id : EventId}
    (given : Given past) (faithful : Faithful past (before ++ cancelled id true :: after)) :
    id ∉ begun after := by
  induction before generalizing past with
  | nil => exact (over_of_cancelled given faithful.1).not_begun faithful.2
  | cons note rest ih => exact ih (given.concat faithful.1) faithful.2

private theorem Faithful.begun_given {past notes : List (Note ε)} (given : Given past)
    (faithful : Faithful past notes) {id : EventId} (member : id ∈ begun notes) :
    id < schedulings (past ++ notes) := by
  induction notes generalizing past with
  | nil => simp [begun] at member
  | cons note rest ih =>
    have later := ih (given.concat faithful.1) faithful.2
    rw [List.append_assoc, List.singleton_append] at later
    cases note with
    | began item time =>
      have here : item.id < schedulings past := given item faithful.1.1
      rcases List.mem_cons.mp (show id ∈ item.id :: begun rest from member) with rfl | rest
      · rw [schedulings_append]
        exact Nat.lt_add_right _ here
      · exact later rest
    | _ => exact later member

/-- No more events are carried out than were scheduled. -/
theorem Faithful.begun_length_le {notes : List (Note ε)} (faithful : Faithful [] notes) :
    (begun notes).length ≤ schedulings notes := by
  have given : Given ([] : List (Note ε)) := by simp [Given, outstanding]
  have nodup := faithful.begun_nodup given
  have range : begun notes ⊆ List.range (schedulings notes) := fun id member =>
    List.mem_range.mpr (faithful.begun_given given member)
  simpa using List.Nodup.length_le_of_subset nodup range

end Note

end WirelessMesh
