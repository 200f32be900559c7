import WirelessMesh.Proofs.Simulation.Agenda
import WirelessMesh.Proofs.Simulation.Holding

/-!
What is to come, as it looks from one side: the events that can be seen from there, in the order in which
they will run, without their numbers. Whatever is done to other events leaves this outline as it is, and
whatever is done to those in it can be told from it.
-/
namespace WirelessMesh

universe u v

variable {ε : Type u} {φ : Type v}

def slip (due : Time) (what : φ) : List (Time × φ) → List (Time × φ)
  | [] => [(due, what)]
  | entry :: rest =>
    if due < entry.1 then (due, what) :: entry :: rest else entry :: slip due what rest

private theorem slip_first {due : Time} {what : φ} {entries : List (Time × φ)}
    (later : ∀ entry ∈ entries, due < entry.1) : slip due what entries = (due, what) :: entries := by
  cases entries with
  | nil => rfl
  | cons entry rest => exact if_pos (later entry List.mem_cons_self)

/-- An event as it looks when its part that can be seen is all that is known, with its time. -/
def Scheduled.glimpse (view : ε → Option φ) (x : Scheduled ε) : Option (Time × φ) :=
  (view x.event).map fun what => (x.due, what)

theorem Scheduled.glimpse_eq_some_iff {view : ε → Option φ} {x : Scheduled ε} {due : Time} {what : φ} :
    x.glimpse view = some (due, what) ↔ x.due = due ∧ view x.event = some what := by
  simp only [glimpse, Option.map_eq_some_iff, Prod.mk.injEq]
  constructor
  · rintro ⟨_, seen, same, rfl⟩
    exact ⟨same, seen⟩
  · rintro ⟨same, seen⟩
    exact ⟨what, seen, same, rfl⟩

/-- An event with a number above all others comes behind those that are due no later. -/
private theorem filterMap_place {view : ε → Option φ} {x : Scheduled ε} {what : φ}
    (seen : view x.event = some what) {events : List (Scheduled ε)}
    (sorted : events.Pairwise fun y z => y.precedes z = true) (newer : ∀ y ∈ events, y.id < x.id) :
    (Agenda.place x events).filterMap (·.glimpse view) =
      slip x.due what (events.filterMap (·.glimpse view)) := by
  have entry : x.glimpse view = some (x.due, what) := Scheduled.glimpse_eq_some_iff.mpr ⟨rfl, seen⟩
  induction events with
  | nil => simp [Agenda.place, entry, slip]
  | cons y rest ih =>
    obtain ⟨least, tail⟩ := List.pairwise_cons.mp sorted
    have head : y.id < x.id := newer y List.mem_cons_self
    have order : x.precedes y = true ↔ x.due < y.due := by
      rw [Scheduled.precedes_iff, Time.lt_def]
      exact or_iff_left fun same => Nat.not_le.mpr head same.2
    unfold Agenda.place
    split
    · next first =>
      rw [List.filterMap_cons_some entry, slip_first]
      rintro ⟨due, other⟩ member
      obtain ⟨z, listed, glimpsed⟩ := List.mem_filterMap.mp member
      obtain ⟨rfl, -⟩ := Scheduled.glimpse_eq_some_iff.mp glimpsed
      have soon := order.mp first
      rcases List.mem_cons.mp listed with rfl | later
      · exact soon
      · have after := Scheduled.precedes_iff.mp (least z later)
        simp only [Time.lt_def] at soon ⊢
        omega
    · next later =>
      have ih := ih tail fun z member => newer z (List.mem_cons_of_mem _ member)
      cases glimpsed : y.glimpse view with
      | none => rw [List.filterMap_cons_none glimpsed, List.filterMap_cons_none glimpsed, ih]
      | some other =>
        obtain ⟨due, part⟩ := other
        obtain ⟨rfl, -⟩ := Scheduled.glimpse_eq_some_iff.mp glimpsed
        rw [List.filterMap_cons_some glimpsed, List.filterMap_cons_some glimpsed, ih, slip,
          if_neg fun soon => later (order.mpr soon)]

namespace Simulator

variable {s s' : Simulator ε} {view : ε → Option φ} {x : Scheduled ε} {limit : Option Time}
  {event : ε} {what : φ} {due : Time}

def lineup (s : Simulator ε) : List (Scheduled ε) := s.live.mergeSort (·.precedes ·)

theorem lineup_perm (s : Simulator ε) : s.lineup.Perm s.live := List.mergeSort_perm ..

theorem lineup_sorted (s : Simulator ε) :
    s.lineup.Pairwise fun x y => x.precedes y = true := by
  have total (x y : Scheduled ε) : (x.precedes y || y.precedes x) = true := by
    rw [Bool.or_eq_true, or_iff_not_imp_left]
    exact Scheduled.precedes_of_not
  refine List.pairwise_mergeSort ?_ total s.live
  exact fun _ _ _ => Scheduled.precedes_trans

theorem WellFormed.lineup_nodup (valid : s.WellFormed) : s.lineup.Nodup :=
  s.lineup_perm.nodup_iff.mpr (.of_map _ valid.live_ids_nodup)

theorem WellFormed.keeps (valid : s.WellFormed) : s.Keeps ⟨s.now, s.nextId, s.lineup⟩ :=
  ⟨valid, rfl, rfl, s.lineup_sorted, s.lineup_perm⟩

theorem WellFormed.sorted_unique (valid : s.WellFormed) {xs ys : List (Scheduled ε)}
    (first : xs.Pairwise fun x y => x.precedes y = true)
    (second : ys.Pairwise fun x y => x.precedes y = true) (live : ∀ x ∈ xs, x ∈ s.live)
    (perm : xs.Perm ys) : xs = ys :=
  perm.eq_of_pairwise (fun x y here there before after =>
    valid.live_unique (live x here) (live y (perm.symm.subset there))
      (Scheduled.id_eq_of_precedes before after)) first second

theorem Keeps.lineup {a : Agenda ε} (keeps : s.Keeps a) : s.lineup = a.events :=
  keeps.valid.sorted_unique s.lineup_sorted keeps.sorted (fun _ member => s.lineup_perm.subset member)
    (s.lineup_perm.trans keeps.events.symm)

def seen (view : ε → Option φ) (s : Simulator ε) : List (Time × φ) :=
  s.lineup.filterMap (·.glimpse view)

theorem mem_seen : (due, what) ∈ s.seen view ↔
    ∃ x ∈ s.live, x.due = due ∧ view x.event = some what := by
  simp only [seen, List.mem_filterMap, Scheduled.glimpse_eq_some_iff, s.lineup_perm.mem_iff]

/-- What is done to events that cannot be seen leaves the outline as it is. -/
theorem seen_spares {guarded : ε → Prop} (valid : s.WellFormed) (spares : s.Spares guarded s')
    (guards : ∀ event, (view event).isSome = true → guarded event) : s'.seen view = s.seen view := by
  let visible (x : Scheduled ε) : Bool := (x.glimpse view).isSome
  have only (t : Simulator ε) :
      t.seen view = (t.lineup.filter visible).filterMap (·.glimpse view) := by
    rw [seen, List.filterMap_filter]
    refine List.filterMap_congr fun x _ => ?_
    split
    · rfl
    · next hidden => exact Option.not_isSome_iff_eq_none.mp hidden
  have same : ∀ x, x ∈ s'.lineup.filter visible ↔ x ∈ s.lineup.filter visible := by
    intro x
    simp only [List.mem_filter, s.lineup_perm.mem_iff, s'.lineup_perm.mem_iff]
    refine and_congr_left fun shows => spares.same valid x (guards _ ?_)
    simpa [visible, Scheduled.glimpse] using shows
  have perm : (s'.lineup.filter visible).Perm (s.lineup.filter visible) :=
    (List.perm_ext_iff_of_nodup ((spares.valid valid).lineup_nodup.filter _)
      (valid.lineup_nodup.filter _)).mpr same
  have live : ∀ x ∈ s'.lineup.filter visible, x ∈ s.live := fun x member =>
    s.lineup_perm.subset (List.mem_filter.mp ((same x).mp member)).1
  rw [only, only, valid.sorted_unique (s'.lineup_sorted.filter _) (s.lineup_sorted.filter _) live perm]

/-- An event that is scheduled comes behind those that are due no later. -/
theorem seen_schedule (valid : s.WellFormed) (due : Time) (shows : view event = some what) :
    (s.schedule due event).2.seen view = slip due what (s.seen view) := by
  have after := (valid.keeps.schedule due event).2.lineup
  rw [seen, after]
  refine filterMap_place shows s.lineup_sorted fun y member => ?_
  exact valid.live_given (s.lineup_perm.subset member)

theorem lineup_next? (valid : s.WellFormed) (taken : s.next? limit = some (x, s')) :
    s.lineup = x :: s'.lineup := by
  have valid' := valid.next? taken
  have perm : s.lineup.Perm (x :: s'.lineup) :=
    s.lineup_perm.trans ((valid.live_next? taken).trans (s'.lineup_perm.symm.cons x))
  refine valid.sorted_unique s.lineup_sorted ?_ (fun _ => (s.lineup_perm.subset ·)) perm
  refine List.pairwise_cons.mpr ⟨fun y member => ?_, s'.lineup_sorted⟩
  exact valid.next?_first taken (s.lineup_perm.subset (perm.symm.subset (List.mem_cons_of_mem _ member)))

private theorem seen_next?_some (valid : s.WellFormed) (taken : s.next? limit = some (x, s'))
    (shows : view x.event = some what) : s.seen view = (x.due, what) :: s'.seen view := by
  rw [seen, lineup_next? valid taken,
    List.filterMap_cons_some (Scheduled.glimpse_eq_some_iff.mpr ⟨rfl, shows⟩)]
  rfl

theorem seen_next?_none (valid : s.WellFormed) (taken : s.next? limit = some (x, s'))
    (hidden : view x.event = none) : s'.seen view = s.seen view := by
  rw [seen, seen, lineup_next? valid taken, List.filterMap_cons_none]
  rw [Scheduled.glimpse, hidden, Option.map_none]

variable {t t' : Simulator ε} {y : Scheduled ε}

/-- Where one simulator has nothing more to do, neither has another that has no more to come. -/
theorem next?_none_of_seen (valid : s.WellFormed) (valid' : t.WellFormed)
    (same : t.seen view = s.seen view) (visible : ∀ x ∈ s.live, (view x.event).isSome = true)
    (stopped : t.next? limit = none) : s.next? limit = none := by
  cases taken : s.next? limit with
  | none => rfl
  | some next =>
    obtain ⟨x, s'⟩ := next
    have live := valid.next?_live taken
    obtain ⟨what, shows⟩ := Option.isSome_iff_exists.mp (visible x live)
    have there : (x.due, what) ∈ t.seen view := same ▸ mem_seen.mpr ⟨x, live, rfl, shows⟩
    obtain ⟨y, present, due, -⟩ := mem_seen.mp there
    have beyond := valid'.next?_none stopped present
    rw [due, next?_within taken] at beyond
    cases beyond

/-- Where an event begins that can be seen, its counterpart begins where all can be seen. -/
theorem next?_some_of_seen (valid : s.WellFormed) (valid' : t.WellFormed)
    (same : t.seen view = s.seen view) (visible : ∀ x ∈ s.live, (view x.event).isSome = true)
    (taken : t.next? limit = some (y, t')) (shows : view y.event = some what) :
    ∃ x s', s.next? limit = some (x, s') ∧ x.due = y.due ∧ view x.event = some what ∧
      t'.seen view = s'.seen view := by
  have first := seen_next?_some valid' taken shows
  rw [same] at first
  have member : (y.due, what) ∈ s.seen view := first ▸ List.mem_cons_self
  obtain ⟨z, live, due, -⟩ := mem_seen.mp member
  cases began : s.next? limit with
  | none =>
    have beyond := valid.next?_none began live
    rw [due, next?_within taken] at beyond
    cases beyond
  | some next =>
    obtain ⟨x, s'⟩ := next
    have here := (valid.live_next? began).symm.subset List.mem_cons_self
    obtain ⟨part, looks⟩ := Option.isSome_iff_exists.mp (visible x here)
    have second := seen_next?_some valid began looks
    obtain ⟨head, tail⟩ := List.cons.inj (first.symm.trans second)
    obtain ⟨due', part'⟩ := Prod.mk.inj head
    exact ⟨x, s', rfl, due'.symm, part' ▸ looks, tail⟩

end Simulator

namespace TimerSlot

variable {slot : TimerSlot} {s : Simulator ε} {view : ε → Option φ} {event : ε} {what : φ}

/-- How an event looks from a side that can tell it from all others. -/
def Marks (view : ε → Option φ) (event : ε) (what : φ) : Prop :=
  ∀ other, view other = some what ↔ other = event

theorem Holds.isArmed_seen (holds : slot.Holds s event) (valid : s.WellFormed)
    (marks : Marks view event what) :
    slot.isArmed s = true ↔ ∃ due, (due, what) ∈ s.seen view := by
  rw [holds.isArmed_iff valid]
  constructor
  · rintro ⟨x, live, same⟩
    exact ⟨x.due, Simulator.mem_seen.mpr ⟨x, live, rfl, (marks _).mpr same⟩⟩
  · rintro ⟨due, member⟩
    obtain ⟨x, live, -, shows⟩ := Simulator.mem_seen.mp member
    exact ⟨x, live, (marks _).mp shows⟩

theorem Holds.due?_seen (holds : slot.Holds s event) (valid : s.WellFormed)
    (marks : Marks view event what) {due : Time} :
    slot.due? s = some due ↔ (due, what) ∈ s.seen view := by
  rw [due?_eq_some_iff valid, Simulator.mem_seen]
  constructor
  · rintro ⟨timer, held, x, live, same, rfl⟩
    exact ⟨x, live, rfl, (marks _).mpr ((holds.owns timer held).2 x live same)⟩
  · rintro ⟨x, live, rfl, shows⟩
    exact ⟨_, holds.alone x live ((marks _).mp shows), x, live, rfl, rfl⟩

/-- A slot gives up its event, which is struck from the outline. -/
theorem Holds.seen_disarm [DecidableEq φ] (holds : slot.Holds s event) (valid : s.WellFormed)
    (marks : Marks view event what) :
    (slot.disarm s).seen view = (s.seen view).filter (·.2 ≠ what) := by
  have after : (slot.disarm s).lineup = s.lineup.filter fun x => (x.glimpse view).all (·.2 ≠ what) := by
    refine (disarm_wellFormed valid).sorted_unique (Simulator.lineup_sorted _)
      (s.lineup_sorted.filter _) (fun x => ((slot.disarm s).lineup_perm.subset ·)) ?_
    refine (List.perm_ext_iff_of_nodup (disarm_wellFormed valid).lineup_nodup
      (valid.lineup_nodup.filter _)).mpr fun x => ?_
    have other : (x.glimpse view).all (·.2 ≠ what) = true ↔ x.event ≠ event := by
      rw [← not_iff_not, not_not, ← marks]
      cases shows : view x.event <;> simp [Scheduled.glimpse, shows]
    rw [List.mem_filter, (slot.disarm s).lineup_perm.mem_iff, s.lineup_perm.mem_iff, live_disarm, other]
    refine and_congr_right fun live => ?_
    constructor
    · intro apart mine
      exact apart _ (holds.alone x live mine) rfl
    · intro foreign timer held same
      exact foreign ((holds.owns timer held).2 x live same)
  rw [Simulator.seen, Simulator.seen, after, List.filterMap_filter, List.filter_filterMap]
  refine List.filterMap_congr fun x _ => ?_
  cases x.glimpse view with
  | none => rfl
  | some entry => simp [Option.filter]

theorem Holds.seen_rearm [DecidableEq φ] (holds : slot.Holds s event) (valid : s.WellFormed)
    (marks : Marks view event what) (delay : Time) :
    (slot.rearm s delay event).2.seen view =
      slip (s.now + delay) what ((s.seen view).filter (·.2 ≠ what)) := by
  have now : (slot.disarm s).now = s.now := now_disarm
  rw [← now, ← holds.seen_disarm valid marks]
  exact Simulator.seen_schedule (disarm_wellFormed valid) _ ((marks event).mpr rfl)

end TimerSlot

end WirelessMesh
