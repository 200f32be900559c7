import WirelessMesh.Proofs.Air.Arrivals

/-!
A link as a line on which frames stand in turn. Main statement: frames occupy a link one after another,
each for its length over the bandwidth, and those that are not lost are handed over once each, in the
order in which they were sent.
-/
namespace WirelessMesh

/-- A frame that was put on a link: when, and the number of the event by which it arrives, unless it is
lost. -/
structure Transit where
  frame : Frame
  putAt : Time
  event? : Option EventId

/-- The time over which a frame occupies a link. -/
structure Occupancy where
  start : Time
  depart : Time

/-- An event that has begun, with the clock at that moment. -/
structure Begun where
  clock : Time
  item : Scheduled MeshEvent

namespace Link

/-- What a frame occupies of a link that is free from some time on. It starts when it is put there and
the link is free, and leaves after eight bits a byte at the bandwidth, in nanoseconds rounded up. -/
def occupancy (link : Link) (free : Time) (t : Transit) : Occupancy :=
  let start := max t.putAt free
  ⟨start, start + .ofNanos ((8 * t.frame.size * 1_000_000_000) ⌈/⌉ link.bandwidth)⟩

/-- What frames occupy of a link, one after another. -/
def timetable (link : Link) : Time → List Transit → List (Transit × Occupancy)
  | _, [] => []
  | free, t :: rest =>
    (t, link.occupancy free t) :: timetable link (link.occupancy free t).depart rest

/-- When the last one of some frames has left. -/
def freeAfter (link : Link) (free : Time) (transits : List Transit) : Time :=
  transits.foldl (fun free t => (link.occupancy free t).depart) free

/-- The arrival of a frame that is not lost, when the latency has passed since it left. -/
def arrival? (link : Link) (entry : Transit × Occupancy) : Option (Scheduled MeshEvent) :=
  entry.1.event?.map fun id =>
    ⟨entry.2.depart + link.latency, id, .arrival link.target entry.1.frame⟩

/-- The arrivals of the frames that were put on a link, in their order. -/
def arrivals (link : Link) (transits : List Transit) : List (Scheduled MeshEvent) :=
  (link.timetable link.busyUntil transits).filterMap link.arrival?

variable {link : Link} {free : Time} {t : Transit} {transits : List Transit}

theorem le_start (link : Link) (free : Time) (t : Transit) :
    free ≤ (link.occupancy free t).start := by
  simp only [occupancy, Time.le_def, Time.ns_max]
  omega

private theorem start_le_depart : (link.occupancy free t).start ≤ (link.occupancy free t).depart :=
  Time.le_add_right _ _

theorem le_depart (link : Link) (free : Time) (t : Transit) :
    free ≤ (link.occupancy free t).depart :=
  Nat.le_trans (link.le_start free t) start_le_depart

private theorem le_timetable : ∀ {free : Time}, ∀ entry ∈ link.timetable free transits,
    free ≤ entry.2.start := by
  induction transits with
  | nil => simp [timetable]
  | cons t rest ih =>
    intro free entry member
    rcases List.mem_cons.mp member with rfl | later
    · exact le_start ..
    · exact Nat.le_trans (le_depart ..) (ih entry later)

private theorem timetable_apart : ∀ {free : Time},
    (link.timetable free transits).Pairwise fun a b => a.2.depart ≤ b.2.start := by
  induction transits with
  | nil => simp [timetable]
  | cons t rest ih =>
    intro free
    exact List.pairwise_cons.mpr ⟨fun entry member => le_timetable entry member, ih⟩

private theorem timetable_concat : ∀ {free : Time}, link.timetable free (transits ++ [t]) =
    link.timetable free transits ++ [(t, link.occupancy (link.freeAfter free transits) t)] := by
  induction transits with
  | nil => intro free; rfl
  | cons head rest ih =>
    intro free
    simp only [List.cons_append, timetable, ih]
    rfl

private theorem freeAfter_concat : link.freeAfter free (transits ++ [t]) =
    (link.occupancy (link.freeAfter free transits) t).depart := by
  simp [freeAfter]

private theorem arrivals_concat : link.arrivals (transits ++ [t]) = link.arrivals transits ++
    (link.arrival? (t, link.occupancy (link.freeAfter link.busyUntil transits) t)).toList := by
  rw [arrivals, timetable_concat, List.filterMap_append]
  refine congrArg (link.arrivals transits ++ ·) ?_
  cases arrival : link.arrival? (t, link.occupancy (link.freeAfter link.busyUntil transits) t) <;>
    simp [arrival]

/-- The time of a transmission is the length in bits over the bandwidth, rounded up. -/
theorem transmissionTime_eq (link : Link) {bytes : Nat} (positive : 0 < link.bandwidth)
    (short : bytes < 2 ^ 32) :
    link.transmissionTime (UInt32.ofNat bytes) =
      .ofNanos ((8 * bytes * 1_000_000_000) ⌈/⌉ link.bandwidth) := by
  have whole : (UInt32.ofNat bytes).toNat = bytes := UInt32.toNat_ofNat_of_lt short
  rw [transmissionTime, if_neg (Nat.ne_of_gt positive), whole, Nat.ceilDiv_eq_add_pred_div,
    Nat.add_sub_assoc positive, Nat.mul_comm bytes 8]

end Link

/-- Whatever happens elsewhere: the link stays as it is, and arrivals stay to come. -/
structure Aside (id : LinkId) (air air' : Air Network) : Prop where
  link : air'.medium.links[id]? = air.medium.links[id]?
  retains : air.sim.Retains MeshEvent.IsArrival air'.sim

/-- The transit that a frame makes when it is put on a link. -/
def Network.transit (link : Link) (frame : Frame) (air : Air Network) : Transit :=
  ⟨frame, air.now, if link.drops frame.id then none else some air.sim.nextId⟩

/-- A link in use, beside the frames that were put on it and the events that have begun since. Other
things happen in between; they change neither the link nor what is to arrive. -/
inductive Line (id : LinkId) (link : Link) : Air Network → List Transit → List Begun → Prop
  | opened {air : Air Network} (valid : air.sim.WellFormed)
      (present : air.medium.links[id]? = some link) : Line id link air [] []
  | put {air : Air Network} {transits : List Transit} {begun : List Begun} (frame : Frame)
      (line : Line id link air transits begun) :
      Line id link (Network.transmit id frame air)
        (transits ++ [Network.transit link frame air]) begun
  | elsewhere {air air' : Air Network} {transits : List Transit} {begun : List Begun}
      (line : Line id link air transits begun) (aside : Aside id air air') :
      Line id link air' transits begun
  | began {air : Air Network} {transits : List Transit} {begun : List Begun}
      {limit : Option Time} {item : Scheduled MeshEvent} {sim : Simulator MeshEvent}
      (line : Line id link air transits begun) (taken : air.sim.next? limit = some (item, sim)) :
      Line id link { air with sim } transits (begun ++ [⟨sim.now, item⟩])

structure Link.Serves (id : LinkId) (link : Link) (air : Air Network) (transits : List Transit)
    (begun : List Begun) : Prop where
  valid : air.sim.WellFormed
  free : air.medium.links[id]? =
    some { link with busyUntil := link.freeAfter link.busyUntil transits }
  lost : ∀ t ∈ transits, t.event? = none ↔ link.drops t.frame.id = true
  ordered : (link.arrivals transits).Pairwise fun x y => x.due ≤ y.due ∧ x.id < y.id
  bounded : ∀ x ∈ link.arrivals transits,
    x.due ≤ link.freeAfter link.busyUntil transits + link.latency ∧ x.id < air.sim.nextId
  given : ∀ b ∈ begun, b.item.id < air.sim.nextId
  handed : ∃ handed inFlight, link.arrivals transits = handed ++ inFlight ∧
    begun.filter (fun b => b.item.id ∈ (link.arrivals transits).map (·.id)) =
      handed.map (fun x => ⟨x.due, x⟩) ∧
    (∀ x ∈ handed, ∀ y ∈ air.sim.live, y.id ≠ x.id) ∧ ∀ x ∈ inFlight, x ∈ air.sim.live

private theorem Link.arrival?_some {link : Link} {frame : Frame} {air : Air Network} {t : Transit}
    {span : Occupancy} {x : Scheduled MeshEvent} (placed : Network.transit link frame air = t)
    (arrives : link.arrival? (t, span) = some x) :
    x.due = span.depart + link.latency ∧ x.id = air.sim.nextId := by
  obtain ⟨number, carried, rfl⟩ := Option.map_eq_some_iff.mp arrives
  subst placed
  refine ⟨rfl, ?_⟩
  simp only [Network.transit] at carried
  split at carried
  · cases carried
  · exact (Option.some.inj carried).symm

namespace Network

variable {id : LinkId} {link : Link} {air : Air Network} {free : Time}

theorem transmit_link (present : air.medium.links[id]? = some link) (frame : Frame) :
    (transmit id frame air).medium.links[id]? = some { link with
      busyUntil := link.departure air.now (UInt32.ofNat frame.size) } := by
  have within := (Array.getElem?_eq_some_iff.mp present).1
  rw [transmit, present]
  cases drops : link.drops frame.id with
  | true => simp only [drops, if_true, count, Array.getElem?_setIfInBounds_self_of_lt within]
  | false =>
    simp only [drops, Bool.false_eq_true, if_false, Array.getElem?_setIfInBounds_self_of_lt within]

theorem transmit_links_of_ne {other : LinkId} (apart : id ≠ other) (frame : Frame) :
    (transmit id frame air).medium.links[other]? = air.medium.links[other]? := by
  cases present : air.medium.links[id]? with
  | none => rw [transmit, present]
  | some link =>
    rw [transmit, present]
    cases drops : link.drops frame.id with
    | true => simp only [drops, if_true, count, Array.getElem?_setIfInBounds_ne apart]
    | false =>
      simp only [drops, Bool.false_eq_true, if_false, Array.getElem?_setIfInBounds_ne apart]

theorem transmit_sim (present : air.medium.links[id]? = some link) (frame : Frame) :
    (transmit id frame air).sim =
      if link.drops frame.id then air.sim
      else (air.sim.schedule (link.departure air.now (UInt32.ofNat frame.size) + link.latency)
        (.arrival link.target frame)).2 := by
  rw [transmit, present]
  cases drops : link.drops frame.id with
  | true => simp only [drops, if_true]
  | false => simp only [drops, Bool.false_eq_true, if_false]

/-- A frame that is put on a link occupies it next, and is to arrive unless it is lost. -/
private theorem transmit_occupies
    (present : air.medium.links[id]? = some { link with busyUntil := free })
    (positive : 0 < link.bandwidth) {frame : Frame} (short : frame.size < 2 ^ 32) {t : Transit}
    (placed : transit link frame air = t) :
    (transmit id frame air).medium.links[id]? =
        some { link with busyUntil := (link.occupancy free t).depart } ∧
      (transmit id frame air).sim =
        match link.arrival? (t, link.occupancy free t) with
        | none => air.sim
        | some x => (air.sim.schedule x.due x.event).2 := by
  have leaves : { link with busyUntil := free }.departure air.now (UInt32.ofNat frame.size) =
      (link.occupancy free t).depart := by
    subst placed
    exact congrArg (max air.now free + ·) (link.transmissionTime_eq positive short)
  have drops : { link with busyUntil := free }.drops frame.id = link.drops frame.id := rfl
  rw [transmit_link present, transmit_sim present, leaves, drops]
  refine ⟨rfl, ?_⟩
  subst placed
  cases lost : link.drops frame.id <;> simp [transit, Link.arrival?, lost]

end Network

namespace Link.Serves

variable {id : LinkId} {link : Link} {air air' : Air Network} {transits : List Transit}
  {begun : List Begun}

theorem opened (valid : air.sim.WellFormed) (present : air.medium.links[id]? = some link) :
    link.Serves id air [] [] where
  valid := valid
  free := present
  lost := nofun
  ordered := .nil
  bounded := nofun
  given := nofun
  handed := ⟨[], [], rfl, rfl, nofun, nofun⟩

theorem elsewhere (serves : link.Serves id air transits begun) (aside : Aside id air air') :
    link.Serves id air' transits begun where
  valid := aside.retains.valid serves.valid
  free := aside.link.trans serves.free
  lost := serves.lost
  ordered := serves.ordered
  bounded x member :=
    ⟨(serves.bounded x member).1, Nat.lt_of_lt_of_le (serves.bounded x member).2 aside.retains.nextId⟩
  given b member := Nat.lt_of_lt_of_le (serves.given b member) aside.retains.nextId
  handed := by
    obtain ⟨handed, inFlight, whole, done, gone, waiting⟩ := serves.handed
    refine ⟨handed, inFlight, whole, done, fun x member y live same => ?_, fun x member => ?_⟩
    · have old := (serves.bounded x (whole ▸ List.mem_append_left _ member)).2
      exact gone x member y (aside.retains.old serves.valid y live (same ▸ old)) same
    · obtain ⟨entry, -, arrives⟩ :=
        List.mem_filterMap.mp (whole ▸ List.mem_append_right handed member)
      obtain ⟨_, -, rfl⟩ := Option.map_eq_some_iff.mp arrives
      exact aside.retains.kept serves.valid _ (waiting _ member) trivial

/-- An event that begins and is an arrival of the link is the first one of those to come. -/
private theorem first_inFlight (serves : link.Serves id air transits begun) {limit : Option Time}
    {item : Scheduled MeshEvent} {sim : Simulator MeshEvent}
    {handed inFlight : List (Scheduled MeshEvent)}
    (taken : air.sim.next? limit = some (item, sim))
    (whole : link.arrivals transits = handed ++ inFlight)
    (gone : ∀ x ∈ handed, ∀ y ∈ air.sim.live, y.id ≠ x.id)
    (waiting : ∀ x ∈ inFlight, x ∈ air.sim.live)
    (mine : item.id ∈ (link.arrivals transits).map (·.id)) :
    ∃ rest, inFlight = item :: rest ∧ ∀ y ∈ rest, item.id < y.id := by
  have live : item ∈ air.sim.live := serves.valid.next?_live taken
  obtain ⟨x, member, same⟩ := List.mem_map.mp mine
  have ahead : x ∈ inFlight :=
    (List.mem_append.mp (whole ▸ member)).resolve_left fun past => gone x past item live same.symm
  obtain rfl : x = item := serves.valid.live_unique (waiting x ahead) live same
  have ordered := serves.ordered
  rw [whole] at ordered
  cases inFlight with
  | nil => cases ahead
  | cons first rest =>
    have later := (List.pairwise_cons.mp (List.pairwise_append.mp ordered).2.1).1
    -- The event taken precedes all that are live, so no other of the link comes before it.
    obtain rfl : x = first := by
      rcases List.mem_cons.mp ahead with here | behind
      · exact here
      · obtain ⟨due, number⟩ := later x behind
        exact absurd (serves.valid.next?_first taken (waiting first List.mem_cons_self))
          (Scheduled.not_precedes due number)
    exact ⟨rest, rfl, fun y behind => (later y behind).2⟩

/-- An event begins. If it is an arrival of the link, this one has been handed over then. -/
theorem began (serves : link.Serves id air transits begun) {limit : Option Time}
    {item : Scheduled MeshEvent} {sim : Simulator MeshEvent}
    (taken : air.sim.next? limit = some (item, sim)) :
    link.Serves id { air with sim } transits (begun ++ [⟨sim.now, item⟩]) where
  valid := serves.valid.next? taken
  free := serves.free
  lost := serves.lost
  ordered := serves.ordered
  bounded := by
    rw [Simulator.next?_nextId taken]
    exact serves.bounded
  given b member := by
    rw [Simulator.next?_nextId taken]
    rcases List.mem_append.mp member with before | here
    · exact serves.given b before
    · rw [List.mem_singleton.mp here]
      exact serves.valid.live_given (serves.valid.next?_live taken)
  handed := by
    obtain ⟨handed, inFlight, whole, done, gone, waiting⟩ := serves.handed
    rw [List.filter_append, done]
    by_cases mine : item.id ∈ (link.arrivals transits).map (·.id)
    · obtain ⟨rest, rfl, later⟩ := serves.first_inFlight taken whole gone waiting mine
      refine ⟨handed ++ [item], rest, by rw [whole, List.append_cons], ?_, ?_, ?_⟩
      · rw [List.filter_cons_of_pos (by simpa using mine), Simulator.next?_now taken]
        simp
      · intro y past z there same
        obtain ⟨before, other⟩ := (serves.valid.mem_next? taken).mp there
        rcases List.mem_append.mp past with earlier | now
        · exact gone y earlier z before same
        · exact other (same.trans (congrArg _ (List.mem_singleton.mp now)))
      · intro y behind
        refine (serves.valid.mem_next? taken).mpr ⟨waiting y (List.mem_cons_of_mem _ behind), ?_⟩
        exact Nat.ne_of_gt (later y behind)
    · refine ⟨handed, inFlight, whole, ?_, fun x past y there => ?_, fun x ahead => ?_⟩
      · rw [List.filter_cons_of_neg (by simpa using mine)]
        exact List.append_nil _
      · exact gone x past y ((serves.valid.mem_next? taken).mp there).1
      · refine (serves.valid.mem_next? taken).mpr ⟨waiting x ahead, fun same => mine ?_⟩
        exact List.mem_map.mpr ⟨x, whole ▸ List.mem_append_right _ ahead, same⟩

private theorem handed_schedule (serves : link.Serves id air transits begun) {x : Scheduled MeshEvent}
    {later : List Transit} {sim : Simulator MeshEvent} (number : x.id = air.sim.nextId)
    (more : link.arrivals later = link.arrivals transits ++ [x])
    (live : sim.live.Perm (x :: air.sim.live)) :
    ∃ handed inFlight, link.arrivals later = handed ++ inFlight ∧
      begun.filter (fun b => b.item.id ∈ (link.arrivals later).map (·.id)) =
        handed.map (fun x => ⟨x.due, x⟩) ∧
      (∀ x ∈ handed, ∀ y ∈ sim.live, y.id ≠ x.id) ∧ ∀ x ∈ inFlight, x ∈ sim.live := by
  obtain ⟨handed, inFlight, whole, done, gone, waiting⟩ := serves.handed
  refine ⟨handed, inFlight ++ [x], by rw [more, whole, List.append_assoc], ?_, ?_, ?_⟩
  · rw [← done, more]
    refine List.filter_congr fun b member => ?_
    have other : b.item.id ≠ x.id := number ▸ Nat.ne_of_lt (serves.given b member)
    simp [other]
  · intro y past z there same
    rcases List.mem_cons.mp (live.subset there) with rfl | before
    · have given := (serves.bounded y (whole ▸ List.mem_append_left _ past)).2
      exact Nat.ne_of_gt given (number ▸ same)
    · exact gone y past z before same
  · intro y ahead
    apply live.symm.subset
    rcases List.mem_append.mp ahead with before | here
    · exact List.mem_cons_of_mem _ (waiting y before)
    · exact List.mem_singleton.mp here ▸ List.mem_cons_self

/-- A frame that is put on the link leaves after all others and arrives after them. -/
private theorem transmit_appended (serves : link.Serves id air transits begun) (positive : 0 < link.bandwidth)
    {frame : Frame} (short : frame.size < 2 ^ 32) :
    link.Serves id (Network.transmit id frame air) (transits ++ [Network.transit link frame air])
      begun := by
  generalize placed : Network.transit link frame air = t
  obtain ⟨free, sim⟩ := Network.transmit_occupies serves.free positive short placed
  have lost : ∀ t' ∈ transits ++ [t], t'.event? = none ↔ link.drops t'.frame.id = true := by
    intro t' member
    rcases List.mem_append.mp member with before | here
    · exact serves.lost t' before
    · rw [List.mem_singleton.mp here, ← placed]
      simp [Network.transit]
  have later : ∀ x ∈ link.arrivals transits,
      x.due ≤ (link.occupancy (link.freeAfter link.busyUntil transits) t).depart + link.latency := by
    intro x member
    have before := (serves.bounded x member).1
    have leaves := link.le_depart (link.freeAfter link.busyUntil transits) t
    rw [Time.le_def, Time.ns_add] at before ⊢
    rw [Time.le_def] at leaves
    omega
  cases arrival :
      link.arrival? (t, link.occupancy (link.freeAfter link.busyUntil transits) t) with
  | none =>
    rw [arrival] at sim
    have same : link.arrivals (transits ++ [t]) = link.arrivals transits := by
      rw [Link.arrivals_concat, arrival, Option.toList_none, List.append_nil]
    refine ⟨sim ▸ serves.valid, by rw [free, Link.freeAfter_concat], lost, same ▸ serves.ordered, ?_,
      sim ▸ serves.given, by rw [same, sim]; exact serves.handed⟩
    rw [same, sim, Link.freeAfter_concat]
    exact fun x member => ⟨later x member, (serves.bounded x member).2⟩
  | some x =>
    rw [arrival] at sim
    have more : link.arrivals (transits ++ [t]) = link.arrivals transits ++ [x] := by
      rw [Link.arrivals_concat, arrival, Option.toList_some]
    obtain ⟨due, number⟩ := Link.arrival?_some placed arrival
    have live : (Network.transmit id frame air).sim.live.Perm (x :: air.sim.live) := by
      rw [sim, show x = ⟨x.due, air.sim.nextId, x.event⟩ by rw [← number]]
      exact serves.valid.live_schedule x.due x.event
    have nextId : (Network.transmit id frame air).sim.nextId = air.sim.nextId + 1 := by
      rw [sim]
      rfl
    refine ⟨sim ▸ serves.valid.schedule _ _, by rw [free, Link.freeAfter_concat], lost, ?_, ?_,
      fun b member => nextId ▸ Nat.lt_succ_of_lt (serves.given b member),
      serves.handed_schedule number more live⟩
    · rw [more, List.pairwise_append]
      refine ⟨serves.ordered, List.pairwise_singleton _ _, fun y member z here => ?_⟩
      rw [List.mem_singleton.mp here, due, number]
      exact ⟨later y member, (serves.bounded y member).2⟩
    · rw [more, nextId, Link.freeAfter_concat]
      intro y member
      rcases List.mem_append.mp member with before | here
      · exact ⟨later y before, Nat.lt_succ_of_lt (serves.bounded y before).2⟩
      · rw [List.mem_singleton.mp here, due, number]
        exact ⟨Nat.le_refl _, Nat.lt_succ_self _⟩

end Link.Serves

/-- Whatever happens to a link and around it, it serves the frames that are put on it. -/
theorem Line.serves {id : LinkId} {link : Link} {air : Air Network} {transits : List Transit}
    {begun : List Begun} (line : Line id link air transits begun) (positive : 0 < link.bandwidth)
    (short : ∀ t ∈ transits, t.frame.size < 2 ^ 32) : link.Serves id air transits begun := by
  induction line with
  | opened valid present => exact .opened valid present
  | @put air transits begun frame line ih =>
    have before := ih fun t member => short t (List.mem_append_left _ member)
    exact before.transmit_appended positive (short (Network.transit link frame air) (by simp))
  | elsewhere line aside ih => exact (ih short).elsewhere aside
  | began line taken ih => exact (ih short).began taken

/-- Frames occupy a link of positive bandwidth one after another, lost or not: each starts when it is
put there and the one before has left, and leaves after its length over the bandwidth. Those that are
not lost arrive when the latency has passed since: the ones handed over so far are the first of them,
each once, in the order in which they were sent and at their times; the others are still to come, none
of them within a time up to which nothing is. -/
theorem Line.first_in_first_out {id : LinkId} {link : Link} {air : Air Network}
    {transits : List Transit} {begun : List Begun} (line : Line id link air transits begun)
    (positive : 0 < link.bandwidth) (short : ∀ t ∈ transits, t.frame.size < 2 ^ 32) :
    air.medium.links[id]? =
        some { link with busyUntil := link.freeAfter link.busyUntil transits } ∧
      (link.timetable link.busyUntil transits).Pairwise (fun a b => a.2.depart ≤ b.2.start) ∧
      (∀ t ∈ transits, t.event? = none ↔ link.drops t.frame.id = true) ∧
      (link.arrivals transits).Pairwise (fun x y => x.due ≤ y.due ∧ x.id < y.id) ∧
      ∃ handed inFlight, link.arrivals transits = handed ++ inFlight ∧
        begun.filter (fun b => b.item.id ∈ (link.arrivals transits).map (·.id)) =
          handed.map (fun x => ⟨x.due, x⟩) ∧
        (∀ x ∈ inFlight, x ∈ air.sim.live) ∧
        ∀ limit, air.sim.next? (some limit) = none → ∀ x ∈ inFlight, limit < x.due := by
  have serves := line.serves positive short
  obtain ⟨handed, inFlight, whole, done, -, waiting⟩ := serves.handed
  refine ⟨serves.free, Link.timetable_apart, serves.lost, serves.ordered, handed, inFlight, whole,
    done, waiting, fun limit idle x ahead => ?_⟩
  exact of_decide_eq_true (serves.valid.next?_none idle (waiting x ahead))

def Link.lossy : Link := { Link.create 0 1 (.ofMillis 1) 1_000_000 with lossPercent := 50 }

def Frame.blank (id : UInt64) : Frame := ⟨id, .ofIndex 1, .ofIndex 0, 0, []⟩

def Network.threeSent : Air Network :=
  [Frame.blank 0, .blank 1, .blank 2].foldl (fun air frame => transmit 0 frame air)
    ⟨.empty, { Network.empty with links := #[Link.lossy] }⟩

/-- Of three frames the second one is lost. The others arrive with the time of two between them, since
the lost one takes its turn as well. -/
theorem Line.lost_frame_takes_turn : ∃ air transits begun, Line 0 Link.lossy air transits begun ∧
    transits.map (fun t => (t.frame.id, t.event?)) = [(0, some 0), (1, none), (2, some 1)] ∧
    begun.map (·.clock) = [.ofNanos 1_112_000, .ofNanos 1_336_000] ∧
    air.medium.links[0]? = some { Link.lossy with busyUntil := .ofNanos 336_000 } := by
  have opened : Line 0 Link.lossy ⟨.empty, { Network.empty with links := #[Link.lossy] }⟩ [] [] :=
    .opened Simulator.empty_wellFormed rfl
  have sent := ((opened.put (.blank 0)).put (.blank 1)).put (.blank 2)
  obtain ⟨sim, first⟩ : ∃ sim, Network.threeSent.sim.next? none =
      some (⟨.ofNanos 1_112_000, 0, MeshEvent.arrival 1 (.blank 0)⟩, sim) := ⟨_, rfl⟩
  obtain ⟨sim', second, clock, clock'⟩ : ∃ sim', sim.next? none =
      some (⟨.ofNanos 1_336_000, 1, MeshEvent.arrival 1 (.blank 2)⟩, sim') ∧
      sim.now = .ofNanos 1_112_000 ∧ sim'.now = .ofNanos 1_336_000 := by
    obtain rfl : _ = sim := congrArg Prod.snd (Option.some.inj first)
    exact ⟨_, rfl, rfl, rfl⟩
  have handed := (sent.began first).began second
  have positive : 0 < Link.lossy.bandwidth := by decide
  obtain ⟨free, -⟩ := handed.first_in_first_out positive (by decide)
  refine ⟨_, _, _, handed, rfl, by simp [clock, clock'], free.trans ?_⟩
  decide

end WirelessMesh
