import WirelessMesh.Proofs.Route.Accounts
import WirelessMesh.Proofs.Route.Chronicle
import WirelessMesh.Proofs.Route.Freshness

namespace WirelessMesh

namespace RouteTable

variable {t t' : RouteTable} {sim sim' : Simulator MeshEvent} {ip : IPv4} {r : RouteRow}
  {why : RouteReason}

/-- A row for a destination makes an old row of the one that is there. -/
def Retires (t : RouteTable) (r : RouteRow) : Prop :=
  t.config.useOldRoute = true ∧ ∃ cur, t.row? r.ip = some cur ∧ cur.seq < r.seq

/-- Why a row is not written. -/
inductive Rejects (t : RouteTable) (r : RouteRow) : Prop
  | unfit {violation : RouteViolation} (failed : r.check = .error violation)
  | unwelcome (ignored : t.config.ignoreInvalidRoutes = true) (bad : r.metric = .bad)
  | overtaken {old : RouteRow} (kept : t.old? r.ip = some old) (stays : ¬ t.Retires r)
      (later : ¬ old.seq < r.seq)

/-- What becomes of a table and its events when a row is written, and what does not. -/
structure Inserted (t : RouteTable) (sim : Simulator MeshEvent) (r : RouteRow) (why : RouteReason)
    (t' : RouteTable) (sim' : Simulator MeshEvent) : Prop where
  kept : t.Kept t'
  trigger : t'.triggerTimer = t.triggerTimer
  now : sim'.now = sim.now
  row : t'.row? r.ip = some r
  retired : t.Retires r → t'.old? r.ip = t.row? r.ip
  stayed : ¬ t.Retires r → t'.old? r.ip = t.old? r.ip
  /-- One event is to end the row if it is usable, and else none. -/
  pending : sim'.dueTimes (expiryEvent t.node r.ip) =
    if r.isGood then [sim.now + min r.ttl t.config.timeout] else []
  cancelled : ∀ x ∈ sim.live, x.event = expiryEvent t.node r.ip → x ∉ sim'.live
  log : t'.log = t.log.map (·.write sim.now (.addedRoute (.ofRow r) why))
  /-- What is known of other destinations: their rows, old rows and timers. -/
  routes : ∀ d, d ≠ r.ip → t'.routes.get? d = t.routes.get? d
  others : ∀ x, x.event ≠ expiryEvent t.node r.ip → (x ∈ sim'.live ↔ x ∈ sim.live)
  passes : t'.check sim' = .ok ()

theorem kept_of_retires (retires : t.Retires r) :
    (Predecessor.ofRoute (t.routes.get? r.ip)).kept t.config.useOldRoute r.seq = t.row? r.ip := by
  obtain ⟨uses, cur, present, newer⟩ := retires
  obtain ⟨route, found, rfl⟩ := Option.map_eq_some_iff.mp present
  rw [row?, found, kept_ofRoute, if_pos ⟨uses, newer⟩]
  rfl

theorem kept_of_not_retires (stays : ¬ t.Retires r) :
    (Predecessor.ofRoute (t.routes.get? r.ip)).kept t.config.useOldRoute r.seq = t.old? r.ip := by
  unfold old?
  cases found : t.routes.get? r.ip with
  | none => rfl
  | some route =>
    rw [kept_ofRoute, if_neg]
    · rfl
    · rintro ⟨uses, newer⟩
      refine stays ⟨uses, route.row, ?_, newer⟩
      rw [row?, found]
      rfl

/-- The old row that stays or comes to stand beside a row is older. -/
def Succeeds (t : RouteTable) (r : RouteRow) : Prop :=
  ∀ old, (Predecessor.ofRoute (t.routes.get? r.ip)).kept t.config.useOldRoute r.seq = some old →
    old.seq < r.seq

theorem succeeds_iff :
    t.Succeeds r ↔ (¬ t.Retires r → ∀ old, t.old? r.ip = some old → old.seq < r.seq) := by
  unfold Succeeds
  by_cases retires : t.Retires r
  · rw [kept_of_retires retires]
    refine ⟨fun _ stays => absurd retires stays, fun _ old kept => ?_⟩
    obtain ⟨-, cur, present, newer⟩ := retires
    rw [present] at kept
    cases kept
    exact newer
  · rw [kept_of_not_retires retires]
    exact ⟨fun newer _ => newer, fun newer => newer retires⟩

theorem not_rejects_iff : ¬ t.Rejects r ↔ r.check = .ok () ∧
    (t.config.ignoreInvalidRoutes && !r.metric.isGood) = false ∧ t.Succeeds r := by
  rw [succeeds_iff]
  constructor
  · intro welcome
    refine ⟨?_, ?_, ?_⟩
    · cases checked : r.check with
      | error violation => exact absurd (.unfit checked) welcome
      | ok _ => rfl
    · cases ignored : t.config.ignoreInvalidRoutes with
      | false => rfl
      | true =>
        cases metric : r.metric with
        | bad => exact absurd (.unwelcome ignored metric) welcome
        | good cost => rfl
    · intro stays old kept
      by_contra later
      exact welcome (.overtaken kept stays later)
  · rintro ⟨checked, kept, newer⟩ rejects
    cases rejects with
    | unfit failed =>
      rw [checked] at failed
      cases failed
    | unwelcome ignored bad =>
      rw [ignored, bad] at kept
      cases kept
    | overtaken old stays later => exact later (newer stays _ old)

namespace Accounted

theorem changes_install (accounted : t.Accounted sim) (r : RouteRow) :
    sim.Changes (· = expiryEvent t.node r.ip)
      (t.placedSim (.ofRoute (t.routes.get? r.ip)) r sim) :=
  changes_placedSim (accounted.expiry r.ip).owns (expiry_ofRoute r.ip)

private theorem isArmed_placed (accounted : t.Accounted sim) (good : r.isGood = true) :
    (t.placedExpiry r sim).isArmed (t.placedSim (.ofRoute (t.routes.get? r.ip)) r sim) = true := by
  have live := live_placedSim (t := t) (r := r) accounted.valid (expiry_ofRoute r.ip)
  have valid := (accounted.changes_install r).valid accounted.valid
  rw [placedExpiry, if_pos good]
  exact valid.isPending_iff.mpr ⟨_, (live _).mpr (.inl ⟨good, rfl⟩), rfl⟩

/-- A table that has passed the check does so with the new row if the row is sound and newer than the
old one beside it. -/
theorem check_install (accounted : t.Accounted sim) (passes : t.check sim = .ok ())
    (row : r.check = .ok ()) (why : RouteReason) :
    (t.install r why sim).1.check (t.install r why sim).2 = .ok () ↔ t.Succeeds r := by
  have rewrites := install_rewrites t r why sim
  rw [check_eq_ok_iff, install_sim]
  constructor
  · intro each old kept
    obtain ⟨-, older⟩ := each r.ip _ rewrites.get?_self
    exact Route.checkOld_eq_ok_iff.mp older old kept
  · intro newer d route present
    rw [rewrites.get?] at present
    split at present
    · cases present
      refine ⟨Route.check_eq_ok_iff.mpr ⟨row, accounted.isArmed_placed, ?_⟩,
        Route.checkOld_eq_ok_iff.mpr newer⟩
      intro bad
      exact if_neg (Bool.eq_false_iff.mp bad)
    · next other =>
      obtain ⟨checked, older⟩ := check_eq_ok_iff.mp passes d route present
      obtain ⟨sound, armed, idle⟩ := Route.check_eq_ok_iff.mp checked
      refine ⟨Route.check_eq_ok_iff.mpr ⟨sound, fun good => ?_, idle⟩, older⟩
      -- The timer of another destination is not touched.
      have holds := accounted.expiry d
      rw [expiryOf, present] at holds
      have spares : sim.Spares (· = expiryEvent t.node d)
          (t.placedSim (.ofRoute (t.routes.get? r.ip)) r sim) :=
        (accounted.changes_install r).spares fun event mine theirs =>
          other (expiryEvent_inj.mp (theirs.symm.trans mine))
      exact (holds.isArmed_spares accounted.valid spares rfl).trans (armed good)

private theorem due?_placed (accounted : t.Accounted sim) (r : RouteRow) :
    (t.placedExpiry r sim).due? (t.placedSim (.ofRoute (t.routes.get? r.ip)) r sim) =
      if r.isGood then some (sim.now + min r.ttl t.config.timeout) else none := by
  rw [placedExpiry, placedSim_eq (expiry_ofRoute r.ip)]
  cases r.isGood with
  | false => rfl
  | true =>
    have valid : ((t.expiryOf r.ip).disarm sim).WellFormed :=
      TimerSlot.disarm_wellFormed accounted.valid
    have nextId : ((t.expiryOf r.ip).disarm sim).nextId = sim.nextId := TimerSlot.nextId_disarm
    rw [if_pos rfl, if_pos rfl, if_pos rfl, ← nextId]
    exact TimerSlot.due?_schedule valid _ _ _

/-- Of the events of the destination only that of the new row is left. -/
theorem pending_install (accounted : t.Accounted sim) (r : RouteRow) (why : RouteReason) :
    (t.install r why sim).2.dueTimes (expiryEvent t.node r.ip) =
      if r.isGood then [sim.now + min r.ttl t.config.timeout] else [] := by
  have installed : (t.install r why sim).1.Accounted (t.install r why sim).2 :=
    accounted.place why (expiry_ofRoute r.ip)
  have rewrites := install_rewrites t r why sim
  have holds := installed.expiry r.ip
  rw [expiryOf, rewrites.get?_self, rewrites.kept.node] at holds
  have due := accounted.due?_placed r
  rw [← install_sim t r why] at due
  rw [holds.dueTimes installed.valid]
  refine (congrArg Option.toList due).trans ?_
  split <;> rfl

private theorem cancelled_install (accounted : t.Accounted sim) {x : Scheduled MeshEvent}
    (member : x ∈ sim.live) (event : x.event = expiryEvent t.node r.ip) :
    x ∉ (t.placedSim (.ofRoute (t.routes.get? r.ip)) r sim).live := by
  intro still
  rcases (live_placedSim accounted.valid (expiry_ofRoute r.ip) x).mp still with ⟨-, rfl⟩ | old
  · exact Nat.lt_irrefl _ (accounted.valid.live_given member)
  · have held := (accounted.expiry r.ip).disarm.alone x old event
    cases held

theorem inserted (accounted : t.Accounted sim)
    (passes : (t.install r why sim).1.check (t.install r why sim).2 = .ok ()) :
    t.Inserted sim r why (t.install r why sim).1 (t.install r why sim).2 := by
  have rewrites := install_rewrites t r why sim
  have changes := accounted.changes_install r
  rw [install_sim] at passes ⊢
  refine ⟨rewrites.kept, rfl, changes.now, ?_, fun retires => ?_, fun stays => ?_,
    install_sim t r why sim ▸ accounted.pending_install r why,
    fun x member => accounted.cancelled_install member, place_log t _ r why sim,
    fun d other => rewrites.get?_other other,
    fun x foreign => changes.foreign_iff accounted.valid foreign, passes⟩
  · rw [row?, rewrites.get?_self]
    rfl
  · rw [old?, rewrites.get?_self]
    exact kept_of_retires retires
  · rw [old?, rewrites.get?_self]
    exact kept_of_not_retires stays

end Accounted

private theorem Accounted.insertRoute_ok_iff (accounted : t.Accounted sim) (passes : t.check sim = .ok ())
    {next : RouteTable × Simulator MeshEvent} :
    t.insertRoute r why sim = .ok next ↔ ¬ t.Rejects r ∧ next = t.install r why sim := by
  rw [insertRoute, write_eq_ok_iff, not_rejects_iff]
  constructor
  · rintro ⟨-, row, welcome, after, same⟩
    exact ⟨⟨row, welcome, (accounted.check_install passes row why).mp after⟩, same.symm⟩
  · rintro ⟨⟨row, welcome, newer⟩, same⟩
    exact ⟨passes, row, welcome, (accounted.check_install passes row why).mpr newer, same.symm⟩

variable {μ : Type} [Medium μ] [LawfulMedium μ] {s : RouteTable × Air μ}

/-- However a table has been used, if it passes the check a row is refused exactly for one of the three
reasons, and if it is not refused it is written, with all that goes with it and nothing more. -/
theorem insertion_exact (handled : Handled s) (passes : s.1.check s.2.sim = .ok ()) (r : RouteRow)
    (why : RouteReason) :
    ((∃ violation, s.1.insertRoute r why s.2.sim = .error violation) ↔ s.1.Rejects r) ∧
      (¬ s.1.Rejects r → ∃ t' sim', s.1.insertRoute r why s.2.sim = .ok (t', sim') ∧
        s.1.Inserted s.2.sim r why t' sim') := by
  have accounted := handled.accounted
  have written (welcome : ¬ s.1.Rejects r) :
      s.1.insertRoute r why s.2.sim = .ok (s.1.install r why s.2.sim) :=
    (accounted.insertRoute_ok_iff passes).mpr ⟨welcome, rfl⟩
  refine ⟨⟨?_, fun rejects => ?_⟩, fun welcome => ⟨_, _, written welcome, ?_⟩⟩
  · rintro ⟨violation, failed⟩
    by_contra welcome
    rw [written welcome] at failed
    cases failed
  · cases done : s.1.insertRoute r why s.2.sim with
    | error violation => exact ⟨violation, rfl⟩
    | ok next => exact absurd rejects ((accounted.insertRoute_ok_iff passes).mp done).1
  · obtain ⟨row, -, newer⟩ := not_rejects_iff.mp welcome
    exact accounted.inserted ((accounted.check_install passes row why).mpr newer)

omit [LawfulMedium μ] in
/-- What a table does in use is among what may be done to it. -/
theorem InUse.handled (used : InUse s) : Handled s := by
  induction used with
  | created medium done => exact .created medium done
  | @step o s s' used step ih =>
    obtain ⟨t, air⟩ := s
    -- An event that begins is passed on at once.
    have passedOn {limit : Option Time} {item : Scheduled MeshEvent} {sim : Simulator MeshEvent}
        (taken : air.sim.next? limit = some (item, sim))
        (done : t.onEvent { air with sim } item.event = .ok s') : Handled s' := by
      have began := ih.began taken
      generalize item.event = event at done
      cases handles_onEvent done with
      | @timer kind _ done =>
        cases kind with
        | advert => cases done; exact began.advertised
        | trigger => cases done; exact began.triggered
        | routeDump => cases done; exact began.dumped
        | expiry ip =>
          obtain ⟨⟨t', sim'⟩, expired, rfl⟩ := ok_of_map done
          exact began.expired expired
        | discovery | probeRound | probeNext => cases done; exact began
      | elsewhere => exact began
    cases step with
    | logged _ _ log => exact ih.logged log
    | drained => exact ih.drained
    | heard done => exact ih.heard done
    | expired done => exact ih.expired done
    | started => exact ih.started
    | stopped => exact ih.stopped
    | advertised => exact ih.advertised
    | triggered => exact ih.triggered
    | dumped => exact ih.dumped
    | waited _ idle => exact ih.waited idle
    | sent taken _ done => exact passedOn taken done
    | fired taken _ done => exact passedOn taken done
    | elsewhere _ medium changes => exact ih.elsewhere medium changes

/-- A row for a destination that another neighbour told of, under any number. -/
def wayAgain (seq : UInt32) : RouteRow :=
  ⟨.ofIndex 3, .ofIndex 3, .ofIndex 1, .ofIndex 1, seq, 2, .good 200, .ofSeconds 90, .ofSeconds 11,
    .ofSeconds 14⟩

/-- The number of an old row in use is refused. Under a newer number than that of the current row, that
one becomes the old row, and the new one ends after the longest time that a row may last. -/
theorem old_row_bars_its_number : ∃ (s : RouteTable × Air Transcript) (t' : RouteTable)
    (sim' : Simulator MeshEvent), Handled s ∧ s.1.check s.2.sim = .ok () ∧
      (∃ violation, s.1.insertRoute (wayAgain 4) .newSeq s.2.sim = .error violation) ∧
      s.1.insertRoute (wayAgain 8) .newSeq s.2.sim = .ok (t', sim') ∧
      (t'.old? (.ofIndex 3)).map (·.seq) = some 6 ∧
      sim'.dueTimes (expiryEvent s.1.node (.ofIndex 3)) = [.ofSeconds 71] := by
  have seen : overtaken.map (fun s => ((s.1.row? (.ofIndex 3)).map (·.seq),
      (s.1.old? (.ofIndex 3)).map (·.seq), s.1.config.useOldRoute, s.1.config.ignoreInvalidRoutes,
      s.2.sim.now + min (.ofSeconds 90) s.1.config.timeout)) =
        some (some 6, some 4, true, false, .ofSeconds 71) := by
    decide +kernel
  obtain ⟨s, done, same⟩ := Option.map_eq_some_iff.mp seen
  simp only [Prod.mk.injEq] at same
  obtain ⟨current, before, uses, keeps, due⟩ := same
  obtain ⟨cur, row, number⟩ := Option.map_eq_some_iff.mp current
  obtain ⟨old, kept, number'⟩ := Option.map_eq_some_iff.mp before
  have used : InUse s := (blank_inUse _).runs (runs_follow done)
  have passes := used.sound.check
  obtain ⟨refused, -⟩ := insertion_exact used.handled passes (wayAgain 4) .newSeq
  obtain ⟨-, written⟩ := insertion_exact used.handled passes (wayAgain 8) .newSeq
  have stays : ¬ s.1.Retires (wayAgain 4) := by
    rintro ⟨-, cur', row', newer⟩
    obtain rfl := Option.some.inj (row.symm.trans row')
    rw [number] at newer
    exact absurd newer (by decide)
  have later : ¬ old.seq < (wayAgain 4).seq := by
    rw [number']
    decide
  have retires : s.1.Retires (wayAgain 8) := by
    refine ⟨uses, cur, row, ?_⟩
    rw [number]
    decide
  have welcome : ¬ s.1.Rejects (wayAgain 8) := by
    refine not_rejects_iff.mpr ⟨by decide, ?_, succeeds_iff.mpr fun stays => absurd retires stays⟩
    rw [keeps]
    rfl
  obtain ⟨t', sim', inserted, effect⟩ := written welcome
  refine ⟨s, t', sim', used.handled, passes, refused.mpr (.overtaken kept stays later), inserted, ?_,
    ?_⟩
  · exact (congrArg _ (effect.retired retires)).trans current
  · refine effect.pending.trans ?_
    exact congrArg (fun due => [due]) due

end RouteTable

end WirelessMesh
