import WirelessMesh.Proofs.Route.Occasions

/-!
What a table knows never goes back. A row gives way to one with a newer number, or to one with the same
number that settles when it does and goes by way of the same neighbour or is better. Across a whole
advert the last of these does not hold: the row that was better may be followed by a worse one from its
own next hop.
-/
namespace WirelessMesh

namespace RouteRow

variable {a b c : RouteRow}

/-- The number is no older, and with the same number the row settles at the same time. -/
def NoOlder (cur next : RouteRow) : Prop :=
  cur.seq ≤ next.seq ∧ (cur.seq = next.seq → next.settledAt = cur.settledAt)

/-- The number is newer, or it is the same, the row settles at the same time, and it goes by way of the
same neighbour or is strictly better. -/
def Onward (cur next : RouteRow) : Prop :=
  cur.seq < next.seq ∨ (cur.seq = next.seq ∧ next.settledAt = cur.settledAt ∧
    (next.nextHopIp = cur.nextHopIp ∨ next.metric.betterThan cur.metric = true))

/-- The number is newer, or nothing has changed. -/
def Unmoved (cur next : RouteRow) : Prop := cur.seq < next.seq ∨ next = cur

theorem NoOlder.trans (first : a.NoOlder b) (second : b.NoOlder c) : a.NoOlder c := by
  refine ⟨UInt32.le_trans first.1 second.1, ?_⟩
  intro same
  have upper : b.seq ≤ a.seq := same ▸ second.1
  have equal : a.seq = b.seq := UInt32.le_antisymm first.1 upper
  rw [second.2 (equal.symm.trans same), first.2 equal]

theorem Onward.noOlder (onward : a.Onward b) : a.NoOlder b := by
  rcases onward with newer | ⟨same, settled, -⟩
  · constructor
    · exact UInt32.le_of_lt newer
    · intro same
      rw [same] at newer
      exact absurd newer (UInt32.lt_irrefl _)
  · exact ⟨same ▸ UInt32.le_refl _, fun _ => settled⟩

theorem Unmoved.noOlder (unmoved : a.Unmoved b) : a.NoOlder b := by
  apply Onward.noOlder
  rcases unmoved with newer | same
  · exact .inl newer
  · rw [same]
    exact .inr ⟨rfl, rfl, .inl rfl⟩

end RouteRow

namespace RouteTable

variable {t t' t'' : RouteTable} {sim sim' : Simulator MeshEvent} {before after : Option Route}
  {cur : RouteRow} {R S : RouteRow → RouteRow → Prop}

/-- Every destination that one table knows the other knows, and the rows are related. -/
def Remembers (R : RouteRow → RouteRow → Prop) (t t' : RouteTable) : Prop :=
  ∀ ip cur, t.row? ip = some cur → ∃ next, t'.row? ip = some next ∧ R cur next

namespace Remembers

theorem mono (imp : ∀ {a b}, R a b → S a b) (remembers : Remembers R t t') : Remembers S t t' := by
  intro ip cur present
  obtain ⟨next, found, related⟩ := remembers ip cur present
  exact ⟨next, found, imp related⟩

theorem trans (first : Remembers RouteRow.NoOlder t t') (second : Remembers RouteRow.NoOlder t' t'') :
    Remembers RouteRow.NoOlder t t'' := by
  intro ip cur present
  obtain ⟨mid, found, early⟩ := first ip cur present
  obtain ⟨next, found', late⟩ := second ip mid found
  exact ⟨next, found', early.trans late⟩

theorem of_routes (same : t'.routes = t.routes) : Remembers RouteRow.Unmoved t t' := by
  intro ip cur present
  refine ⟨cur, ?_, .inr rfl⟩
  rw [row?, same]
  exact present

end Remembers

/-- Where broken rows are kept, a row that is not replaced stays or breaks under a newer number. -/
theorem Breaks.unmoved (breaks : t.Breaks before after)
    (keeps : t.config.ignoreInvalidRoutes = false) (present : before.map (·.row) = some cur) :
    ∃ next, after.map (·.row) = some next ∧ cur.Unmoved next := by
  cases breaks with
  | same => exact ⟨cur, present, .inr rfl⟩
  | @broken route r old gone ip eth newer kept =>
    cases present
    exact ⟨r, rfl, .inl newer⟩
  | removed ignored =>
    rw [keeps] at ignored
    cases ignored

/-- A row that is accepted is newer, or of the same number from the same neighbour, or better. -/
private theorem verdict_onward {r accepted : RouteRow} {why : RouteReason}
    (taken : verdict (some cur) r = some (why, accepted)) : cur.Onward accepted := by
  obtain ⟨settledAt, row⟩ := verdict_row taken
  rcases (verdict_some taken).2 cur rfl with newer | ⟨same, settled, hop | better⟩
  · rw [row]
    exact .inl newer
  · right
    refine ⟨same.trans (verdict_seq taken).symm, settled, .inl ?_⟩
    rw [row]
    exact hop.symm
  · right
    refine ⟨same.trans (verdict_seq taken).symm, settled, .inr ?_⟩
    rw [verdict_metric taken]
    exact better

theorem Turns.onward (turns : t.Turns sim sim' before after)
    (keeps : t.config.ignoreInvalidRoutes = false) (present : before.map (·.row) = some cur) :
    ∃ next, after.map (·.row) = some next ∧ cur.Onward next := by
  cases turns with
  | breaks breaks =>
    obtain ⟨next, found, newer | same⟩ := breaks.unmoved keeps present
    · exact ⟨next, found, .inl newer⟩
    · rw [same] at found
      exact ⟨cur, found, .inr ⟨rfl, rfl, .inl rfl⟩⟩
  | @accepted why r accepted slot offered taken timed =>
    rw [present] at taken
    exact ⟨accepted, rfl, verdict_onward taken⟩

theorem Hears.remembers {s s' : RouteTable × Simulator MeshEvent} (hears : Hears s s')
    (sound : s.1.Sound s.2) (keeps : s.1.config.ignoreInvalidRoutes = false) :
    Remembers RouteRow.Onward s.1 s'.1 := by
  intro ip cur present
  exact (hears.turns sound ip).onward keeps present

/-- On the way through an advert each table remembers what the one before it knew. -/
theorem Sound.hearing_remembers (sound : t.Sound sim)
    (keeps : t.config.ignoreInvalidRoutes = false) {sender : EtherAddress} {advert : RouteAdvert}
    {link : Metric} {heard : Considered} (done : t.handleAdvert sender advert link sim = .ok heard) :
    Way (fun a b => Remembers RouteRow.Onward a.1 b.1) (t.hearing sender advert link sim) (t, sim)
      (heard.table, heard.sim) := by
  have way := way_hearing done
  have known := way.all
    (P := fun a => a.1.Sound a.2 ∧ a.1.config.ignoreInvalidRoutes = false) ⟨sound, keeps⟩
    fun {a b} hears here => by
      obtain ⟨kept, sound', -⟩ := hears.sound here.1
      exact ⟨sound', kept.config ▸ here.2⟩
  exact way.imp known fun here hears => hears.remembers here.1 here.2

private theorem Remembers.of_way {l : List (RouteTable × Simulator MeshEvent)}
    {first last : RouteTable × Simulator MeshEvent}
    (way : Way (fun a b => Remembers RouteRow.Onward a.1 b.1) l first last) :
    Remembers RouteRow.NoOlder first.1 last.1 := by
  have all := way.all (P := fun a => Remembers RouteRow.NoOlder first.1 a.1)
    ((of_routes rfl).mono RouteRow.Unmoved.noOlder)
    fun step known => known.trans (step.mono RouteRow.Onward.noOlder)
  exact all _ way.last_mem

variable {μ : Type} [Medium μ] [LawfulMedium μ] {o : Occasion} {s s' : RouteTable × Air μ}

/-- A step that is no advert heard, nor a stop, replaces no row by another of the same number. -/
theorem Step.unmoved (step : Step o s s') (sound : s.1.Sound s.2.sim)
    (keeps : s.1.config.ignoreInvalidRoutes = false) (deaf : o ≠ .hearing) (going : o ≠ .stopping) :
    Remembers RouteRow.Unmoved s.1 s'.1 := by
  cases step.effect sound with
  | heard done => exact absurd rfl deaf
  | ranOut taken kept breaks _ _ =>
    intro ip cur known
    exact (breaks ip).unmoved keeps known
  | stopped t air => exact absurd rfl going
  | stays stays => exact .of_routes stays.routes

theorem Step.config (step : Step o s s') (sound : s.1.Sound s.2.sim) :
    s'.1.config = s.1.config := by
  cases step.effect sound with
  | heard done => exact (sound.handleAdvert_ok done).1.config
  | ranOut taken kept _ _ _ => exact kept.config
  | stopped t air => rfl
  | stays stays => exact stays.config

theorem Step.remembers (step : Step o s s') (sound : s.1.Sound s.2.sim)
    (keeps : s.1.config.ignoreInvalidRoutes = false) (going : o ≠ .stopping) :
    Remembers RouteRow.NoOlder s.1 s'.1 := by
  by_cases hearing : o = .hearing
  · subst hearing
    cases step.effect sound with
    | heard done => exact .of_way (sound.hearing_remembers keeps done)
    | stays stays => exact (Remembers.of_routes stays.routes).mono RouteRow.Unmoved.noOlder
  · exact (step.unmoved sound keeps hearing going).mono RouteRow.Unmoved.noOlder

/-- In a run without a stop all that was known is remembered. -/
theorem Runs.remembers (runs : Runs s s') (used : InUse s)
    (keeps : s.1.config.ignoreInvalidRoutes = false) :
    s'.1.config = s.1.config ∧ Remembers RouteRow.NoOlder s.1 s'.1 := by
  induction runs with
  | refl => exact ⟨rfl, (Remembers.of_routes rfl).mono RouteRow.Unmoved.noOlder⟩
  | @tail mid last runs step ih =>
    obtain ⟨o, going, step⟩ := step
    obtain ⟨config, before⟩ := ih
    have sound := (used.runs runs).sound
    have remembers := step.remembers sound (config ▸ keeps) going
    exact ⟨(step.config sound).trans config, before.trans remembers⟩

/-- With broken rows kept, over every run without a stop, a destination stays known, its number never
gets older, and while the number is the same the time at which it settles is. A row of the same number
changes only while an advert is heard, row by row, and with each row its next hop changes only for a
strictly better metric. -/
theorem knowledge_never_goes_back (used : InUse s) (keeps : s.1.config.ignoreInvalidRoutes = false)
    (runs : Runs s s') :
    (∀ ip cur, s.1.row? ip = some cur → ∃ next, s'.1.row? ip = some next ∧ cur.seq ≤ next.seq ∧
      (cur.seq = next.seq → next.settledAt = cur.settledAt)) ∧
    (∀ sender advert link heard, s'.1.handleAdvert sender advert link s'.2.sim = .ok heard →
      Way (fun a b => Remembers RouteRow.Onward a.1 b.1) (s'.1.hearing sender advert link s'.2.sim)
        (s'.1, s'.2.sim) (heard.table, heard.sim)) ∧
    ∀ o s'', o ≠ .hearing → o ≠ .stopping → Step o s' s'' →
      Remembers RouteRow.Unmoved s'.1 s''.1 := by
  obtain ⟨config, remembers⟩ := runs.remembers used keeps
  have sound := (used.runs runs).sound
  have keeps' : s'.1.config.ignoreInvalidRoutes = false := config ▸ keeps
  refine ⟨remembers, ?_, ?_⟩
  · intro sender advert link heard done
    exact sound.hearing_remembers keeps' done
  · intro o s'' deaf going step
    exact step.unmoved sound keeps' deaf going

/-- A table that has heard of a destination by way of one neighbour. -/
def informed : Option (RouteTable × Air Transcript) :=
  follow [.hear (.ofIndex 1) ⟨[⟨.ofIndex 1, .ofIndex 1, 2, 0, 0, 60000⟩,
    ⟨.ofIndex 3, .ofIndex 3, 4, 1, 50, 60000⟩]⟩ (.good 100)] (blank, ⟨.empty, {}⟩)

/-- Another neighbour tells of the destination twice, the second time of a worse way. -/
def toldTwice : RouteAdvert :=
  ⟨[⟨.ofIndex 2, .ofIndex 2, 2, 0, 0, 60000⟩, ⟨.ofIndex 3, .ofIndex 3, 4, 1, 40, 60000⟩,
    ⟨.ofIndex 3, .ofIndex 3, 4, 1, 90, 60000⟩]⟩

def rowsToldTwice : Option (RouteRow × RouteRow) := do
  let s ← informed
  let heard ← (s.1.handleAdvert (.ofIndex 2) toldTwice (.good 100) s.2.sim).toOption
  return (← s.1.row? (.ofIndex 3), ← heard.table.row? (.ofIndex 3))

private theorem rowsToldTwice_eq : rowsToldTwice.map (fun rows =>
    ((rows.1.seq, rows.1.nextHopIp, rows.1.metric), rows.2.seq, rows.2.nextHopIp, rows.2.metric)) =
      some ((4, .ofIndex 1, .good 600), 4, .ofIndex 2, .good 1000) := by
  decide +kernel

theorem informed_told_twice : ∃ (s : RouteTable × Air Transcript) (heard : Considered)
    (cur next : RouteRow), InUse s ∧ s.1.config.ignoreInvalidRoutes = false ∧
      s.1.handleAdvert (.ofIndex 2) toldTwice (.good 100) s.2.sim = .ok heard ∧
      s.1.row? (.ofIndex 3) = some cur ∧ heard.table.row? (.ofIndex 3) = some next ∧
      cur.seq = next.seq ∧ cur.nextHopIp = .ofIndex 1 ∧ next.nextHopIp = .ofIndex 2 ∧
      cur.metric = .good 600 ∧ next.metric = .good 1000 := by
  obtain ⟨rows, told, same⟩ := Option.map_eq_some_iff.mp rowsToldTwice_eq
  unfold rowsToldTwice at told
  obtain ⟨s, done, rest⟩ := Option.bind_eq_some_iff.mp told
  obtain ⟨heard, taken, rest⟩ := Option.bind_eq_some_iff.mp rest
  obtain ⟨cur, first, rest⟩ := Option.bind_eq_some_iff.mp rest
  obtain ⟨next, second, rest⟩ := Option.bind_eq_some_iff.mp rest
  cases rest
  simp only [Prod.mk.injEq] at same
  obtain ⟨⟨seq, hop, metric⟩, seq', hop', metric'⟩ := same
  have created := blank_inUse ({} : Transcript)
  have runs := runs_follow done
  have config := (runs.remembers created rfl).1
  refine ⟨s, heard, cur, next, created.runs runs, ?_, ok_of_toOption taken, first, second, ?_⟩
  · rw [config]
    rfl
  · exact ⟨seq.trans seq'.symm, hop, hop', metric, metric'⟩

/-- What was known before such an advert is remembered after it. -/
theorem told_twice_remembered : ∃ (s s' : RouteTable × Air Transcript) (cur next : RouteRow),
    InUse s ∧ s.1.config.ignoreInvalidRoutes = false ∧ Runs s s' ∧
      s.1.row? (.ofIndex 3) = some cur ∧ cur.nextHopIp = .ofIndex 1 ∧
      s'.1.row? (.ofIndex 3) = some next ∧ cur.seq ≤ next.seq := by
  obtain ⟨s, heard, cur, -, used, keeps, done, known, -, -, hop, -⟩ := informed_told_twice
  have runs : Runs s (heard.table, { s.2 with sim := heard.sim }) :=
    .single ⟨.hearing, nofun, .heard done⟩
  obtain ⟨next, found, later, -⟩ :=
    (knowledge_never_goes_back used keeps runs).1 (.ofIndex 3) cur known
  exact ⟨s, _, cur, next, used, keeps, runs, known, hop, found, later⟩

/-- Yet between two adverts heard, the next hop has changed under the same number for a worse metric. -/
theorem next_hop_changes_for_worse : ∃ (s : RouteTable × Air Transcript) (heard : Considered)
    (cur next : RouteRow), InUse s ∧ s.1.config.ignoreInvalidRoutes = false ∧
      (∀ e ∈ toldTwice.entries, e.eth.isBroadcast = false) ∧
      s.1.handleAdvert (.ofIndex 2) toldTwice (.good 100) s.2.sim = .ok heard ∧
      s.1.row? (.ofIndex 3) = some cur ∧ heard.table.row? (.ofIndex 3) = some next ∧
      cur.seq = next.seq ∧ next.nextHopIp ≠ cur.nextHopIp ∧
      next.metric.betterThan cur.metric = false := by
  obtain ⟨s, heard, cur, next, used, keeps, done, known, found, seq, hop, hop', metric, metric'⟩ :=
    informed_told_twice
  refine ⟨s, heard, cur, next, used, keeps, by decide, done, known, found, seq, ?_, ?_⟩
  · rw [hop, hop']
    decide
  · rw [metric, metric']
    decide

end RouteTable

end WirelessMesh
