import WirelessMesh.Proofs.Route.Occasions

/-!
What is true of every route of every table in use. Such a thing is to be shown for a row that is
accepted, for one that breaks and for a route that is left alone; the induction over rows, over adverts
and over runs is made once, here.
-/
namespace WirelessMesh

namespace RouteTable

variable {t t' : RouteTable} {sim sim' : Simulator MeshEvent} {before : Option Route} {route : Route}
  {Q : RouteTable → Simulator MeshEvent → Route → Prop}

def Each (Q : RouteTable → Simulator MeshEvent → Route → Prop) (t : RouteTable)
    (sim : Simulator MeshEvent) : Prop :=
  ∀ ip route, t.routes.get? ip = some route → Q t sim route

/-- What depends on the addresses and the settings of a table only, and is kept by whatever may become
of a route. -/
structure Routewise (Q : RouteTable → Simulator MeshEvent → Route → Prop) : Prop where
  spares : ∀ {t t' : RouteTable} {sim sim' : Simulator MeshEvent} {route : Route}, t'.ip = t.ip →
    t'.eth = t.eth → t'.config = t.config → sim.WellFormed → sim.Spares (fun _ => False) sim' →
    Q t sim route → Q t' sim' route
  accepted : ∀ {t : RouteTable} {sim sim' : Simulator MeshEvent} {ip : IPv4} {r accepted : RouteRow}
    {why : RouteReason} {slot : TimerSlot}, t.Sound sim → sim.Timely →
    (∀ route, t.routes.get? ip = some route → Q t sim route) → t.Offered sim.now r →
    verdict (t.row? ip) r = some (why, accepted) →
    slot.DueBy sim' (sim.now + min accepted.ttl t.config.timeout) →
    Q t sim' ⟨accepted,
      (Predecessor.ofRoute (t.routes.get? ip)).kept t.config.useOldRoute accepted.seq, slot⟩
  broken : ∀ {t : RouteTable} {sim sim' : Simulator MeshEvent} {route : Route} {r : RouteRow}
    {old : Option RouteRow}, Q t sim route → r.hops = 0 → r.ip = route.row.ip →
    r.eth = route.row.eth → (old = route.old ∨ old = some route.row) → Q t sim' ⟨r, old, none⟩

namespace Routewise

theorem breaks (keeps : Routewise Q) (kept : t.Kept t') (valid : sim.WellFormed)
    (spares : sim.Spares (fun _ => False) sim') (known : ∀ route, before = some route → Q t sim route)
    (breaks : t.Breaks before (some route)) : Q t' sim' route := by
  cases breaks with
  | same => exact keeps.spares kept.ip kept.eth kept.config valid spares (known route rfl)
  | broken gone ip eth newer old =>
    have broken : Q t sim ⟨_, _, none⟩ := keeps.broken (known _ rfl) gone ip eth old
    exact keeps.spares kept.ip kept.eth kept.config valid spares broken

theorem hears (keeps : Routewise Q) {s s' : RouteTable × Simulator MeshEvent} (hears : Hears s s')
    (sound : s.1.Sound s.2) (timely : s.2.Timely) (each : Each Q s.1 s.2) : Each Q s'.1 s'.2 := by
  obtain ⟨kept, sound', changes⟩ := hears.sound sound
  have spares : s.2.Spares (fun _ => False) s'.2 := changes.spares fun _ _ => id
  intro d route present
  have turns := hears.turns sound d
  rw [present] at turns
  generalize found : s.1.routes.get? d = before at turns
  cases turns with
  | breaks breaks =>
    apply keeps.breaks kept sound.valid spares _ breaks
    intro route here
    exact each d route (found.trans here)
  | accepted offered taken timed =>
    subst found
    have accepted := keeps.accepted sound timely (each d) offered taken timed
    exact keeps.spares kept.ip kept.eth kept.config sound'.valid (.refl _) accepted

variable {μ : Type} [Medium μ] [LawfulMedium μ] {o : Occasion} {s s' : RouteTable × Air μ}

omit [LawfulMedium μ] [Medium μ] in
theorem effect (keeps : Routewise Q) (effect : Effect o s s') (sound : s.1.Sound s.2.sim)
    (timely : s.2.sim.Timely) (each : Each Q s.1 s.2.sim) : Each Q s'.1 s'.2.sim := by
  cases effect with
  | @heard t air sender advert link after done =>
    have way := way_hearing done
    have all := way.all (P := fun a => a.1.Sound a.2 ∧ a.2.Timely ∧ Each Q a.1 a.2)
      ⟨sound, timely, each⟩ fun {a b} step known => by
        obtain ⟨sound, timely, each⟩ := known
        obtain ⟨-, sound', changes⟩ := step.sound sound
        exact ⟨sound', changes.timely sound.valid timely, keeps.hears step sound timely each⟩
    exact (all _ way.last_mem).2.2
  | @ranOut t t' air limit item sim sim' taken kept breaks sound' changes =>
    have begun : Each Q t sim := fun d ρ found =>
      keeps.spares rfl rfl rfl sound.valid (.next? taken id) (each d ρ found)
    have valid := sound.valid.next? taken
    have spares : sim.Spares (fun _ => False) sim' := changes.spares fun _ _ => id
    intro d ρ found
    have turns := breaks d
    rw [found] at turns
    exact keeps.breaks kept valid spares (begun d) turns
  | stopped t air => exact nofun
  | stays stays =>
    intro d ρ found
    rw [stays.routes] at found
    exact keeps.spares stays.ip stays.eth stays.config sound.valid stays.spares (each d ρ found)

/-- Every table in use. -/
theorem in_use (keeps : Routewise Q) (used : InUse s) : Each Q s.1 s.2.sim := by
  induction used with
  | created medium done =>
    rw [create_eq done]
    exact nofun
  | step used step ih => exact keeps.effect (step.effect used.sound) used.sound used.timely ih

end Routewise

end RouteTable

end WirelessMesh
