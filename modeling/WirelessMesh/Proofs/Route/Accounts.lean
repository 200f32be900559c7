import WirelessMesh.Proofs.Route.Scripts

/-!
A table that may be handed anything: rows of the caller's own making, calls in any order, events that
begin and are not passed on. Its rows need not pass the check meanwhile. What stays true all the same
is that whatever is live of its events is in the slot that stands for it.
-/
namespace WirelessMesh

def TimerKind.Routing : TimerKind → Prop
  | .advert | .trigger | .routeDump | .expiry _ => True
  | .discovery | .probeRound | .probeNext => False

namespace RouteTable

variable {t t' : RouteTable} {sim sim' : Simulator MeshEvent} {ip : IPv4} {route : Route}
  {kind : TimerKind} {slot : TimerSlot} {before : Predecessor} {r : RouteRow} {why : RouteReason}

def timers (t : RouteTable) : TimerKind → TimerSlot := t.slots fun _ => none

private theorem owned_timer (routing : kind.Routing) : t.Owned (.timer t.node kind) := by
  cases kind with
  | advert => exact .inl (.inl rfl)
  | trigger => exact .inl (.inr (.inl rfl))
  | routeDump => exact .inl (.inr (.inr rfl))
  | expiry ip => exact owned_expiry t ip
  | discovery => exact routing.elim
  | probeRound => exact routing.elim
  | probeNext => exact routing.elim

def Keyed (t : RouteTable) : Prop := ∀ ip route, t.routes.get? ip = some route → route.row.ip = ip

theorem Keyed.rewrites (keyed : t.Keyed) (rewrites : t.Rewrites t' ip (some route))
    (own : route.row.ip = ip) : t'.Keyed := by
  intro d ρ present
  rw [rewrites.get?] at present
  split at present
  · next here =>
    cases present
    exact own.trans here.symm
  · exact keyed d ρ present

theorem Keyed.without (keyed : t.Keyed) (ip : IPv4) : (t.without ip).Keyed := by
  intro d ρ present
  rw [RouteTable.without, get?_erase_route] at present
  split at present
  · cases present
  · exact keyed d ρ present

/-- Every live event of a table is in the slot that stands for it. -/
structure Accounted (t : RouteTable) (sim : Simulator MeshEvent) : Prop where
  valid : sim.WellFormed
  keyed : t.Keyed
  holds : ∀ kind : TimerKind, kind.Routing → (t.timers kind).Holds sim (.timer t.node kind)

namespace Accounted

theorem expiry (accounted : t.Accounted sim) (ip : IPv4) :
    (t.expiryOf ip).Holds sim (expiryEvent t.node ip) :=
  accounted.holds (.expiry ip) trivial

/-- The table changes in other things than its timers and routes. -/
theorem congr (accounted : t.Accounted sim) (node : t'.node = t.node) (routes : t'.routes = t.routes)
    (timers : t'.timers = t.timers) : t'.Accounted sim where
  valid := accounted.valid
  keyed := by
    rw [Keyed, routes]
    exact accounted.keyed
  holds := by
    rw [node, timers]
    exact accounted.holds

/-- What is done to the events of others, and what time does, leaves a table with its own. -/
theorem spares (accounted : t.Accounted sim) (spares : sim.Spares t.Owned sim') :
    t.Accounted sim' where
  valid := spares.valid accounted.valid
  keyed := accounted.keyed
  holds kind routing :=
    (accounted.holds kind routing).spares accounted.valid spares (owned_timer routing)

theorem next? (accounted : t.Accounted sim) {limit : Option Time} {item : Scheduled MeshEvent}
    (taken : sim.next? limit = some (item, sim')) : t.Accounted sim' where
  valid := accounted.valid.next? taken
  keyed := accounted.keyed
  holds kind routing := (accounted.holds kind routing).next? accounted.valid taken

theorem update (accounted : t.Accounted sim) (node : t'.node = t.node) (keyed : t'.Keyed)
    (timers : t'.timers = Function.update t.timers kind slot)
    (changes : sim.Changes (· = .timer t.node kind) sim')
    (holds : slot.Holds sim' (.timer t.node kind)) : t'.Accounted sim' := by
  refine ⟨changes.valid accounted.valid, keyed, fun other routing => ?_⟩
  rw [node, timers]
  by_cases here : other = kind
  · subst here
    rw [Function.update_self]
    exact holds
  · rw [Function.update_of_ne here]
    apply (accounted.holds other routing).changes accounted.valid changes
    intro same
    exact here (MeshEvent.timer.inj same).2

theorem rearm (accounted : t.Accounted sim) (routing : kind.Routing) (delay : Time)
    (node : t'.node = t.node) (keyed : t'.Keyed)
    (timers : t'.timers = Function.update t.timers kind
      ((t.timers kind).rearm sim delay (MeshEvent.timer t.node kind)).1) :
    t'.Accounted ((t.timers kind).rearm sim delay (MeshEvent.timer t.node kind)).2 := by
  have holds := accounted.holds kind routing
  refine accounted.update node keyed timers (TimerSlot.changes_rearm holds.owns ?_ delay)
    (holds.rearm accounted.valid delay)
  rfl

theorem disarm (accounted : t.Accounted sim) (routing : kind.Routing) (node : t'.node = t.node)
    (keyed : t'.Keyed) (timers : t'.timers = Function.update t.timers kind none) :
    t'.Accounted ((t.timers kind).disarm sim) := by
  have holds := accounted.holds kind routing
  refine accounted.update node keyed timers (TimerSlot.changes_disarm holds.owns ?_) holds.disarm
  rfl

/-- Any row may be put in place, whatever is kept beside it. -/
theorem place (accounted : t.Accounted sim) (why : RouteReason)
    (held : before.expiry = t.expiryOf r.ip) :
    (t.place before r why sim).1.Accounted (t.place before r why sim).2 := by
  have keyed := accounted.keyed.rewrites (place_rewrites t before r why sim) rfl
  have routing : (TimerKind.expiry r.ip).Routing := trivial
  cases good : r.isGood with
  | false =>
    rw [place_bad good, held] at keyed ⊢
    exact accounted.disarm routing rfl keyed (slots_route rfl rfl rfl fun d => expiryOf_insert _ d)
  | true =>
    rw [place_good good, held] at keyed ⊢
    exact accounted.rearm routing _ rfl keyed
      (slots_route rfl rfl rfl fun d => expiryOf_insert _ d)

theorem requestTrigger (accounted : t.Accounted sim) :
    (t.requestTrigger sim).1.Accounted (t.requestTrigger sim).2 := by
  unfold RouteTable.requestTrigger
  split
  · exact accounted
  · have routing : TimerKind.trigger.Routing := trivial
    exact accounted.rearm routing _ rfl accounted.keyed slots_trigger

theorem proceeds (accounted : t.Accounted sim) (proceeds : t.Proceeds sim t' sim') :
    t'.Accounted sim' := by
  induction proceeds with
  | still t sim => exact accounted
  | noted t log sim => exact accounted.congr rfl rfl rfl
  | placed why sim held => exact accounted.place why held
  | removed t ip sim =>
    have routing : (TimerKind.expiry ip).Routing := trivial
    exact accounted.disarm routing rfl (accounted.keyed.without ip)
      (slots_route rfl rfl rfl expiryOf_without)
  | @forgotten t ip sim idle =>
    have empty := (accounted.expiry ip).forget accounted.valid idle
    exact accounted.update rfl (accounted.keyed.without ip)
      (slots_route rfl rfl rfl expiryOf_without) (.refl sim) empty
  | requested t sim => exact accounted.requestTrigger
  | trans first second ih ih' => exact ih' (ih accounted)

theorem create {node : NodeId} {eth : EtherAddress} {config : RoutingConfig} {random : RandomSource}
    (done : create node ip eth config random = .ok t) : t.Accounted .empty := by
  rw [create_eq done]
  refine ⟨Simulator.empty_wellFormed, nofun, fun kind _ => ?_⟩
  cases kind <;> exact TimerSlot.holds_none nofun

theorem drainLog (accounted : t.Accounted sim) : t.drainLog.2.Accounted sim := by
  obtain ⟨log, same⟩ := drainLog_eq t
  rw [same]
  exact accounted.congr rfl rfl rfl

theorem rearmAdvert (accounted : t.Accounted sim) (delay : Time) (random : RandomSource) :
    let armed := t.advertTimer.rearm sim delay (.timer t.node .advert)
    { t with random, advertTimer := armed.1 }.Accounted armed.2 := by
  have drawn : { t with random }.Accounted sim := accounted.congr rfl rfl rfl
  have routing : TimerKind.advert.Routing := trivial
  exact drawn.rearm routing delay rfl drawn.keyed (slots_advert (t := { t with random }))

theorem armDump (accounted : t.Accounted sim) : (t.armDump sim).1.Accounted (t.armDump sim).2 := by
  unfold RouteTable.armDump
  split
  · exact accounted
  · have routing : TimerKind.routeDump.Routing := trivial
    exact accounted.rearm routing _ rfl accounted.keyed slots_dump

theorem start (accounted : t.Accounted sim) : (t.start sim).1.Accounted (t.start sim).2 :=
  (accounted.rearmAdvert _ _).armDump

theorem onDumpTimer (accounted : t.Accounted sim) :
    (t.onDumpTimer sim).1.Accounted (t.onDumpTimer sim).2 := by
  have noted : (t.note sim.now (.routeDump ((t.servedRows sim.now).map .ofRow))).Accounted sim :=
    accounted.congr rfl rfl rfl
  exact noted.armDump

theorem disarmAdvert (accounted : t.Accounted sim) :
    { t with advertTimer := none }.Accounted (t.advertTimer.disarm sim) := by
  have routing : TimerKind.advert.Routing := trivial
  exact accounted.disarm routing rfl accounted.keyed slots_advert

theorem disarmTrigger (accounted : t.Accounted sim) :
    { t with triggerTimer := none }.Accounted (t.triggerTimer.disarm sim) := by
  have routing : TimerKind.trigger.Routing := trivial
  exact accounted.disarm routing rfl accounted.keyed slots_trigger

theorem disarmDump (accounted : t.Accounted sim) :
    { t with dumpTimer := none }.Accounted (t.dumpTimer.disarm sim) := by
  have routing : TimerKind.routeDump.Routing := trivial
  exact accounted.disarm routing rfl accounted.keyed slots_dump

/-- All routes are forgotten, and none of their events is left. -/
theorem forget (accounted : t.Accounted sim) : { t with routes := .empty }.Accounted
    (t.routes.values.foldl (fun sim (route : Route) => route.expiry.disarm sim) sim) := by
  have valid := accounted.valid
  have changes := changes_forget valid fun ip => (accounted.expiry ip).owns
  have other (kind : TimerKind) (routing : kind.Routing)
      (unlike : ¬ ∃ ip, MeshEvent.timer t.node kind = expiryEvent t.node ip) :=
    (accounted.holds kind routing).changes valid changes unlike
  have keyed : { t with routes := .empty }.Keyed := by
    intro ip route present
    rw [Directory.get?_empty] at present
    cases present
  refine ⟨changes.valid valid, keyed, fun kind routing => ?_⟩
  cases kind with
  | expiry ip =>
    refine TimerSlot.holds_none fun x member event => ?_
    obtain ⟨live, apart⟩ := (live_disarmAll _).mp member
    have held := (accounted.expiry ip).alone x live event
    obtain ⟨route, present, timer⟩ := Option.bind_eq_some_iff.mp held
    have value := value_of_get? present
    exact apart route value _ timer rfl
  | advert => exact other .advert trivial (by simp [expiryEvent])
  | trigger => exact other .trigger trivial (by simp [expiryEvent])
  | routeDump => exact other .routeDump trivial (by simp [expiryEvent])
  | discovery => exact routing.elim
  | probeRound => exact routing.elim
  | probeNext => exact routing.elim

theorem stop (accounted : t.Accounted sim) : (t.stop sim).1.Accounted (t.stop sim).2 :=
  accounted.disarmAdvert.disarmTrigger.disarmDump.forget

section Sending

variable {μ : Type} [Medium μ] [LawfulMedium μ] {air : Air μ}

theorem sendAdvert (accounted : t.Accounted air.sim) :
    (t.sendAdvert air).1.Accounted (t.sendAdvert air).2.sim := by
  have changes := air.changes_announce t.node (t.advertDraft air.now)
  have spared : t.Accounted (air.announce t.node (t.advertDraft air.now)).sim :=
    accounted.spares (changes.spares fun _ => not_owned_arrival)
  exact spared.congr rfl rfl rfl

theorem onAdvertTimer (accounted : t.Accounted air.sim) :
    (t.onAdvertTimer air).1.Accounted (t.onAdvertTimer air).2.sim := by
  have renewed : { t with seq := t.seq + 2 }.Accounted air.sim := accounted.congr rfl rfl rfl
  exact renewed.sendAdvert.disarmTrigger.rearmAdvert _ _

end Sending

end Accounted

section Handling

variable {μ : Type} [Medium μ] {s : RouteTable × Air μ}

/-- The tables that any calls lead to, with the medium and the simulator that they are on. An event of
the table that begins may be passed on to it, now, later or never, and so may one that has not begun.
Others may use the simulator as they like, except for the events of this table. -/
inductive Handled {μ : Type} [Medium μ] : RouteTable × Air μ → Prop
  | created {node : NodeId} {ip : IPv4} {eth : EtherAddress} {config : RoutingConfig}
      {random : RandomSource} {t : RouteTable} (medium : μ)
      (done : create node ip eth config random = .ok t) : Handled (t, ⟨.empty, medium⟩)
  | logged {t : RouteTable} {air : Air μ} (handled : Handled (t, air)) (log : RouteLog) :
      Handled (t.setLog log, air)
  | drained {t : RouteTable} {air : Air μ} (handled : Handled (t, air)) :
      Handled (t.drainLog.2, air)
  | inserted {t t' : RouteTable} {air : Air μ} {r : RouteRow} {why : RouteReason}
      {sim : Simulator MeshEvent} (handled : Handled (t, air))
      (done : t.insertRoute r why air.sim = .ok (t', sim)) : Handled (t', { air with sim })
  | measured {t t' : RouteTable} {air : Air μ} {r r' : RouteRow} {metric : Metric} {now : Time}
      (handled : Handled (t, air)) (done : t.takeLinkMetric r metric now = .ok (r', t')) :
      Handled (t', air)
  | heard {t : RouteTable} {air : Air μ} {sender : EtherAddress} {advert : RouteAdvert}
      {link : Metric} {after : Considered} (handled : Handled (t, air))
      (done : t.handleAdvert sender advert link air.sim = .ok after) :
      Handled (after.table, { air with sim := after.sim })
  | expired {t t' : RouteTable} {air : Air μ} {ip : IPv4} {sim : Simulator MeshEvent}
      (handled : Handled (t, air)) (done : t.onExpiry ip air.sim = .ok (t', sim)) :
      Handled (t', { air with sim })
  | started {t : RouteTable} {air : Air μ} (handled : Handled (t, air)) :
      Handled ((t.start air.sim).1, { air with sim := (t.start air.sim).2 })
  | stopped {t : RouteTable} {air : Air μ} (handled : Handled (t, air)) :
      Handled ((t.stop air.sim).1, { air with sim := (t.stop air.sim).2 })
  | advertised {t : RouteTable} {air : Air μ} (handled : Handled (t, air)) :
      Handled (t.onAdvertTimer air)
  | triggered {t : RouteTable} {air : Air μ} (handled : Handled (t, air)) :
      Handled (t.onTriggerTimer air)
  | dumped {t : RouteTable} {air : Air μ} (handled : Handled (t, air)) :
      Handled ((t.onDumpTimer air.sim).1, { air with sim := (t.onDumpTimer air.sim).2 })
  | waited {t : RouteTable} {air : Air μ} {limit : Time} (handled : Handled (t, air))
      (idle : air.sim.next? (some limit) = none) :
      Handled (t, { air with sim := { air.sim with now := max air.sim.now limit } })
  | began {t : RouteTable} {air : Air μ} {limit : Option Time} {item : Scheduled MeshEvent}
      {sim : Simulator MeshEvent} (handled : Handled (t, air))
      (taken : air.sim.next? limit = some (item, sim)) : Handled (t, { air with sim })
  | elsewhere {t : RouteTable} {air : Air μ} {sim : Simulator MeshEvent} (medium : μ)
      (handled : Handled (t, air)) (changes : air.sim.Changes (fun event => ¬ t.Owned event) sim) :
      Handled (t, ⟨sim, medium⟩)

/-- Whatever was done to a table, its events are accounted for. -/
theorem Handled.accounted [LawfulMedium μ] (handled : Handled s) : s.1.Accounted s.2.sim := by
  induction handled with
  | created medium done => exact .create done
  | logged _ log ih => exact ih.congr rfl rfl rfl
  | drained _ ih => exact ih.drainLog
  | inserted _ done ih => exact ih.proceeds (proceeds_write (expiry_ofRoute _) done)
  | measured _ done ih =>
    unfold takeLinkMetric at done
    split at done
    · cases done
      exact ih.congr rfl rfl rfl
    · cases done
  | heard _ done ih => exact ih.proceeds (proceeds_handleAdvert done)
  | expired _ done ih => exact ih.proceeds (proceeds_onExpiry (ih.keyed _) done)
  | started _ ih => exact ih.start
  | stopped _ ih => exact ih.stop
  | advertised _ ih => exact ih.onAdvertTimer
  | triggered _ ih => exact ih.sendAdvert
  | dumped _ ih => exact ih.onDumpTimer
  | waited _ _ ih => exact ih.spares (.wait _ _)
  | began _ taken ih => exact ih.next? taken
  | elsewhere _ _ changes ih => exact ih.spares (changes.spares fun _ => id)

end Handling

end RouteTable

end WirelessMesh
