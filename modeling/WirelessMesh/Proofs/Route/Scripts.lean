import WirelessMesh.Proofs.Node.Deeds
import WirelessMesh.Proofs.Route.Steps
import WirelessMesh.Proofs.Route.Timers

namespace WirelessMesh

namespace RouteTable

def slots (t : RouteTable) (others : TimerKind → TimerSlot) : TimerKind → TimerSlot
  | .discovery => others .discovery
  | .probeRound => others .probeRound
  | .probeNext => others .probeNext
  | .advert => t.advertTimer
  | .trigger => t.triggerTimer
  | .routeDump => t.dumpTimer
  | .expiry ip => t.expiryOf ip

variable {μ : Type} [Medium μ] {t t' : RouteTable} {others : TimerKind → TimerSlot}
  {dumps : Prop} {sim sim' : Simulator MeshEvent} {medium : μ} {air : Air μ} {ip : IPv4}
  {r : RouteRow} {why : RouteReason} {before : Predecessor} {after : Considered} {link : Metric}
  {slot : TimerSlot}

theorem slots_advert : { t with advertTimer := slot }.slots others =
    Function.update (t.slots others) .advert slot := by
  funext kind
  cases kind <;> simp [slots, expiryOf]

theorem slots_trigger : { t with triggerTimer := slot }.slots others =
    Function.update (t.slots others) .trigger slot := by
  funext kind
  cases kind <;> simp [slots, expiryOf]

theorem slots_dump : { t with dumpTimer := slot }.slots others =
    Function.update (t.slots others) .routeDump slot := by
  funext kind
  cases kind <;> simp [slots, expiryOf]

/-- A table that differs in what it knows of one destination. -/
theorem slots_route (advert : t'.advertTimer = t.advertTimer)
    (trigger : t'.triggerTimer = t.triggerTimer) (dump : t'.dumpTimer = t.dumpTimer)
    (expiry : ∀ d, t'.expiryOf d = if d = ip then slot else t.expiryOf d) :
    t'.slots others = Function.update (t.slots others) (.expiry ip) slot := by
  funext kind
  cases kind with
  | expiry d =>
    by_cases here : d = ip
    · subst here
      simp [slots, expiry]
    · simp [slots, expiry, here]
  | advert => simp [slots, advert]
  | trigger => simp [slots, trigger]
  | routeDump => simp [slots, dump]
  | discovery => simp [slots]
  | probeRound => simp [slots]
  | probeNext => simp [slots]

/-- A table gets by deeds of some kinds to where an operation has taken it. -/
structure Acts (allowed : Deed → Prop) (others : TimerKind → TimerSlot) (t : RouteTable) (air : Air μ)
    (t' : RouteTable) (air' : Air μ) : Prop where
  node : t'.node = t.node
  eth : t'.eth = t.eth
  config : t'.config = t.config
  plays : Plays t.node allowed ⟨t.slots others, air⟩ ⟨t'.slots others, air'⟩

namespace Acts

variable {allowed : Deed → Prop} {t'' : RouteTable} {air' air'' : Air μ}

theorem refl (allowed : Deed → Prop) (t : RouteTable) (air : Air μ) :
    Acts allowed others t air t air := ⟨rfl, rfl, rfl, .refl _⟩

theorem trans (first : Acts allowed others t air t' air')
    (second : Acts allowed others t' air' t'' air'') : Acts allowed others t air t'' air'' where
  node := second.node.trans first.node
  eth := second.eth.trans first.eth
  config := second.config.trans first.config
  plays := first.plays.trans (first.node ▸ second.plays)

/-- What is not a timer and not the configuration may change on the way. -/
theorem resumed (acts : Acts allowed others t' air t'' air'') (node : t'.node = t.node)
    (eth : t'.eth = t.eth) (config : t'.config = t.config)
    (slots : t'.slots others = t.slots others) : Acts allowed others t air t'' air'' where
  node := acts.node.trans node
  eth := acts.eth.trans eth
  config := acts.config.trans config
  plays := by
    rw [← node, ← slots]
    exact acts.plays

end Acts

private theorem acts_disarmAdvert {allowed : Deed → Prop} (fine : allowed (.disarm .advert)) :
    Acts allowed others t air { t with advertTimer := none }
      { air with sim := t.advertTimer.disarm air.sim } :=
  ⟨rfl, rfl, rfl, .disarm fine rfl slots_advert⟩

theorem acts_disarmTrigger {allowed : Deed → Prop} (fine : allowed (.disarm .trigger)) :
    Acts allowed others t air { t with triggerTimer := none }
      { air with sim := t.triggerTimer.disarm air.sim } :=
  ⟨rfl, rfl, rfl, .disarm fine rfl slots_trigger⟩

private theorem acts_disarmDump {allowed : Deed → Prop} (fine : allowed (.disarm .routeDump)) :
    Acts allowed others t air { t with dumpTimer := none }
      { air with sim := t.dumpTimer.disarm air.sim } :=
  ⟨rfl, rfl, rfl, .disarm fine rfl slots_dump⟩

private theorem acts_place (held : before.expiry = t.expiryOf r.ip) :
    Acts Deed.Passing others t ⟨sim, medium⟩ (t.place before r why sim).1
      ⟨(t.place before r why sim).2, medium⟩ := by
  cases good : r.isGood with
  | false =>
    have fine : Deed.Passing (.disarm (.expiry r.ip)) := trivial
    rw [place_bad good]
    exact ⟨rfl, rfl, rfl, .disarm fine held.symm (slots_route rfl rfl rfl fun d => expiryOf_insert _ d)⟩
  | true =>
    have set : Deed.Passing (.arm (.expiry r.ip) (min r.ttl t.config.timeout)) := trivial
    rw [place_good good]
    exact ⟨rfl, rfl, rfl, .arm set held.symm (slots_route rfl rfl rfl fun d => expiryOf_insert _ d)⟩

private theorem acts_requestTrigger :
    Acts Deed.Passing others t ⟨sim, medium⟩ (t.requestTrigger sim).1
      ⟨(t.requestTrigger sim).2, medium⟩ := by
  unfold requestTrigger
  split
  · exact .refl _ _ _
  · have set (delay : Time) : Deed.Passing (.arm .trigger delay) := trivial
    exact ⟨rfl, rfl, rfl, .arm (set _) rfl slots_trigger⟩

theorem Proceeds.acts (proceeds : t.Proceeds sim t' sim') :
    Acts Deed.Passing others t ⟨sim, medium⟩ t' ⟨sim', medium⟩ := by
  induction proceeds with
  | still t sim => exact .refl _ _ _
  | noted t log sim =>
    have same : Acts Deed.Passing others { t with log } ⟨sim, medium⟩
      { t with log } ⟨sim, medium⟩ := .refl ..
    exact same.resumed rfl rfl rfl rfl
  | placed why sim held => exact acts_place held
  | removed t ip sim =>
    have fine : Deed.Passing (.disarm (.expiry ip)) := trivial
    exact ⟨rfl, rfl, rfl, .disarm fine rfl (slots_route rfl rfl rfl expiryOf_without)⟩
  | @forgotten t ip sim idle =>
    have fine : Deed.Passing (.forget (.expiry ip)) := trivial
    exact ⟨rfl, rfl, rfl, .forget fine idle (slots_route rfl rfl rfl expiryOf_without)⟩
  | requested t sim => exact acts_requestTrigger
  | trans first second ih ih' => exact ih.trans ih'

theorem acts_handleAdvert {sender : EtherAddress} {advert : RouteAdvert}
    (done : t.handleAdvert sender advert link sim = .ok after) :
    Acts Deed.Passing others t ⟨sim, medium⟩ after.table ⟨after.sim, medium⟩ :=
  (proceeds_handleAdvert done).acts

theorem acts_onExpiry
    (keyed : ∀ route, t.routes.get? ip = some route → route.row.ip = ip)
    (done : t.onExpiry ip sim = .ok (t', sim')) :
    Acts Deed.Passing others t ⟨sim, medium⟩ t' ⟨sim', medium⟩ :=
  (proceeds_onExpiry keyed done).acts

def advertDraft (t : RouteTable) (now : Time) : Draft :=
  ⟨.broadcast, t.eth, FrameType.advert, (t.buildAdvert now).encode⟩

theorem acts_sendAdvert {allowed : Deed → Prop}
    (may : allowed (.announce (t.advertDraft air.now))) :
    Acts allowed others t air (t.sendAdvert air).1 (t.sendAdvert air).2 :=
  ⟨rfl, rfl, rfl, .announce may⟩

theorem acts_onAdvertTimer {speech : Speech}
    (may : speech.announces ({ t with seq := t.seq + 2 }.advertDraft air.now)) :
    Acts (Deed.Within dumps speech) others t air (t.onAdvertTimer air).1 (t.onAdvertTimer air).2 := by
  have sent : Acts (Deed.Within dumps speech) others { t with seq := t.seq + 2 } air _ _ :=
    acts_sendAdvert may
  have renewed : Acts (Deed.Within dumps speech) others t air
      ({ t with seq := t.seq + 2 }.sendAdvert air).1 ({ t with seq := t.seq + 2 }.sendAdvert air).2 :=
    sent.resumed rfl rfl rfl rfl
  have fine : Deed.Within dumps speech (.disarm .trigger) := trivial
  have set (delay : Time) : Deed.Within dumps speech (.arm .advert delay) := trivial
  unfold onAdvertTimer
  generalize { t with seq := t.seq + 2 }.sendAdvert air = sent at renewed ⊢
  obtain ⟨mid, midAir⟩ := sent
  refine (renewed.trans (acts_disarmTrigger fine)).trans ⟨rfl, rfl, rfl, .arm (set _) rfl ?_⟩
  exact slots_advert (t := { mid with
    random := (jitteredMillis mid.config.periodMillis mid.random).2, triggerTimer := none })

theorem acts_armDump (configured : t.config.logDumpMillis.isSome → dumps) :
    Acts (Deed.Setting dumps) others t ⟨sim, medium⟩ (t.armDump sim).1
      ⟨(t.armDump sim).2, medium⟩ := by
  unfold armDump
  split
  · exact .refl _ _ _
  · next millis given =>
    have set : Deed.Setting dumps (.arm .routeDump (.ofMillis millis)) :=
      configured (by rw [given]; rfl)
    exact ⟨rfl, rfl, rfl, .arm set rfl slots_dump⟩

theorem armed_onAdvertTimer (t : RouteTable) (air : Air μ) :
    (t.onAdvertTimer air).1.advertTimer.isArmed (t.onAdvertTimer air).2.sim = true :=
  TimerSlot.isArmed_rearm _ _ _ _

theorem armed_armDump (configured : t.config.logDumpMillis.isSome) (sim : Simulator MeshEvent) :
    (t.armDump sim).1.dumpTimer.isArmed (t.armDump sim).2 = true := by
  obtain ⟨millis, given⟩ := Option.isSome_iff_exists.mp configured
  simp only [armDump, given]
  exact TimerSlot.isArmed_rearm _ _ _ _

theorem acts_onDumpTimer (configured : t.config.logDumpMillis.isSome → dumps) :
    Acts (Deed.Setting dumps) others t ⟨sim, medium⟩ (t.onDumpTimer sim).1
      ⟨(t.onDumpTimer sim).2, medium⟩ :=
  (acts_armDump (t := t.note sim.now (.routeDump ((t.servedRows sim.now).map .ofRow)))
    configured).resumed rfl rfl rfl rfl

theorem armed_onDumpTimer (configured : t.config.logDumpMillis.isSome) (sim : Simulator MeshEvent) :
    (t.onDumpTimer sim).1.dumpTimer.isArmed (t.onDumpTimer sim).2 = true :=
  armed_armDump (t := t.note sim.now (.routeDump ((t.servedRows sim.now).map .ofRow))) configured sim

/-- A table starts by setting the timer of its adverts, and then that of the log. -/
theorem start_eq (t : RouteTable) (sim : Simulator MeshEvent) (medium : μ)
    (others : TimerKind → TimerSlot) :
    ∃ mid midSim, t.start sim = mid.armDump midSim ∧
      mid.advertTimer.isArmed midSim = true ∧
      ∀ dumps, Acts (Deed.Setting dumps) others t ⟨sim, medium⟩ mid ⟨midSim, medium⟩ := by
  refine ⟨_, _, rfl, TimerSlot.isArmed_rearm _ _ _ _, fun dumps => ?_⟩
  have set (delay : Time) : Deed.Setting dumps (.arm .advert delay) := trivial
  exact ⟨rfl, rfl, rfl, .arm (set _) rfl slots_advert⟩

theorem acts_start (configured : t.config.logDumpMillis.isSome → dumps) :
    Acts (Deed.Setting dumps) others t ⟨sim, medium⟩ (t.start sim).1 ⟨(t.start sim).2, medium⟩ := by
  obtain ⟨mid, midSim, same, -, set⟩ := t.start_eq sim medium others
  rw [same]
  exact (set dumps).trans (acts_armDump ((set dumps).config ▸ configured))

private theorem plays_disarmAll {node : NodeId} (entries : List (IPv4 × Route)) :
    ∀ {slots : TimerKind → TimerSlot} {sim : Simulator MeshEvent},
      (entries.Pairwise fun a b => a.1 ≠ b.1) →
      (∀ e ∈ entries, slots (.expiry e.1) = e.2.expiry) →
      Plays node Deed.Timing ⟨slots, ⟨sim, medium⟩⟩
        ⟨fun kind => if kind ∈ entries.map (TimerKind.expiry ·.1) then none else slots kind,
          ⟨(entries.map (·.2)).foldl (fun sim route => route.expiry.disarm sim) sim, medium⟩⟩ := by
  induction entries with
  | nil => exact fun _ _ => .refl _
  | cons e rest ih =>
    intro slots sim distinct held
    obtain ⟨apart, distinct'⟩ := List.pairwise_cons.mp distinct
    have fine : Deed.Timing (.disarm (.expiry e.1)) := trivial
    have first : Plays node Deed.Timing ⟨slots, ⟨sim, medium⟩⟩
        ⟨Function.update slots (.expiry e.1) none, ⟨e.2.expiry.disarm sim, medium⟩⟩ :=
      .disarm fine (held e List.mem_cons_self) rfl
    have kept : ∀ e' ∈ rest,
        Function.update slots (.expiry e.1) none (.expiry e'.1) = e'.2.expiry := by
      intro e' member
      rw [Function.update_of_ne fun same => apart e' member (TimerKind.expiry.inj same).symm]
      exact held e' (List.mem_cons_of_mem _ member)
    refine first.trans ?_
    have whole : (fun kind => if kind ∈ (e :: rest).map (TimerKind.expiry ·.1) then none
        else slots kind) = fun kind => if kind ∈ rest.map (TimerKind.expiry ·.1) then none
        else Function.update slots (.expiry e.1) none kind := by
      funext kind
      by_cases here : kind = .expiry e.1
      · rw [here, Function.update_self, List.map_cons, if_pos List.mem_cons_self, ite_self]
      · rw [Function.update_of_ne here, List.map_cons]
        exact if_congr ((List.mem_cons).trans (or_iff_right here)) rfl rfl
    rw [whole]
    exact ih distinct' kept

theorem acts_stop :
    Acts Deed.Timing others t ⟨sim, medium⟩ (t.stop sim).1 ⟨(t.stop sim).2, medium⟩ := by
  have advert : Acts Deed.Timing others t ⟨sim, medium⟩ _ _ := acts_disarmAdvert trivial
  have trigger := advert.trans (acts_disarmTrigger trivial)
  have dump := trigger.trans (acts_disarmDump trivial)
  have distinct : t.routes.entries.Pairwise fun a b => a.1 ≠ b.1 :=
    t.routes.ascending.imp fun before same => Nat.ne_of_lt before (congrArg rank same)
  refine dump.trans ⟨rfl, rfl, rfl, ?_⟩
  have known : ∀ e ∈ t.routes.entries, t.expiryOf e.1 = e.2.expiry := by
    intro e member
    rw [expiryOf, Directory.get?_eq_some_iff.mpr member]
    rfl
  have emptied : (t.stop sim).1.slots others = fun kind =>
      if kind ∈ t.routes.entries.map (TimerKind.expiry ·.1) then none
      else { t with advertTimer := none, triggerTimer := none, dumpTimer := none }.slots others
        kind := by
    funext kind
    cases kind with
    | expiry ip =>
      cases present : t.routes.get? ip with
      | none => simp [slots, expiryOf, stop, present]
      | some route =>
        have entry := Directory.get?_eq_some_iff.mp present
        rw [if_pos (List.mem_map.mpr ⟨(ip, route), entry, rfl⟩)]
        rfl
    | discovery => simp [slots]
    | probeRound => simp [slots]
    | probeNext => simp [slots]
    | advert => simp [slots, stop]
    | trigger => simp [slots, stop]
    | routeDump => simp [slots, stop]
  rw [emptied]
  exact plays_disarmAll t.routes.entries distinct known

end RouteTable

end WirelessMesh
