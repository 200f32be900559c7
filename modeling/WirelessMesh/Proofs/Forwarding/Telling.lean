import WirelessMesh.Proofs.Air.Channels
import WirelessMesh.Proofs.Forwarding.Traffic
import WirelessMesh.Proofs.Route.Run

namespace WirelessMesh

namespace Layout.Steady

variable {n : Nat} {L : Layout n} {now : Time} {tables : Fin n → RouteTable}
  {entries entries' : Fin n → Fin n → List AdvertEntry} {i j : Fin n} {t : RouteTable}
  {e : AdvertEntry} {d : IPv4} {s : Standing} {air : Air (Channels n)}

private theorem told_of_offer (steady : L.Steady now tables entries)
    (member : e ∈ ((tables j).buildAdvert now).entries)
    (offers : e.standing? (L.link j i) d = some s) :
    ∃ ρ, routesTo tables d j = some ρ ∧ ∃ x ∈ ρ.rows, x.hops ≠ 0 ∧ s = x.toldOver (L.link j i) ∧
      (x.isGood = true → x = ρ.floor (L.config j).useOldRoute now) := by
  unfold AdvertEntry.standing? at offers
  split at offers
  · next terms =>
    obtain ⟨rfl, far⟩ := terms
    cases offers
    rcases RouteTable.mem_buildAdvert member with rfl | ⟨ip, ρ, present, told⟩
    · exact absurd rfl far
    · have row : (tables j).served now ρ ∈ ρ.rows := ρ.served_mem _
      obtain ⟨here, -, number, hops, metric⟩ := RouteTable.entryOf_some told
      have same := (((steady.sited j).known ip ρ present).2 _ row).1
      obtain rfl : ip = e.ip := (here.trans same).symm
      refine ⟨ρ, present, _, row, hops ▸ far, ?_, fun good => ?_⟩
      · rw [number, metric]
        rfl
      · rw [← (steady.sited j).config]
        exact ((steady.ordered e.ip).regular j ρ present).served_eq_floor good
  · cases offers

theorem tells (steady : L.Steady now tables entries)
    (more : ∀ j i, ∃ new, entries' j i = entries j i ++ new ∧
      ∀ e ∈ new, e ∈ ((tables j).buildAdvert now).entries) : L.Steady now tables entries' := by
  refine ⟨steady.sited, ?_, ?_⟩
  · intro j i e member
    obtain ⟨new, same, built⟩ := more j i
    have place := steady.sited j
    rw [same] at member
    rcases List.mem_append.mp member with before | fresh
    · exact steady.sent j i e before
    · rcases RouteTable.mem_buildAdvert (built e fresh) with rfl | ⟨ip, ρ, present, told⟩
      · exact ⟨⟨j, place.ip.symm, place.eth.symm⟩, fun far => absurd rfl far⟩
      · obtain ⟨here, eth, -⟩ := RouteTable.entryOf_some told
        obtain ⟨other, known⟩ := place.known ip ρ present
        have row : (tables j).served now ρ ∈ ρ.rows := ρ.served_mem _
        obtain ⟨same, known⟩ := known _ row
        rw [here, eth, same]
        exact ⟨known, fun _ => other⟩
  · intro d
    apply (steady.ordered d).rows_told
    intro j i
    obtain ⟨new, same, built⟩ := more j i
    refine ⟨new.filterMap (·.standing? (L.link j i) d), ?_, ?_⟩
    · rw [offersTo, same, List.filterMap_append]
      rfl
    · intro s member
      obtain ⟨e, fresh, offers⟩ := List.mem_filterMap.mp member
      exact steady.told_of_offer (built e fresh) offers

end Layout.Steady

/-- Tables and the frames on their way, each with the address of its sender. -/
structure Layout.Flowing {n : Nat} (L : Layout n) (now : Time) (tables : Fin n → RouteTable)
    (c : Channels n) : Prop where
  steady : L.Steady now tables c.entries
  source : ∀ j i, ∀ frame ∈ c.queue j i, frame.source = L.eth j

namespace Layout.Flowing

variable {n : Nat} {L : Layout n} {now : Time} {tables : Fin n → RouteTable} {c : Channels n}
  {i j : Fin n} {t t' : RouteTable} {air : Air (Channels n)}

theorem quiet (flowing : L.Flowing now tables c) (here : tables i = t) (node : t'.node = t.node)
    (ip : t'.ip = t.ip) (eth : t'.eth = t.eth) (config : t'.config = t.config)
    (routes : t'.routes = t.routes) : L.Flowing now (Function.update tables i t') c := by
  subst here
  exact ⟨flowing.steady.quiet node ip eth config routes, flowing.source⟩

theorem sendAdvert (flowing : L.Flowing air.sim.now tables air.medium) (here : tables i = t) :
    L.Flowing air.sim.now (Function.update tables i (t.sendAdvert air).1)
      (t.sendAdvert air).2.medium := by
  subst here
  have site := flowing.steady.sited i
  have told : L.Flowing air.sim.now tables ((tables i).sendAdvert air).2.medium := by
    constructor
    · apply flowing.steady.tells
      intro j k
      refine ⟨_, Channels.entries_carry j k, ?_⟩
      intro e member
      split at member
      · next mine =>
        rw [site.node] at mine
        obtain rfl := Fin.ext mine
        rw [Frame.ofDraft, Frame.advertised_encode] at member
        exact List.mem_of_mem_take member
      · cases member
    · intro j k frame member
      rcases Channels.mem_queue_carry member with before | ⟨mine, rfl⟩
      · exact flowing.source j k frame before
      · rw [site.node] at mine
        obtain rfl := Fin.ext mine
        exact site.eth
  exact told.quiet rfl rfl rfl rfl rfl rfl

theorem onAdvertTimer (flowing : L.Flowing air.sim.now tables air.medium) (here : tables i = t) :
    L.Flowing air.sim.now (Function.update tables i (t.onAdvertTimer air).1)
      (t.onAdvertTimer air).2.medium := by
  have renewed : L.Flowing air.sim.now (Function.update tables i { t with seq := t.seq + 2 })
      air.medium := flowing.quiet here rfl rfl rfl rfl rfl
  have sent := renewed.sendAdvert (Function.update_self i _ tables)
  have timed : L.Flowing air.sim.now (Function.update _ i (t.onAdvertTimer air).1)
      (t.onAdvertTimer air).2.medium :=
    sent.quiet (Function.update_self i _ _) rfl rfl rfl rfl rfl
  rwa [Function.update_idem, Function.update_idem] at timed

theorem armDump (flowing : L.Flowing now tables c) (here : tables i = t)
    (sim : Simulator MeshEvent) :
    L.Flowing now (Function.update tables i (t.armDump sim).1) c := by
  obtain ⟨dumpTimer, same⟩ := RouteTable.armDump_eq t sim
  rw [same]
  exact flowing.quiet here rfl rfl rfl rfl rfl

theorem onDumpTimer (flowing : L.Flowing now tables c) (here : tables i = t)
    (sim : Simulator MeshEvent) :
    L.Flowing now (Function.update tables i (t.onDumpTimer sim).1) c := by
  have noted : L.Flowing now (Function.update tables i
      (t.note sim.now (.routeDump ((t.servedRows sim.now).map .ofRow)))) c :=
    flowing.quiet here rfl rfl rfl rfl rfl
  have armed := noted.armDump (Function.update_self i _ tables) sim
  rwa [Function.update_idem] at armed

theorem start (flowing : L.Flowing now tables c) (here : tables i = t)
    (sim : Simulator MeshEvent) : L.Flowing now (Function.update tables i (t.start sim).1) c := by
  have timed : L.Flowing now (Function.update tables i { t with
      random := (t.random.below t.config.periodMillis).2
      advertTimer := (t.advertTimer.rearm sim
        (.ofMillis (t.random.below t.config.periodMillis).1) (.timer t.node .advert)).1 }) c :=
    flowing.quiet here rfl rfl rfl rfl rfl
  have armed := timed.armDump (Function.update_self i _ tables) (t.advertTimer.rearm sim
    (.ofMillis (t.random.below t.config.periodMillis).1) (.timer t.node .advert)).2
  rwa [Function.update_idem] at armed

/-- A timer that stands for no route leaves the order alone. -/
theorem onTimer (flowing : L.Flowing air.sim.now tables air.medium) (here : tables i = t)
    {kind : TimerKind} (other : ∀ ip, kind ≠ .expiry ip) {next : RouteTable × Air (Channels n)}
    (done : t.onTimer air kind = .ok next) :
    L.Flowing air.sim.now (Function.update tables i next.1) next.2.medium := by
  have still : L.Flowing air.sim.now (Function.update tables i t) air.medium := by
    rwa [← here, Function.update_eq_self]
  cases kind with
  | advert => cases done; exact flowing.onAdvertTimer here
  | trigger => cases done; exact flowing.sendAdvert here
  | routeDump => cases done; exact flowing.onDumpTimer here _
  | expiry ip => exact absurd rfl (other ip)
  | discovery => cases done; exact still
  | probeRound => cases done; exact still
  | probeNext => cases done; exact still

end Layout.Flowing

end WirelessMesh
