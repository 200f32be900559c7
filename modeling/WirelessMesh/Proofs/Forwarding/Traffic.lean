import WirelessMesh.Proofs.Forwarding.Ordered
import WirelessMesh.Proofs.Route.Expiry

namespace WirelessMesh

/-- Where a route stands, over a link, that an entry offers to a destination. -/
def AdvertEntry.standing? (e : AdvertEntry) (link : Metric) (d : IPv4) : Option Standing :=
  if e.ip = d ∧ e.hops ≠ 0 then some ⟨e.seq.toNat, (link.append (.ofByte e.metric)).weight⟩
  else none

namespace Layout

variable {n : Nat}

def Known (L : Layout n) (ip : IPv4) (eth : EtherAddress) : Prop :=
  ∃ k, L.ip k = ip ∧ L.eth k = eth

structure Sited (L : Layout n) (i : Fin n) (t : RouteTable) : Prop where
  node : t.node = i
  ip : t.ip = L.ip i
  eth : t.eth = L.eth i
  config : t.config = L.config i
  known : ∀ d ρ, t.routes.get? d = some ρ →
    d ≠ L.ip i ∧ ∀ x ∈ ρ.rows, x.ip = d ∧ L.Known d x.eth

def routesTo (tables : Fin n → RouteTable) (d : IPv4) (i : Fin n) : Option Route :=
  (tables i).routes.get? d

def offersTo (L : Layout n) (entries : Fin n → Fin n → List AdvertEntry) (d : IPv4) (j i : Fin n) :
    List Standing := (entries j i).filterMap (·.standing? (L.link j i) d)

/-- What is true of the tables and of the entries on their way from node to node. -/
structure Steady (L : Layout n) (now : Time) (tables : Fin n → RouteTable)
    (entries : Fin n → Fin n → List AdvertEntry) : Prop where
  sited : ∀ i, L.Sited i (tables i)
  sent : ∀ j i, ∀ e ∈ entries j i, L.Known e.ip e.eth ∧ (e.hops ≠ 0 → e.ip ≠ L.ip j)
  ordered : ∀ d, L.Ordered d now (routesTo tables d) (L.offersTo entries d)

variable {L : Layout n} {now now' : Time} {tables : Fin n → RouteTable}
  {entries entries' : Fin n → Fin n → List AdvertEntry} {i j : Fin n} {t' : RouteTable} {d : IPv4}
  {ρ ρ' : Route} {sim sim' : Simulator MeshEvent}

private theorem routesTo_update :
    routesTo (Function.update tables i t') d =
      Function.update (routesTo tables d) i (t'.routes.get? d) := by
  funext k
  by_cases mine : k = i
  · subst mine
    simp [routesTo]
  · simp [routesTo, mine]

structure Admits (L : Layout n) (now : Time) (tables : Fin n → RouteTable)
    (entries : Fin n → Fin n → List AdvertEntry) (i : Fin n) (d : IPv4) (ρ' : Route) : Prop where
  other : d ≠ L.ip i
  known : ∀ x ∈ ρ'.rows, x.ip = d ∧ L.Known d x.eth
  ordered : L.Ordered d now (Function.update (routesTo tables d) i (some ρ')) (L.offersTo entries d)

namespace Steady

theorem later (steady : L.Steady now tables entries) (later : now ≤ now') :
    L.Steady now' tables entries :=
  ⟨steady.sited, steady.sent, fun d => (steady.ordered d).later later⟩

theorem entries_shrunk (steady : L.Steady now tables entries)
    (fewer : ∀ j i, (entries' j i).Sublist (entries j i)) : L.Steady now tables entries' := by
  refine ⟨steady.sited, ?_, ?_⟩
  · intro j i e member
    exact steady.sent j i e ((fewer j i).subset member)
  · intro d
    exact (steady.ordered d).flights_shrunk fun j i => (fewer j i).filterMap _

/-- One table changes some of its routes to such as the order admits. -/
theorem routes_changed (steady : L.Steady now tables entries) (node : t'.node = (tables i).node)
    (ip : t'.ip = (tables i).ip) (eth : t'.eth = (tables i).eth)
    (config : t'.config = (tables i).config)
    (each : ∀ d, t'.routes.get? d = (tables i).routes.get? d ∨
      ∃ ρ', t'.routes.get? d = some ρ' ∧ L.Admits now tables entries i d ρ') :
    L.Steady now (Function.update tables i t') entries := by
  have place := steady.sited i
  refine ⟨?_, steady.sent, ?_⟩
  · intro k
    by_cases mine : k = i
    · subst mine
      rw [Function.update_self]
      refine ⟨node.trans place.node, ip.trans place.ip, eth.trans place.eth,
        config.trans place.config, fun d ρ present => ?_⟩
      rcases each d with same | ⟨ρ', found, admits⟩
      · exact place.known d ρ (same ▸ present)
      · cases found.symm.trans present
        exact ⟨admits.other, admits.known⟩
    · rw [Function.update_of_ne mine]
      exact steady.sited k
  · intro d
    rw [routesTo_update]
    rcases each d with same | ⟨ρ', found, admits⟩
    · have before : t'.routes.get? d = routesTo tables d i := same
      rw [before, Function.update_eq_self]
      exact steady.ordered d
    · rw [found]
      exact admits.ordered

theorem quiet (steady : L.Steady now tables entries) (node : t'.node = (tables i).node)
    (ip : t'.ip = (tables i).ip) (eth : t'.eth = (tables i).eth)
    (config : t'.config = (tables i).config) (routes : t'.routes = (tables i).routes) :
    L.Steady now (Function.update tables i t') entries :=
  steady.routes_changed node ip eth config fun _ => .inl (routes ▸ rfl)

theorem rewrites (steady : L.Steady now tables entries)
    (rewrites : (tables i).Rewrites t' d (some ρ')) (admits : L.Admits now tables entries i d ρ') :
    L.Steady now (Function.update tables i t') entries := by
  have kept := rewrites.kept
  apply steady.routes_changed kept.node kept.ip kept.eth kept.config
  intro d'
  by_cases here : d' = d
  · subst here
    exact .inr ⟨ρ', rewrites.get?_self, admits⟩
  · exact .inl (rewrites.get?_other here)

theorem admits_broken (steady : L.Steady now tables entries)
    (present : (tables i).routes.get? d = some ρ) {r : RouteRow} {old : Option RouteRow}
    {timer : TimerSlot} (ip : r.ip = ρ.row.ip) (eth : r.eth = ρ.row.eth) (coherent : r.Coherent)
    (gone : r.hops = 0) (newer : ρ.row.seq < r.seq) (kept : old = ρ.old ∨ old = some ρ.row) :
    L.Admits now tables entries i d ⟨r, old, timer⟩ := by
  obtain ⟨other, known⟩ := (steady.sited i).known d ρ present
  refine ⟨other, ?_, ?_⟩
  · intro x member
    rcases Route.mem_rows.mp member with rfl | held
    · rw [ip, eth]
      exact known ρ.row ρ.row_mem_rows
    · exact known x (Route.mem_rows_of_kept kept held)
  · exact (steady.ordered d).breaks (fun k other => Function.update_of_ne other _ _) present
      (Function.update_self i _ _) coherent gone newer kept

/-- A route runs out, and with it all that go by way of it. -/
theorem expireRow (steady : L.Steady now tables entries)
    (present : (tables i).routes.get? ρ.row.ip = some ρ) (good : ρ.row.isGood = true)
    (sound : ((tables i).without ρ.row.ip).Sound sim)
    (done : (tables i).expireRow ρ sim = .ok (t', sim')) :
    L.Steady now (Function.update tables i t') entries := by
  have keeps : (tables i).config.ignoreInvalidRoutes = false := by
    rw [(steady.sited i).config]
    exact L.keepsBroken i
  obtain ⟨kept, each⟩ := RouteTable.expireRow_ok sound present good keeps done
  apply steady.routes_changed kept.node kept.ip kept.eth kept.config
  intro d
  apply (each d).imp_right
  rintro ⟨ρ, old, found, usable, beside, after⟩
  have regular := (steady.ordered d).regular i ρ found
  have whole : ρ.row.hops ≠ 0 := (RouteRow.isGood_iff.mp usable).1
  exact ⟨_, after, steady.admits_broken found rfl rfl (RouteTable.brokenRow_coherent _ _ _) rfl
    (regular.row.seq_lt_invalidate whole sim.now) beside⟩

end Steady

end Layout

end WirelessMesh
