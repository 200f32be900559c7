import WirelessMesh.Proofs.Forwarding.Traffic

namespace WirelessMesh

namespace Layout.Steady

variable {n : Nat} {L : Layout n} {now : Time} {tables : Fin n → RouteTable}
  {entries : Fin n → Fin n → List AdvertEntry} {i j : Fin n} {ρ : Route} {r : RouteRow}
  {me e : AdvertEntry} {sim : Simulator MeshEvent} {after : RouteTable.Considered}

/-- The entries on their way when those from one node to another are no longer the same. -/
def rerouted (entries : Fin n → Fin n → List AdvertEntry) (j i : Fin n)
    (rest : List AdvertEntry) : Fin n → Fin n → List AdvertEntry :=
  fun a b => if a = j ∧ b = i then rest else entries a b

theorem rerouted_self (rest : List AdvertEntry) : rerouted entries j i rest j i = rest :=
  if_pos ⟨rfl, rfl⟩

theorem rerouted_sublist {rest : List AdvertEntry} (fewer : rest.Sublist (entries j i))
    (a b : Fin n) : (rerouted entries j i rest a b).Sublist (entries a b) := by
  unfold rerouted
  split
  · next same =>
    obtain ⟨rfl, rfl⟩ := same
    exact fewer
  · exact .refl _

private theorem rerouted_rerouted (first second : List AdvertEntry) :
    rerouted (rerouted entries j i first) j i second = rerouted entries j i second := by
  funext a b
  simp only [rerouted]
  split <;> rfl

/-- A table considers a row, of the destination itself or of a neighbour that backs it. -/
theorem consider (steady : L.Steady now tables entries) (coherent : r.Coherent)
    (whole : r.hops ≠ 0) (other : r.ip ≠ L.ip i) (known : L.Known r.ip r.eth)
    (direct : ∀ k, r.nextHopIp = r.ip → L.ip k = r.ip → r.metric = L.link k i)
    (backed : ∀ j, r.nextHopIp = L.ip j → L.ip j ≠ r.ip →
      L.Backed now (routesTo tables r.ip) j i r.standing)
    (heard : ∀ j, r.nextHopIp = L.ip j → L.ip j ≠ r.ip →
      ∀ s ∈ L.offersTo entries r.ip j i, r.standing.NoWorse s)
    (same : ∀ ρ, (tables i).routes.get? r.ip = some ρ → ρ.row.hops ≠ 0 →
      ρ.row.nextHopIp = r.nextHopIp → ρ.row.seq = r.seq → r.metric.weight ≤ ρ.row.metric.weight)
    (done : (tables i).consider r sim = .ok after) :
    L.Steady now (Function.update tables i after.table) entries := by
  rcases RouteTable.consider_ok done with ⟨rfl, -⟩ | ⟨why, accepted, -, taken, rewrites⟩
  · rw [Function.update_eq_self]
    exact steady
  · have ip : accepted.ip = r.ip := RouteTable.verdict_ip taken
    have eth : accepted.eth = r.eth := by
      obtain ⟨_, rfl⟩ := RouteTable.verdict_row taken
      rfl
    have place := steady.sited i
    rw [ip] at rewrites
    refine steady.rewrites rewrites ⟨other, ?_, ?_⟩
    · intro x member
      rcases Route.mem_rows.mp member with rfl | held
      · exact ⟨ip, eth ▸ known⟩
      · -- An old row was in the table under the same destination.
        unfold RouteTable.acceptedRoute at held
        rw [ip] at held
        obtain ⟨ρ, present, before⟩ := Route.mem_rows_of_predecessor held
        exact (place.known r.ip ρ present).2 x before
    · have route : (tables i).acceptedRoute accepted sim = ⟨accepted,
          (Predecessor.ofRoute (routesTo tables r.ip i)).kept (L.config i).useOldRoute accepted.seq,
          (tables i).placedExpiry accepted sim⟩ := by
        rw [RouteTable.acceptedRoute, ip, place.config]
        rfl
      rw [route]
      exact (steady.ordered r.ip).accepts (fun k other => Function.update_of_ne other _ _) coherent
        whole taken (Function.update_self i _ _) direct backed heard same

theorem considerBroken (steady : L.Steady now tables entries) (odd : isOddSeq e.seq = true)
    (done : (tables i).considerBroken e sim = .ok after) :
    L.Steady now (Function.update tables i after.table) entries := by
  rcases RouteTable.considerBroken_ok done with ⟨rfl, -⟩ | ⟨cur, here, newer, rewrites⟩
  · rw [Function.update_eq_self]
    exact steady
  · obtain ⟨ρ, present, rfl⟩ := Option.map_eq_some_iff.mp here
    have place := steady.sited i
    have ip : ρ.row.ip = e.ip :=
      ((place.known e.ip ρ present).2 ρ.row ρ.row_mem_rows).1
    have keeps : (tables i).config.ignoreInvalidRoutes = false := by
      rw [place.config]
      exact L.keepsBroken i
    rw [ip, present, RouteTable.brokenRoute_kept keeps] at rewrites
    exact steady.rewrites rewrites (steady.admits_broken present rfl rfl
      (RouteTable.brokenRow_renumbered_coherent _ _ _ odd) rfl newer (RouteTable.kept_cases _ _ _))

theorem takeEntry {rest : List AdvertEntry} (steady : L.Steady now tables entries)
    (sender : me.ip = L.ip j) (next : entries j i = e :: rest)
    (done : (tables i).takeEntry me (L.link j i) e sim = .ok after) :
    L.Steady now (Function.update tables i after.table) (rerouted entries j i rest) := by
  have left : L.Steady now tables (rerouted entries j i rest) :=
    steady.entries_shrunk (rerouted_sublist (next ▸ List.sublist_cons_self e rest))
  obtain ⟨known, foreign⟩ := steady.sent j i e (next ▸ List.mem_cons_self)
  rcases RouteTable.takeEntry_ok done with ⟨strange, far, even, considered⟩ | ⟨-, odd, broken⟩ | rfl
  case inr.inl => exact left.considerBroken odd broken
  case inr.inr =>
    rw [Function.update_eq_self]
    exact left
  case inl =>
    have other : e.ip ≠ L.ip i := fun mine =>
      strange (.inr (.inl (mine.trans (steady.sited i).ip.symm)))
    have offers : L.offersTo entries e.ip j i =
        ((tables i).relayedRow me e (L.link j i) sim.now).standing ::
          L.offersTo (rerouted entries j i rest) e.ip j i := by
      rw [offersTo, offersTo, next, rerouted_self, List.filterMap_cons, AdvertEntry.standing?,
        if_pos ⟨rfl, far⟩]
      rfl
    have ordered := steady.ordered e.ip
    have whole : ((tables i).relayedRow me e (L.link j i) sim.now).hops ≠ 0 := by
      intro gone
      have two : 2 ≤ ((tables i).relayedRow me e (L.link j i) sim.now).hops.toNat :=
        RouteTable.two_le_relayed_hops far _
      rw [gone] at two
      exact absurd two (by decide)
    refine left.consider (RouteTable.relayedRow_coherent far even _) whole other known ?direct ?backed
      ?heard ?same considered
    case direct =>
      intro k direct
      exact absurd (sender.symm.trans direct).symm (foreign far)
    case backed =>
      intro k via _
      obtain rfl := L.ip_injective (sender.symm.trans via)
      exact ordered.flying j i _ (offers ▸ List.mem_cons_self)
    case heard =>
      intro k via _
      obtain rfl := L.ip_injective (sender.symm.trans via)
      have queued := ordered.queued j i
      rw [offers] at queued
      exact (List.pairwise_cons.mp queued).1
    case same =>
      intro ρ present alive via number
      have hop : ρ.row.nextHopIp = L.ip j := via.trans sender
      have steady := ordered.heard i ρ j present alive hop (foreign far).symm
        ((tables i).relayedRow me e (L.link j i) sim.now).standing (offers ▸ List.mem_cons_self)
      exact steady (congrArg UInt32.toNat number)

theorem takeEntries (sender : me.ip = L.ip j) {rest : List AdvertEntry} (heard : List AdvertEntry) :
    ∀ {tables : Fin n → RouteTable} {entries : Fin n → Fin n → List AdvertEntry}
      {sofar : RouteTable.Considered},
      L.Steady now tables entries → tables i = sofar.table → entries j i = heard ++ rest →
      RouteTable.takeEntries me (L.link j i) heard sofar = .ok after →
      L.Steady now (Function.update tables i after.table) (rerouted entries j i rest) := by
  induction heard with
  | nil =>
    intro tables entries sofar steady here next done
    cases done
    rw [← here, Function.update_eq_self]
    exact steady.entries_shrunk (rerouted_sublist (next ▸ .refl rest))
  | cons e later ih =>
    intro tables entries sofar steady here next done
    obtain ⟨mid, taken, rests⟩ := ok_of_bind done
    have first := steady.takeEntry sender next (here ▸ taken)
    have current : Function.update tables i mid.table i =
        (⟨sofar.changed || mid.changed, mid.table, mid.sim⟩ : RouteTable.Considered).table :=
      Function.update_self ..
    have all := ih first current (rerouted_self (later ++ rest)) rests
    rw [Function.update_idem, rerouted_rerouted] at all
    exact all

/-- The row that an advert offers to its sender is taken in. -/
theorem hearSender {first : RouteTable.Considered} (steady : L.Steady now tables entries)
    (ip : L.ip j = me.ip) (eth : L.eth j = me.eth) (even : isOddSeq me.seq = false)
    (strange : me.ip ≠ (tables i).ip)
    (done : ((tables i).noteLink me (L.link j i) sim.now).consider
      ((tables i).hopRow me (L.link j i) sim.now) sim = .ok first) :
    L.Steady now (Function.update tables i first.table) entries := by
  have noted : L.Steady now
      (Function.update tables i ((tables i).noteLink me (L.link j i) sim.now)) entries :=
    steady.quiet rfl rfl rfl rfl rfl
  have here : Function.update tables i ((tables i).noteLink me (L.link j i) sim.now) i =
      (tables i).noteLink me (L.link j i) sim.now := Function.update_self ..
  have one : ((tables i).hopRow me (L.link j i) sim.now).hops ≠ 0 :=
    show (1 : UInt8) ≠ 0 by decide
  have mine : me.ip ≠ L.ip i := fun mine => strange (mine.trans (steady.sited i).ip.symm)
  rw [← Function.update_idem ((tables i).noteLink me (L.link j i) sim.now)]
  -- The sender is the destination, so nothing has to be backed.
  refine noted.consider (r := (tables i).hopRow me (L.link j i) sim.now)
    (RouteTable.neighborRow_coherent even _) one mine ⟨j, ip, eth⟩ ?direct
    (fun h via far => absurd via.symm far) (fun h via far => absurd via.symm far) ?same
    (here.symm ▸ done)
  case direct =>
    intro h _ there
    obtain rfl := L.ip_injective (there.trans ip.symm)
    rfl
  case same =>
    intro ρ present alive via _
    rw [here] at present
    rw [(steady.ordered me.ip).direct i ρ j present alive via ip]
    exact Nat.le_refl _

/-- The first advert on its way from one node to another is taken in. -/
theorem handleAdvert {advert : RouteAdvert} {rest : List AdvertEntry}
    (steady : L.Steady now tables entries) (next : entries j i = advert.entries ++ rest)
    (done : (tables i).handleAdvert (L.eth j) advert (L.link j i) sim = .ok after) :
    L.Steady now (Function.update tables i after.table) (rerouted entries j i rest) := by
  rcases RouteTable.handleAdvert_ok done with ⟨-, rfl⟩ | ⟨me, first, counts, hop, rests⟩
  · rw [Function.update_eq_self]
    exact steady.entries_shrunk (rerouted_sublist (next ▸ List.sublist_append_right _ _))
  · obtain ⟨member, eth, near, even, -, strange⟩ := RouteTable.advertiser?_some counts
    obtain ⟨⟨k, ip, same⟩, -⟩ := steady.sent j i me (next ▸ List.mem_append_left _ member)
    obtain rfl := L.eth_injective (same.trans eth)
    have considered := steady.hearSender ip same even strange hop
    have all := considered.takeEntries ip.symm advert.entries (Function.update_self ..) next rests
    rwa [Function.update_idem] at all

end Layout.Steady

end WirelessMesh
