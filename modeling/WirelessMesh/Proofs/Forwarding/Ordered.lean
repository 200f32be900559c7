import WirelessMesh.Proofs.Forwarding.Advance
import WirelessMesh.Proofs.Route.Listening

/-!
The order that all tables of a network keep for one destination. Whatever a node has from a
neighbour, in its table or on its way, the neighbour backs. Word of one number gets no worse along
a link, since it arrives in the order in which it was sent.
-/
namespace WirelessMesh

/-- The nodes of a network: their addresses, their settings and what each makes of the links to
its neighbours. A link cannot be used or costs one step of an advert at least. -/
structure Layout (n : Nat) where
  ip : Fin n → IPv4
  eth : Fin n → EtherAddress
  config : Fin n → RoutingConfig
  /-- The metric of a node for the link from an address. -/
  metric : Fin n → EtherAddress → Metric
  ip_injective : Function.Injective ip
  eth_injective : Function.Injective eth
  unicast : ∀ i, (eth i).isBroadcast = false
  keepsBroken : ∀ i, (config i).ignoreInvalidRoutes = false
  step : ∀ i sender w, metric i sender = .good w → 10 ≤ w

namespace Layout

variable {n : Nat}

def link (L : Layout n) (j i : Fin n) : Metric := L.metric i (L.eth j)

/-- Whether the route of a node backs a path of a neighbour by way of it. -/
def Backed (L : Layout n) (now : Time) (route : Fin n → Option Route) (j i : Fin n)
    (s : Standing) : Prop :=
  ∃ ρ, route j = some ρ ∧ ρ.Backs (L.config j).useOldRoute now (L.link j i) s

/-- What is true for one destination of the routes to it and of the offers of such routes on their
way from node to node. -/
structure Ordered (L : Layout n) (d : IPv4) (now : Time) (route : Fin n → Option Route)
    (flight : Fin n → Fin n → List Standing) : Prop where
  regular : ∀ i ρ, route i = some ρ → ρ.Regular
  direct : ∀ i ρ k, route i = some ρ → ρ.row.hops ≠ 0 → ρ.row.nextHopIp = d → L.ip k = d →
    ρ.row.metric = L.link k i
  backed : ∀ i ρ x j, route i = some ρ → x ∈ ρ.rows → x.hops ≠ 0 → x.nextHopIp = L.ip j →
    L.ip j ≠ d → L.Backed now route j i x.standing
  flying : ∀ j i, ∀ s ∈ flight j i, L.Backed now route j i s
  heard : ∀ i ρ j, route i = some ρ → ρ.row.hops ≠ 0 → ρ.row.nextHopIp = L.ip j → L.ip j ≠ d →
    ∀ s ∈ flight j i, ρ.row.standing.NoWorse s
  queued : ∀ j i, (flight j i).Pairwise Standing.NoWorse

variable {L : Layout n} {d : IPv4} {now now' : Time} {route route' : Fin n → Option Route}
  {flight flight' : Fin n → Fin n → List Standing} {i j : Fin n} {ρ ρ' : Route} {s : Standing}

theorem Backed.later (backed : L.Backed now route j i s)
    (regular : ∀ i ρ, route i = some ρ → ρ.Regular) (later : now ≤ now') :
    L.Backed now' route j i s := by
  obtain ⟨ρ, present, backs⟩ := backed
  exact ⟨ρ, present, backs.advances ((regular j ρ present).advances_later later)⟩

namespace Ordered

theorem empty : L.Ordered d now (fun _ => none) fun _ _ => [] := by
  constructor
  case regular =>
    intro i ρ present
    cases present
  case direct =>
    intro i ρ k present
    cases present
  case backed =>
    intro i ρ x j present
    cases present
  case flying =>
    intro j i s member
    cases member
  case heard =>
    intro i ρ j present
    cases present
  case queued =>
    intro j i
    exact .nil

theorem later (ordered : L.Ordered d now route flight) (later : now ≤ now') :
    L.Ordered d now' route flight where
  regular := ordered.regular
  direct := ordered.direct
  backed i ρ x j present member whole via far :=
    (ordered.backed i ρ x j present member whole via far).later ordered.regular later
  flying j i s member := (ordered.flying j i s member).later ordered.regular later
  heard := ordered.heard
  queued := ordered.queued

/-- Offers arrive or are lost. -/
theorem flights_shrunk (ordered : L.Ordered d now route flight)
    (fewer : ∀ j i, (flight' j i).Sublist (flight j i)) : L.Ordered d now route flight' where
  regular := ordered.regular
  direct := ordered.direct
  backed := ordered.backed
  flying j i s member := ordered.flying j i s ((fewer j i).subset member)
  heard i ρ j present whole via far s member :=
    ordered.heard i ρ j present whole via far s ((fewer j i).subset member)
  queued j i := (ordered.queued j i).sublist (fewer j i)

/-- Nodes offer rows that they serve. -/
theorem rows_told (ordered : L.Ordered d now route flight)
    (more : ∀ j i, ∃ new, flight' j i = flight j i ++ new ∧ ∀ s ∈ new, ∃ ρ, route j = some ρ ∧
      ∃ x ∈ ρ.rows, x.hops ≠ 0 ∧ s = x.toldOver (L.link j i) ∧
        (x.isGood = true → x = ρ.floor (L.config j).useOldRoute now)) :
    L.Ordered d now route flight' := by
  -- Whatever was backed before is no better than what is now told under the same number.
  have worse {j i : Fin n} {s s' : Standing} (backed : L.Backed now route j i s)
      (told : ∃ ρ, route j = some ρ ∧ ∃ x ∈ ρ.rows, x.hops ≠ 0 ∧ s' = x.toldOver (L.link j i) ∧
        (x.isGood = true → x = ρ.floor (L.config j).useOldRoute now)) : s.NoWorse s' := by
    obtain ⟨ρ, present, backs⟩ := backed
    obtain ⟨ρ', present', x, member, whole, rfl, -⟩ := told
    cases present.symm.trans present'
    exact backs.steady x member whole
  have flying : ∀ j i, ∀ s ∈ flight' j i, L.Backed now route j i s := by
    intro j i s member
    obtain ⟨new, same, told⟩ := more j i
    rw [same] at member
    rcases List.mem_append.mp member with before | fresh
    · exact ordered.flying j i s before
    · obtain ⟨ρ, present, x, row, whole, rfl, served⟩ := told s fresh
      exact ⟨ρ, present,
        (ordered.regular j ρ present).backs_told (L.step i _) row whole served⟩
  refine ⟨ordered.regular, ordered.direct, ordered.backed, flying, ?heard, ?queued⟩
  case heard =>
    intro i ρ j present whole via far s member
    obtain ⟨new, same, told⟩ := more j i
    rw [same] at member
    rcases List.mem_append.mp member with before | fresh
    · exact ordered.heard i ρ j present whole via far s before
    · have backed := ordered.backed i ρ ρ.row j present ρ.row_mem_rows whole via far
      exact worse backed (told s fresh)
  case queued =>
    intro j i
    obtain ⟨new, same, told⟩ := more j i
    rw [same]
    refine List.pairwise_append.mpr ⟨ordered.queued j i, ?_, ?_⟩
    · apply List.pairwise_of_forall_mem_list
      intro s first s' second
      have backed := flying j i s (same ▸ List.mem_append_right _ first)
      exact worse backed (told s' second)
    · intro s before s' fresh
      exact worse (ordered.flying j i s before) (told s' fresh)

/-- The route of one node advances, to rows that it had or that are backed. -/
theorem route_advanced (ordered : L.Ordered d now route flight)
    (others : ∀ k, k ≠ i → route' k = route k) (present' : route' i = some ρ')
    (regular : ρ'.Regular)
    (advances : ∀ ρ, route i = some ρ → ρ.Advances (L.config i).useOldRoute now now ρ')
    (direct : ∀ k, ρ'.row.hops ≠ 0 → ρ'.row.nextHopIp = d → L.ip k = d →
      ρ'.row.metric = L.link k i)
    (backed : ∀ x ∈ ρ'.rows, x.hops ≠ 0 → ∀ j, x.nextHopIp = L.ip j → L.ip j ≠ d →
      L.Backed now route j i x.standing)
    (heard : ∀ j, ρ'.row.hops ≠ 0 → ρ'.row.nextHopIp = L.ip j → L.ip j ≠ d →
      ∀ s ∈ flight j i, ρ'.row.standing.NoWorse s) :
    L.Ordered d now route' flight := by
  have still {j k : Fin n} {s : Standing} (before : L.Backed now route j k s) :
      L.Backed now route' j k s := by
    obtain ⟨ρ, present, backs⟩ := before
    by_cases mine : j = i
    · subst mine
      exact ⟨ρ', present', backs.advances (advances ρ present)⟩
    · exact ⟨ρ, (others j mine).trans present, backs⟩
  have known {k : Fin n} {ρ : Route} (present : route' k = some ρ) :
      (k = i ∧ ρ = ρ') ∨ route k = some ρ := by
    by_cases mine : k = i
    · subst mine
      exact .inl ⟨rfl, Option.some.inj (present.symm.trans present')⟩
    · exact .inr ((others k mine).symm.trans present)
  constructor
  case regular =>
    intro k ρ present
    rcases known present with ⟨rfl, rfl⟩ | before
    · exact regular
    · exact ordered.regular k ρ before
  case direct =>
    intro k ρ h present
    rcases known present with ⟨rfl, rfl⟩ | before
    · exact direct h
    · exact ordered.direct k ρ h before
  case backed =>
    intro k ρ x j present member whole via far
    rcases known present with ⟨rfl, rfl⟩ | before
    · exact still (backed x member whole j via far)
    · exact still (ordered.backed k ρ x j before member whole via far)
  case flying =>
    intro j k s member
    exact still (ordered.flying j k s member)
  case heard =>
    intro k ρ j present
    rcases known present with ⟨rfl, rfl⟩ | before
    · exact heard j
    · exact ordered.heard k ρ j before
  case queued => exact ordered.queued

theorem breaks (ordered : L.Ordered d now route flight) {r : RouteRow} {old : Option RouteRow}
    {timer : TimerSlot} (others : ∀ k, k ≠ i → route' k = route k) (present : route i = some ρ)
    (present' : route' i = some ⟨r, old, timer⟩) (coherent : r.Coherent) (gone : r.hops = 0)
    (newer : ρ.row.seq < r.seq) (kept : old = ρ.old ∨ old = some ρ.row) :
    L.Ordered d now route' flight := by
  have regular := ordered.regular i ρ present
  have before : ∀ x, old = some x → x ∈ ρ.rows := fun _ => Route.mem_rows_of_kept kept
  apply ordered.route_advanced others present'
  case regular =>
    refine ⟨coherent, fun x held => ⟨regular.coherent (before x held), ?_⟩⟩
    exact Nat.lt_of_le_of_lt (regular.seq_le (before x held)) (UInt32.lt_iff_toNat_lt.mp newer)
  case advances =>
    intro ρ₀ present₀
    cases present.symm.trans present₀
    exact regular.advances_newer newer kept fun whole => absurd gone whole
  case direct =>
    intro k whole
    exact absurd gone whole
  case backed =>
    intro x member whole j via far
    rcases Route.mem_rows.mp member with rfl | held
    · exact absurd gone whole
    · exact ordered.backed i ρ x j present (before x held) whole via far
  case heard =>
    intro j whole
    exact absurd gone whole

/-- One node accepts a row, from the destination or from a neighbour that backs it. -/
theorem accepts (ordered : L.Ordered d now route flight) {r accepted : RouteRow}
    {why : RouteReason} {timer : TimerSlot} (others : ∀ k, k ≠ i → route' k = route k)
    (coherent : r.Coherent) (whole : r.hops ≠ 0)
    (taken : RouteTable.verdict ((route i).map (·.row)) r = some (why, accepted))
    (present' : route' i = some ⟨accepted,
      (Predecessor.ofRoute (route i)).kept (L.config i).useOldRoute accepted.seq, timer⟩)
    (direct : ∀ k, r.nextHopIp = d → L.ip k = d → r.metric = L.link k i)
    (backed : ∀ j, r.nextHopIp = L.ip j → L.ip j ≠ d → L.Backed now route j i r.standing)
    (heard : ∀ j, r.nextHopIp = L.ip j → L.ip j ≠ d → ∀ s ∈ flight j i, r.standing.NoWorse s)
    (steady : ∀ ρ, route i = some ρ → ρ.row.hops ≠ 0 → ρ.row.nextHopIp = r.nextHopIp →
      ρ.row.seq = r.seq → r.metric.weight ≤ ρ.row.metric.weight) :
    L.Ordered d now route' flight := by
  obtain ⟨settledAt, rfl⟩ := RouteTable.verdict_row taken
  have sound : { r with settledAt }.Coherent := ⟨coherent.parity, coherent.broken, coherent.oneHop⟩
  cases present : route i with
  | none =>
    rw [present] at present'
    apply ordered.route_advanced others present'
    case regular => exact ⟨sound, nofun⟩
    case advances =>
      intro ρ present₀
      cases present.symm.trans present₀
    case direct => exact fun k _ => direct k
    case backed =>
      intro x member _ j via far
      rcases Route.mem_rows.mp member with rfl | held
      · exact backed j via far
      · cases held
    case heard => exact fun j _ => heard j
  | some ρ =>
    have regular := ordered.regular i ρ present
    rw [present] at taken present'
    rw [RouteTable.kept_ofRoute] at present'
    have later := RouteTable.verdict_later taken rfl
    apply ordered.route_advanced others present'
    case regular =>
      refine ⟨sound, fun x held => ?_⟩
      obtain ⟨row, older⟩ := regular.kept_older later held
      exact ⟨regular.coherent row, older⟩
    case advances =>
      intro ρ₀ present₀
      cases present.symm.trans present₀
      apply regular.advances_kept
      rcases (RouteTable.verdict_some taken).2 ρ.row rfl with newer | ⟨same, settles, why⟩
      · exact .inl newer
      · -- The number is even, so the row with the same number was not a broken one.
        have alive : ρ.row.hops ≠ 0 := fun gone =>
          whole (coherent.parity.mpr (same ▸ regular.row.parity.mp gone))
        refine .inr ⟨same.symm, settles, whole, alive, ?_⟩
        rcases why with via | better
        · exact steady ρ present alive via same
        · exact Nat.le_of_lt (Metric.betterThan_iff.mp better)
    case direct => exact fun k _ => direct k
    case backed =>
      intro x member alive j via far
      rcases Route.mem_rows.mp member with rfl | held
      · exact backed j via far
      · exact ordered.backed i ρ x j present (regular.kept_older later held).1 alive via far
    case heard => exact fun j _ => heard j

/-- Packets go to nodes that stand higher. -/
theorem forwards (ordered : L.Ordered d now route flight) {x : RouteRow}
    (present : route i = some ρ) (member : x ∈ ρ.rows) (good : x.isGood = true)
    (via : x.nextHopIp = L.ip j) (present' : route j = some ρ') (far : L.ip j ≠ d) :
    x.standing < (ρ'.floor (L.config j).useOldRoute now).standing := by
  have whole : x.hops ≠ 0 := (RouteRow.isGood_iff.mp good).1
  obtain ⟨ρ₀, present₀, backs⟩ := ordered.backed i ρ x j present member whole via far
  cases present₀.symm.trans present'
  exact backs.ahead (RouteRow.usable_of_isGood good)

end Ordered

end Layout

end WirelessMesh
