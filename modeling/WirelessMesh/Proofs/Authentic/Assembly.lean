import WirelessMesh.Proofs.Authentic.Sources

/-!
Networks of route tables that trust each other. The adverts of all tables may arrive anywhere, late,
in any order, more than once or never; links cost what they like at each arrival, and routes run out
at any time. Main statement: whatever is known of a destination anywhere is about a node that there
is, comes from a neighbour that was heard, and is no newer than the destination's own number.
-/
namespace WirelessMesh

/-- All frames that were ever sent, each with the node that sent it. A frame that is here may still
arrive, whether or not it has. -/
structure Archive where
  sent : List (NodeId × Frame) := []
  numbered : UInt64 := 0

def Archive.keep (a : Archive) (node : NodeId) (frame : Frame) : Archive :=
  { a with sent := a.sent ++ [(node, frame)] }

instance : Medium Archive where
  number a draft := (.ofDraft a.numbered draft, { a with numbered := a.numbered + 1 })
  send node frame air := { air with medium := air.medium.keep node frame }
  broadcast node frame air := { air with medium := air.medium.keep node frame }
  reject _ _ a := a

/-- The addresses of the nodes of a network, all different. -/
structure Roster (n : Nat) where
  ip : Fin n → IPv4
  eth : Fin n → EtherAddress
  ip_injective : Function.Injective ip
  eth_injective : Function.Injective eth

/-- The tables of a network, the frames that were sent, and those that each table has taken in. -/
structure Assembly (n : Nat) where
  tables : Fin n → RouteTable
  air : Air Archive
  heard : Fin n → List (NodeId × Frame)

variable {n : Nat}

namespace Assembly

/-- The own number of a node. -/
def own (a : Assembly n) (k : Fin n) : Nat := (a.tables k).seq.toNat

/-- One table has acted. -/
def put (a : Assembly n) (i : Fin n) (next : RouteTable × Air Archive) : Assembly n :=
  ⟨Function.update a.tables i next.1, next.2, a.heard⟩

/-- One table has taken in a frame. -/
def take (a : Assembly n) (i : Fin n) (sent : NodeId × Frame) (after : RouteTable.Considered) :
    Assembly n :=
  ⟨Function.update a.tables i after.table, { a.air with sim := after.sim },
    Function.update a.heard i (sent :: a.heard i)⟩

end Assembly

namespace Roster

/-- The networks that can be reached without an own number that wraps. Whatever else the simulator is
used for, its clock among it, may happen at any time. -/
inductive Reached (R : Roster n) : Assembly n → Prop
  | created {tables : Fin n → RouteTable} {config : Fin n → RoutingConfig}
      {random : Fin n → RandomSource}
      (done : ∀ i : Fin n, RouteTable.create i (R.ip i) (R.eth i) (config i) (random i) =
        .ok (tables i)) : R.Reached ⟨tables, ⟨.empty, {}⟩, fun _ => []⟩
  | elsewhere {a : Assembly n} (reached : R.Reached a) (sim : Simulator MeshEvent) :
      R.Reached { a with air := { a.air with sim } }
  | logged {a : Assembly n} (reached : R.Reached a) (i : Fin n) (log : RouteLog) :
      R.Reached (a.put i ((a.tables i).setLog log, a.air))
  | drained {a : Assembly n} (reached : R.Reached a) (i : Fin n) :
      R.Reached (a.put i ((a.tables i).drainLog.2, a.air))
  | started {a : Assembly n} (reached : R.Reached a) (i : Fin n) :
      R.Reached (a.put i (((a.tables i).start a.air.sim).1,
        { a.air with sim := ((a.tables i).start a.air.sim).2 }))
  | stopped {a : Assembly n} (reached : R.Reached a) (i : Fin n) :
      R.Reached (a.put i (((a.tables i).stop a.air.sim).1,
        { a.air with sim := ((a.tables i).stop a.air.sim).2 }))
  | fired {a : Assembly n} {i : Fin n} {kind : TimerKind} {next : RouteTable × Air Archive}
      (reached : R.Reached a) (room : kind = .advert → a.own i + 2 < 2 ^ 32)
      (done : (a.tables i).onTimer a.air kind = .ok next) : R.Reached (a.put i next)
  | heard {a : Assembly n} {i : Fin n} {node : NodeId} {frame : Frame} {advert : RouteAdvert}
      {link : Metric} {after : RouteTable.Considered} (reached : R.Reached a)
      (sent : (node, frame) ∈ a.air.medium.sent)
      (read : RouteAdvert.decode frame.payload = .ok advert)
      (done : (a.tables i).handleAdvert frame.source advert link a.air.sim = .ok after) :
      R.Reached (a.take i (node, frame) after)

/-- What is said of a destination is true of a node: its addresses, and a number that the node has
given itself, or the odd one behind it. -/
structure Names (R : Roster n) (a : Assembly n) (k : Fin n) (ip : IPv4) (eth : EtherAddress)
    (seq : UInt32) : Prop where
  ip : R.ip k = ip
  eth : R.eth k = eth
  even : isOddSeq seq = false → seq.toNat ≤ a.own k
  odd : isOddSeq seq = true → seq.toNat ≤ a.own k + 1

/-- A next hop is another node, from which a node has taken in an advert. -/
structure Heard (R : Roster n) (a : Assembly n) (i j : Fin n) (ip : IPv4) (eth : EtherAddress) :
    Prop where
  ip : R.ip j = ip
  eth : R.eth j = eth
  other : j ≠ i
  advert : ∃ frame advert, (j.val, frame) ∈ a.heard i ∧ frame.source = R.eth j ∧
    RouteAdvert.decode frame.payload = .ok advert

def sources (R : Roster n) (a : Assembly n) (i : Fin n) : Sources where
  tells ip eth seq := ∃ k, R.Names a k ip eth seq
  via ip eth := ∃ j, R.Heard a i j ip eth

structure Authentic (R : Roster n) (a : Assembly n) : Prop where
  node : ∀ i, (a.tables i).node = i
  ip : ∀ i, (a.tables i).ip = R.ip i
  eth : ∀ i, (a.tables i).eth = R.eth i
  draws : ∀ i, (a.tables i).DrawsOn (R.sources a i)
  sent : ∀ node frame, (node, frame) ∈ a.air.medium.sent →
    ∃ j : Fin n, j.val = node ∧ frame.source = R.eth j ∧
      ∀ e ∈ frame.advertised, ∃ k, R.Names a k e.ip e.eth e.seq

variable {R : Roster n} {a a' : Assembly n} {i j k : Fin n} {ip : IPv4} {eth : EtherAddress}
  {seq : UInt32} {t' : RouteTable} {next : RouteTable × Air Archive}

/-- No number falls if that of the table which acts does not. -/
theorem own_le (a' : Assembly n) (tables : a'.tables = Function.update a.tables i t')
    (later : a.own i ≤ t'.seq.toNat) (k : Fin n) : a.own k ≤ a'.own k := by
  unfold Assembly.own at later ⊢
  rw [tables]
  by_cases mine : k = i
  · subst mine
    rw [Function.update_self]
    exact later
  · rw [Function.update_of_ne mine]

theorem Names.later (names : R.Names a k ip eth seq) (later : a.own k ≤ a'.own k) :
    R.Names a' k ip eth seq where
  ip := names.ip
  eth := names.eth
  even even := Nat.le_trans (names.even even) later
  odd odd := Nat.le_trans (names.odd odd) (Nat.succ_le_succ later)

theorem Names.le (names : R.Names a k ip eth seq) : seq.toNat ≤ a.own k + 1 := by
  cases parity : isOddSeq seq with
  | true => exact names.odd parity
  | false => exact Nat.le_succ_of_le (names.even parity)

/-- A node breaks a route under the number behind the one that it knows. -/
theorem Names.breaks (names : R.Names a k ip eth seq) (even : isOddSeq seq = false) :
    R.Names a k ip eth (seq + 1) := by
  have known := names.even even
  have bound := seq.toNat_lt
  have number : (seq + 1).toNat = seq.toNat + 1 := by
    rw [RouteRow.isOddSeq_false_iff] at even
    rw [UInt32.toNat_add, UInt32.toNat_one]
    omega
  refine ⟨names.ip, names.eth, fun even' => ?_, fun _ => by omega⟩
  rw [RouteRow.isOddSeq_false_iff] at even even'
  omega

theorem Heard.later (heard : R.Heard a i j ip eth) (more : a.heard i ⊆ a'.heard i) :
    R.Heard a' i j ip eth := by
  obtain ⟨frame, advert, member, whole⟩ := heard.advert
  exact ⟨heard.ip, heard.eth, heard.other, frame, advert, more member, whole⟩

theorem sources_coherent (R : Roster n) (a : Assembly n) (i : Fin n) : (R.sources a i).Coherent where
  breaks := fun ⟨k, names⟩ even => ⟨k, names.breaks even⟩
  agree := by
    rintro ip eth eth' seq seq' ⟨k, names⟩ ⟨k', names'⟩
    obtain rfl := R.ip_injective (names.ip.trans names'.ip.symm)
    exact ⟨k, names.ip, names.eth, names'.even, names'.odd⟩

theorem draws_later {t : RouteTable} (draws : t.DrawsOn (R.sources a i))
    (grows : ∀ k, a.own k ≤ a'.own k) (more : a.heard i ⊆ a'.heard i) :
    t.DrawsOn (R.sources a' i) :=
  draws.mono (fun ⟨k, names⟩ => ⟨k, names.later (grows k)⟩) fun ⟨j, hears⟩ => ⟨j, hears.later more⟩

namespace Authentic

theorem created {tables : Fin n → RouteTable} {config : Fin n → RoutingConfig}
    {random : Fin n → RandomSource}
    (done : ∀ i : Fin n, RouteTable.create i (R.ip i) (R.eth i) (config i) (random i) =
      .ok (tables i)) : R.Authentic ⟨tables, ⟨.empty, {}⟩, fun _ => []⟩ := by
  have fresh (i : Fin n) := RouteTable.create_eq (done i)
  refine ⟨fun i => ?_, fun i => ?_, fun i => ?_, fun i d ρ present => ?_, nofun⟩
  · show (tables i).node = i
    rw [fresh i]
  · show (tables i).ip = R.ip i
    rw [fresh i]
  · show (tables i).eth = R.eth i
    rw [fresh i]
  · have none : (tables i).routes.get? d = none := by
      rw [fresh i]
      rfl
    cases none.symm.trans present

/-- A table changes: it draws on what it may know by then, and its number does not fall. -/
theorem table_changed (authentic : R.Authentic a) (tables : a'.tables = Function.update a.tables i t')
    (node : t'.node = (a.tables i).node) (ip : t'.ip = (a.tables i).ip)
    (eth : t'.eth = (a.tables i).eth) (later : a.own i ≤ t'.seq.toNat)
    (heard : ∀ j, a.heard j ⊆ a'.heard j) (draws : t'.DrawsOn (R.sources a' i))
    (sent : ∀ node frame, (node, frame) ∈ a'.air.medium.sent →
      (node, frame) ∈ a.air.medium.sent ∨
        (node = t'.node ∧ frame.source = t'.eth ∧
          ∀ e ∈ frame.advertised, ∃ k, R.Names a' k e.ip e.eth e.seq)) : R.Authentic a' := by
  have here : a'.tables i = t' := by rw [tables, Function.update_self]
  have others {j : Fin n} (other : j ≠ i) : a'.tables j = a.tables j := by
    rw [tables, Function.update_of_ne other]
  have grows := own_le a' tables later
  refine ⟨fun j => ?_, fun j => ?_, fun j => ?_, fun j => ?_, fun node' frame member => ?_⟩
  · by_cases mine : j = i
    · rw [mine, here, node, authentic.node]
    · rw [others mine, authentic.node]
  · by_cases mine : j = i
    · rw [mine, here, ip, authentic.ip]
    · rw [others mine, authentic.ip]
  · by_cases mine : j = i
    · rw [mine, here, eth, authentic.eth]
    · rw [others mine, authentic.eth]
  · by_cases mine : j = i
    · rw [mine, here]
      exact draws
    · rw [others mine]
      exact draws_later (authentic.draws j) grows (heard j)
  · rcases sent node' frame member with before | ⟨rfl, source, each⟩
    · obtain ⟨j, same, source, each⟩ := authentic.sent node' frame before
      refine ⟨j, same, source, fun e offered => ?_⟩
      obtain ⟨k, names⟩ := each e offered
      exact ⟨k, names.later (grows k)⟩
    · exact ⟨i, by rw [node, authentic.node], by rw [source, eth, authentic.eth], each⟩

theorem elsewhere (authentic : R.Authentic a) (sim : Simulator MeshEvent) :
    R.Authentic { a with air := { a.air with sim } } := by
  refine ⟨authentic.node, authentic.ip, authentic.eth, fun i => ?_, fun node frame member => ?_⟩
  · exact draws_later (authentic.draws i) (fun _ => Nat.le_refl _) (List.Subset.refl _)
  · obtain ⟨j, same, source, each⟩ := authentic.sent node frame member
    refine ⟨j, same, source, fun e offered => ?_⟩
    obtain ⟨k, names⟩ := each e offered
    exact ⟨k, names.later (Nat.le_refl _)⟩

theorem quiet (authentic : R.Authentic a) (node : next.1.node = (a.tables i).node)
    (ip : next.1.ip = (a.tables i).ip) (eth : next.1.eth = (a.tables i).eth)
    (seq : next.1.seq = (a.tables i).seq) (routes : next.1.routes = (a.tables i).routes)
    (medium : next.2.medium = a.air.medium) : R.Authentic (a.put i next) := by
  have later : a.own i ≤ next.1.seq.toNat := Nat.le_of_eq (congrArg UInt32.toNat seq.symm)
  have grows := own_le (a.put i next) rfl later
  refine authentic.table_changed rfl node ip eth later
    (fun _ => List.Subset.refl _) ?_ fun node frame member => ?_
  · exact draws_later ((authentic.draws i).congr ip routes) grows (List.Subset.refl _)
  · have same : (a.put i next).air.medium = a.air.medium := medium
    exact .inl (same ▸ member)

theorem rewrites {sim : Simulator MeshEvent} (authentic : R.Authentic a)
    (draws : t'.DrawsOn (R.sources a i)) (kept : (a.tables i).Kept t') :
    R.Authentic (a.put i (t', { a.air with sim })) := by
  have later : a.own i ≤ t'.seq.toNat := Nat.le_of_eq (congrArg UInt32.toNat kept.seq.symm)
  have grows := own_le (a.put i (t', { a.air with sim })) rfl later
  exact authentic.table_changed rfl kept.node kept.ip kept.eth later (fun _ => List.Subset.refl _)
    (draws_later draws grows (List.Subset.refl _)) fun _ _ member => .inl member

theorem stopped (authentic : R.Authentic a) (i : Fin n) (sim : Simulator MeshEvent) :
    R.Authentic (a.put i (((a.tables i).stop a.air.sim).1, { a.air with sim })) := by
  refine authentic.table_changed rfl rfl rfl rfl (Nat.le_refl _) (fun _ => List.Subset.refl _) ?_
    fun _ _ member => .inl member
  intro d ρ present
  cases present

/-- A table sends its advert, under its number or under a newer one. -/
theorem tells (authentic : R.Authentic a) (node : next.1.node = (a.tables i).node)
    (ip : next.1.ip = (a.tables i).ip) (eth : next.1.eth = (a.tables i).eth)
    (routes : next.1.routes = (a.tables i).routes) (later : a.own i ≤ next.1.seq.toNat)
    (sent : ∃ id, next.2.medium.sent = a.air.medium.sent ++ [((a.tables i).node,
      ⟨id, .broadcast, (a.tables i).eth, FrameType.advert,
        ({ a.tables i with seq := next.1.seq }.buildAdvert a.air.now).encode⟩)]) :
    R.Authentic (a.put i next) := by
  have grows := own_le (a.put i next) rfl later
  have draws : (a.tables i).DrawsOn (R.sources (a.put i next) i) :=
    draws_later (authentic.draws i) grows (List.Subset.refl _)
  refine authentic.table_changed rfl node ip eth later (fun _ => List.Subset.refl _)
    (draws.congr ip routes) fun node' frame member => ?_
  obtain ⟨id, same⟩ := sent
  have all : (a.put i next).air.medium.sent = _ := same
  rw [all] at member
  rcases List.mem_append.mp member with before | fresh
  · exact .inl before
  · rw [List.mem_singleton, Prod.mk.injEq] at fresh
    obtain ⟨rfl, rfl⟩ := fresh
    refine .inr ⟨node.symm, eth.symm, fun e offered => ?_⟩
    rw [Frame.advertised_encode] at offered
    have renewed : { a.tables i with seq := next.1.seq }.DrawsOn (R.sources (a.put i next) i) :=
      draws.congr rfl rfl
    have number : (a.put i next).own i = next.1.seq.toNat := by
      simp only [Assembly.own, Assembly.put, Function.update_self]
    exact renewed.told ⟨i, (authentic.ip i).symm, (authentic.eth i).symm,
      fun _ => Nat.le_of_eq number.symm, fun _ => number ▸ Nat.le_succ _⟩
      (List.mem_of_mem_take offered)

theorem fired (authentic : R.Authentic a) {kind : TimerKind}
    (room : kind = .advert → a.own i + 2 < 2 ^ 32)
    (done : (a.tables i).onTimer a.air kind = .ok next) : R.Authentic (a.put i next) := by
  cases kind with
  | advert =>
    cases done
    have number : ((a.tables i).seq + 2).toNat = a.own i + 2 := by
      rw [UInt32.toNat_add]
      exact Nat.mod_eq_of_lt (room rfl)
    refine authentic.tells rfl rfl rfl rfl ?_ ⟨_, rfl⟩
    exact Nat.le_trans (Nat.le_add_right _ 2) (Nat.le_of_eq number.symm)
  | trigger =>
    cases done
    exact authentic.tells rfl rfl rfl rfl (Nat.le_refl _) ⟨_, rfl⟩
  | routeDump =>
    cases done
    obtain ⟨dumpTimer, same⟩ := RouteTable.armDump_eq ((a.tables i).note a.air.sim.now
      (.routeDump (((a.tables i).servedRows a.air.sim.now).map .ofRow))) a.air.sim
    have dumped : ((a.tables i).onDumpTimer a.air.sim).1 = _ := same
    simp only [dumped]
    exact authentic.quiet rfl rfl rfl rfl rfl rfl
  | expiry ip =>
    have done : ((a.tables i).onExpiry ip a.air.sim).map
        (fun after => (after.1, { a.air with sim := after.2 })) = .ok next := done
    cases expired : (a.tables i).onExpiry ip a.air.sim with
    | error _ =>
      rw [expired] at done
      cases done
    | ok after =>
      rw [expired] at done
      cases done
      obtain ⟨draws, kept⟩ := (authentic.draws i).onExpiry (R.sources_coherent a i) expired
      exact authentic.rewrites draws kept
  | discovery | probeRound | probeNext =>
    cases done
    exact authentic.quiet rfl rfl rfl rfl rfl rfl

theorem heard (authentic : R.Authentic a) {node : NodeId} {frame : Frame} {advert : RouteAdvert}
    {link : Metric} {after : RouteTable.Considered} (sent : (node, frame) ∈ a.air.medium.sent)
    (read : RouteAdvert.decode frame.payload = .ok advert)
    (done : (a.tables i).handleAdvert frame.source advert link a.air.sim = .ok after) :
    R.Authentic (a.take i (node, frame) after) := by
  obtain ⟨j, rfl, source, each⟩ := authentic.sent node frame sent
  have more (k : Fin n) : a.heard k ⊆ (a.take i (j.val, frame) after).heard k := by
    simp only [Assembly.take]
    by_cases mine : k = i
    · subst mine
      rw [Function.update_self]
      exact List.subset_cons_self _ _
    · rw [Function.update_of_ne mine]
      exact List.Subset.refl _
  -- What the node knew before, and the sender of the frame beside those heard before.
  let S : Sources :=
    ⟨(R.sources a i).tells, fun ip eth => ∃ l, R.Heard (a.take i (j.val, frame) after) i l ip eth⟩
  have coherent : S.Coherent := ⟨(R.sources_coherent a i).breaks, (R.sources_coherent a i).agree⟩
  have draws : (a.tables i).DrawsOn S :=
    (authentic.draws i).mono id fun ⟨l, hears⟩ => ⟨l, hears.later (more i)⟩
  have told : ∀ e ∈ advert.entries, S.tells e.ip e.eth e.seq := by
    intro e member
    exact each e (by rw [Frame.advertised, read]; exact member)
  have direct (me : AdvertEntry)
      (counts : (a.tables i).advertiser? frame.source advert = some me) : S.via me.ip me.eth := by
    obtain ⟨member, own, -, -, foreign, -⟩ := RouteTable.advertiser?_some counts
    obtain ⟨k, names⟩ := told me member
    -- The entry of the sender has the address of the frame, so it is about the sender.
    obtain rfl : k = j := R.eth_injective (names.eth.trans (own.trans source))
    refine ⟨k, names.ip, names.eth, fun mine => foreign ?_, frame, advert, ?_, source,
      read⟩
    · rw [authentic.eth, ← mine, names.eth]
    · show (k.val, frame) ∈ Function.update a.heard i ((k.val, frame) :: a.heard i) i
      rw [Function.update_self]
      exact List.mem_cons_self
  obtain ⟨draws, kept⟩ := draws.handleAdvert coherent told direct done
  have later : a.own i ≤ after.table.seq.toNat :=
    Nat.le_of_eq (congrArg UInt32.toNat kept.seq.symm)
  have grows := own_le (a.take i (j.val, frame) after) rfl later
  exact authentic.table_changed rfl kept.node kept.ip kept.eth later more
    (draws.mono (fun ⟨k, names⟩ => ⟨k, names.later (grows k)⟩) id) fun _ _ member => .inl member

end Authentic

/-- Every network that can be reached is authentic. -/
theorem Reached.authentic (reached : R.Reached a) : R.Authentic a := by
  induction reached with
  | created done => exact .created done
  | elsewhere _ sim ih => exact ih.elsewhere sim
  | logged _ i log ih => exact ih.quiet rfl rfl rfl rfl rfl rfl
  | @drained a _ i ih =>
    unfold RouteTable.drainLog
    cases (a.tables i).log with
    | none => exact ih.quiet rfl rfl rfl rfl rfl rfl
    | some log => exact ih.quiet rfl rfl rfl rfl rfl rfl
  | @started a _ i ih =>
    have armed := RouteTable.armDump_eq { a.tables i with
      random := ((a.tables i).random.below (a.tables i).config.periodMillis).2
      advertTimer := ((a.tables i).advertTimer.rearm a.air.sim
        (.ofMillis ((a.tables i).random.below (a.tables i).config.periodMillis).1)
        (.timer (a.tables i).node .advert)).1 }
      ((a.tables i).advertTimer.rearm a.air.sim
        (.ofMillis ((a.tables i).random.below (a.tables i).config.periodMillis).1)
        (.timer (a.tables i).node .advert)).2
    obtain ⟨dumpTimer, same⟩ := armed
    have begun : ((a.tables i).start a.air.sim).1 = _ := same
    simp only [begun]
    exact ih.quiet rfl rfl rfl rfl rfl rfl
  | stopped _ i ih => exact ih.stopped i _
  | fired _ room done ih => exact ih.fired room done
  | heard _ sent read done ih => exact ih.heard sent read done

/-- Rows and adverts on their way are authentic, as long as no own number wraps: they name a node and
a number no newer than its own, or the odd one behind; no node has rows for itself, and all its next
hops are nodes that it heard. So the next periodic advert of a node is newer than all of them. -/
theorem routes_authentic (reached : R.Reached a) :
    (∀ i d ρ, (a.tables i).routes.get? d = some ρ → d ≠ R.ip i ∧ ∀ x ∈ ρ.rows, x.ip = d ∧
      (∃ k, R.Names a k d x.eth x.seq) ∧ ∃ j, R.Heard a i j x.nextHopIp x.nextHopEth) ∧
    (∀ node frame, (node, frame) ∈ a.air.medium.sent →
      ∀ e ∈ frame.advertised, ∃ k, R.Names a k e.ip e.eth e.seq) ∧
    ∀ k, a.own k + 2 < 2 ^ 32 → ∃ (id : UInt64) (advert : RouteAdvert) (me : AdvertEntry),
      ((a.tables k).onAdvertTimer a.air).2.medium.sent = a.air.medium.sent ++
        [(k.val, ⟨id, .broadcast, R.eth k, FrameType.advert, advert.encode⟩)] ∧
      advert.entries.head? = some me ∧ me.ip = R.ip k ∧ me.seq.toNat = a.own k + 2 ∧
      (∀ i d ρ, (a.tables i).routes.get? d = some ρ → ∀ x ∈ ρ.rows, x.ip = R.ip k →
        x.seq < me.seq) ∧
      ∀ node frame, (node, frame) ∈ a.air.medium.sent → ∀ e ∈ frame.advertised, e.ip = R.ip k →
        e.seq < me.seq := by
  have authentic := reached.authentic
  refine ⟨fun i d ρ present => ?_, fun node frame member => ?_, fun k room => ?_⟩
  · obtain ⟨other, each⟩ := authentic.draws i d ρ present
    refine ⟨authentic.ip i ▸ other, fun x member => ?_⟩
    obtain ⟨rfl, tells, via⟩ := each x member
    exact ⟨rfl, tells, via⟩
  · obtain ⟨-, -, -, each⟩ := authentic.sent node frame member
    exact each
  · have number : ((a.tables k).seq + 2).toNat = a.own k + 2 := by
      rw [UInt32.toNat_add]
      exact Nat.mod_eq_of_lt room
    -- Whoever names the node's address names the node.
    have newer {l : Fin n} {ip : IPv4} {eth : EtherAddress} {seq : UInt32}
        (names : R.Names a l ip eth seq) (here : ip = R.ip k) : seq < (a.tables k).seq + 2 := by
      obtain rfl := R.ip_injective (names.ip.trans here)
      have := names.le
      exact UInt32.lt_iff_toNat_lt.mpr (by omega)
    refine ⟨a.air.medium.numbered,
      { a.tables k with seq := (a.tables k).seq + 2 }.buildAdvert a.air.now,
      { a.tables k with seq := (a.tables k).seq + 2 }.selfEntry, ?_, rfl, authentic.ip k, number,
      fun i d ρ present x member here => ?_, fun node frame member e offered here => ?_⟩
    · rw [← authentic.eth k, ← authentic.node k]
      rfl
    · obtain ⟨-, ⟨l, names⟩, -⟩ := (authentic.draws i d ρ present).2 x member
      exact newer names here
    · obtain ⟨-, -, -, each⟩ := authentic.sent node frame member
      obtain ⟨l, names⟩ := each e offered
      exact newer names here

def trio : Roster 3 where
  ip i := .ofIndex i
  eth i := .ofIndex i
  ip_injective := three_ips
  eth_injective := three_eths

def trioTables (i : Fin 3) : RouteTable :=
  ⟨i, trio.ip i, trio.eth i, {}, 0, .empty, .ofSeed 1, none, none, none, none, none⟩

set_option maxRecDepth 4000 in
/-- The last of three nodes is heard by the second, and the second by the first. The route of the
second runs out, and the first hears of it: its row then has the odd number behind the one that the
last node gave itself, and still goes by way of the second. -/
theorem broken_route_authentic :
    ∃ a, trio.Reached a ∧ a.own 2 = 2 ∧
      ∃ ρ, (a.tables 0).routes.get? (trio.ip 2) = some ρ ∧ ρ.row.seq = 3 ∧
        ∃ j, trio.Heard a 0 j ρ.row.nextHopIp ρ.row.nextHopEth := by
  have created : trio.Reached ⟨trioTables, ⟨.empty, {}⟩, fun _ => []⟩ :=
    .created fun i => (rfl : RouteTable.create i _ _ {} (.ofSeed 1) = .ok (trioTables i))
  have last := created.fired (i := 2) (fun _ => by decide)
    (rfl : RouteTable.onTimer _ _ .advert = _)
  have near := last.heard (i := 1) (List.mem_cons_self : ((2, _) : NodeId × Frame) ∈ _) rfl
    (rfl : RouteTable.handleAdvert _ _ _ (.good 10) _ = _)
  have passed := near.fired (i := 1) (nofun : TimerKind.trigger = .advert → _) rfl
  have far := passed.heard (i := 0)
    (List.mem_append_right _ List.mem_cons_self : ((1, _) : NodeId × Frame) ∈ _) rfl
    (rfl : RouteTable.handleAdvert _ _ _ (.good 10) _ = _)
  -- The event of the second node's route is taken back, so that its timer is no longer to fire.
  have cancelled {a : Assembly 3} (reached : trio.Reached a) :
      trio.Reached { a with air := { a.air with sim := (a.air.sim.cancel 1).2 } } :=
    reached.elsewhere _
  have late := cancelled far
  have broke := late.fired (i := 1) (nofun : TimerKind.expiry (trio.ip 2) = .advert → _) rfl
  have again := broke.fired (i := 1) (nofun : TimerKind.trigger = .advert → _) rfl
  have broken := again.heard (i := 0)
    (List.mem_append_right _ List.mem_cons_self : ((1, _) : NodeId × Frame) ∈ _) rfl
    (rfl : RouteTable.handleAdvert _ _ _ (.good 10) _ = _)
  obtain ⟨-, each⟩ := (routes_authentic broken).1 0 (trio.ip 2) _ rfl
  exact ⟨_, broken, rfl, _, rfl, rfl, (each _ List.mem_cons_self).2.2⟩

end Roster

end WirelessMesh
