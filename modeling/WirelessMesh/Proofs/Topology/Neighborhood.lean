import WirelessMesh.Proofs.Topology.Buildable
import WirelessMesh.Proofs.Topology.Copies

namespace WirelessMesh

/-- Numbers up to the most nodes that a mesh can have give network addresses of their own. -/
private theorem IPv4.ofIndex_inj {i j : Nat} (few : i < Scenario.maxNodes) (few' : j < Scenario.maxNodes)
    (same : IPv4.ofIndex i = .ofIndex j) : i = j := by
  simp only [IPv4.ofIndex, IPv4.mk.injEq, true_and, ← UInt8.toNat_inj, UInt8.toNat_ofNat'] at same
  simp only [Scenario.maxNodes] at few few'
  omega

namespace Network

variable {net : Network} {count : Nat}

/-- A network of so many nodes, no two of which share an address, and each of which is found by its own. -/
structure Registered (net : Network) (count : Nat) : Prop where
  nodeCount : net.nodeCount = count
  distinct : ∀ i j m n, net.node? i = some m → net.node? j = some n → m.eth = n.eth ∨ m.ip = n.ip → i = j
  found : ∀ i n, net.node? i = some n → net.nodeByEth? n.eth = some i

/-- Nodes that have the addresses of their numbers do not share them, as long as there are not too many. -/
private theorem registered_of_addressed (few : net.nodes.size ≤ Scenario.maxNodes)
    (addressed : ∀ i n, net.node? i = some n → n.eth = .ofIndex i ∧ n.ip = .ofIndex i) :
    net.Registered net.nodes.size := by
  have below {i : NodeId} {n : MeshNode} (present : net.node? i = some n) : i < Scenario.maxNodes :=
    Nat.lt_of_lt_of_le (node?_lt present) few
  have alone {i j : NodeId} {m n : MeshNode} (here : net.node? i = some m) (there : net.node? j = some n)
      (same : m.eth = n.eth) : i = j := by
    rw [(addressed i m here).1, (addressed j n there).1] at same
    exact ofIndex_inj (below here) (below there) same
  refine ⟨rfl, fun i j m n here there same => ?_, fun i n present => ?_⟩
  · obtain same | same := same
    · exact alone here there same
    · rw [(addressed i m here).2, (addressed j n there).2] at same
      exact IPv4.ofIndex_inj (below here) (below there) same
  · exact nodeBelow?_of_alone present rfl (fun j m there same => alone there present same) (node?_lt present)

/-- A network in which no node lists a neighbour twice, neighbours list each other, and all links are of one
kind: latency and bandwidth are as asked for, the loss as well, but no more than all, and a link is free. -/
structure Meshed (net : Network) (link : LinkOptions) : Prop where
  apart : ∀ a, (net.neighbors a).Nodup
  bothWays : ∀ a b, b ∈ net.neighbors a → a ∈ net.neighbors b
  linked : ∀ a b, b ∈ net.neighbors a → net.link? a b = some
    { source := a
      target := b
      latency := link.latency
      bandwidth := link.bandwidth
      busyUntil := .zero
      lossPercent := min link.lossPercent 100
      salt := (UInt64.ofNat a <<< 32) ^^^ UInt64.ofNat b }

theorem InStep.withNodes (inStep : net.InStep) (newcomers : List MeshNode) :
    (net.withNodes newcomers).InStep := by
  induction newcomers generalizing net with
  | nil => exact inStep
  | cons n rest ih => exact ih (inStep.withNode n)

theorem InStep.withLinks (inStep : net.InStep) (links : List Link)
    (within : ∀ link ∈ links, link.source < net.outlets.size) : (net.withLinks links).InStep := by
  induction links generalizing net with
  | nil => exact inStep
  | cons link rest ih =>
    obtain ⟨here, later⟩ := List.forall_mem_cons.mp within
    refine ih (inStep.withLink here) fun other member => ?_
    rw [Network.withLink, Array.size_modify]
    exact later other member

private theorem neighbors_of_le {source : NodeId} (outside : net.outlets.size ≤ source) :
    net.neighbors source = [] := by
  rw [neighbors, outletsOf, Array.getElem?_eq_none outside]
  rfl

end Network

namespace Topology

variable {asked : List (Nat × Nat × LinkOptions)} {link : LinkOptions}

theorem mem_linksFor {first : Nat} {made : Link} : made ∈ linksFor first asked ↔
    ∃ l ∈ asked, made = linkFrom (first + l.1) (first + l.2.1) l.2.2 ∨
      made = linkFrom (first + l.2.1) (first + l.1) l.2.2 := by
  simp [linksFor]

/-- The other ends of the links that were asked for with one end at a node. -/
def endsAt (i : Nat) (asked : List (Nat × Nat × LinkOptions)) : List Nat :=
  asked.flatMap fun (a, b, _) => (if a = i then [b] else []) ++ (if b = i then [a] else [])

theorem mem_endsAt {i j : Nat} :
    j ∈ endsAt i asked ↔ ∃ l ∈ asked, (l.1 = i ∧ l.2.1 = j) ∨ (l.2.1 = i ∧ l.1 = j) := by
  simp only [endsAt, List.mem_flatMap, List.mem_append]
  refine exists_congr fun l => and_congr_right fun _ => or_congr ?_ ?_
  · split <;> simp_all [eq_comm]
  · split <;> simp_all [eq_comm]

private theorem map_target_linksFor (i : Nat) (asked : List (Nat × Nat × LinkOptions)) :
    ((linksFor 0 asked).filter (·.source = i)).map (·.target) = endsAt i asked := by
  induction asked with
  | nil => rfl
  | cons l rest ih =>
    rw [linksFor, List.flatMap_cons, List.filter_append, List.map_append, endsAt, List.flatMap_cons]
    refine congrArg₂ (· ++ ·) ?_ ih
    simp only [linkFrom, Link.create, Nat.zero_add, List.filter_cons, decide_eq_true_eq]
    by_cases near : l.1 = i
    · by_cases far : l.2.1 = i
      · simp [near, far]
      · simp [near, far]
    · by_cases far : l.2.1 = i
      · simp [near, far]
      · simp [near, far]

theorem endsAt_of_le {count i : Nat} (within : ∀ l ∈ asked, l.1 < count ∧ l.2.1 < count)
    (outside : count ≤ i) : endsAt i asked = [] := by
  refine List.eq_nil_iff_forall_not_mem.mpr fun j member => ?_
  obtain ⟨l, listed, ⟨rfl, -⟩ | ⟨rfl, -⟩⟩ := mem_endsAt.mp member
  · exact absurd (within l listed).1 (Nat.not_lt.mpr outside)
  · exact absurd (within l listed).2 (Nat.not_lt.mpr outside)

/-- A network that has the links that were asked for: each node lists the other ends of those it was given. -/
structure Laid (net : Network) (asked : List (Nat × Nat × LinkOptions)) : Prop where
  inStep : net.InStep
  links : net.links.toList = linksFor 0 asked
  neighbors : ∀ i, net.neighbors i = endsAt i asked

variable {net : Network} {count : Nat} {config : Nat → NodeConfig} {log : Bool}

private theorem laid_withLinks (newcomers : List MeshNode)
    (within : ∀ l ∈ asked, l.1 < newcomers.length ∧ l.2.1 < newcomers.length) :
    Laid ((Network.empty.withNodes newcomers).withLinks (linksFor 0 asked)) asked := by
  have outlets : (Network.empty.withNodes newcomers).outlets.size = newcomers.length :=
    (Network.size_outlets_withNodes _ _).trans (Nat.zero_add _)
  refine ⟨(Network.InStep.empty.withNodes newcomers).withLinks _ fun made member => ?_, ?_, fun i => ?_⟩
  · obtain ⟨l, listed, rfl | rfl⟩ := mem_linksFor.mp member
    · simpa [linkFrom, Link.create, outlets] using (within l listed).1
    · simpa [linkFrom, Link.create, outlets] using (within l listed).2
  · rw [Network.links_withLinks, Network.links_withNodes]
    rfl
  · by_cases below : i < newcomers.length
    · rw [Network.neighbors_withLinks _ (outlets.symm ▸ below), map_target_linksFor, Network.neighbors,
        Network.outletsOf_withNodes]
      rfl
    · have outside := Nat.not_lt.mp below
      rw [endsAt_of_le within outside, Network.neighbors_of_le]
      rw [Network.size_outlets_withLinks, outlets]
      exact outside

/-- Links that are all alike, no two of them between the same nodes, make neighbours of their ends. -/
theorem Laid.meshed (laid : Laid net asked) (uniform : ∀ l ∈ asked, l.2.2 = link)
    (simple : ∀ i, (endsAt i asked).Nodup) : net.Meshed link where
  apart a := laid.neighbors a ▸ simple a
  bothWays a b listed := by
    rw [laid.neighbors, mem_endsAt] at listed ⊢
    obtain ⟨l, member, ends⟩ := listed
    exact ⟨l, member, ends.symm.imp And.symm And.symm⟩
  linked a b listed := by
    -- Whichever link is the last one between the two, it was made as all of them.
    obtain ⟨id, found⟩ := Network.InStep.exists_linkId? listed
    obtain ⟨made, present, rfl, rfl⟩ := laid.inStep.linkId? found
    rw [Network.link?, found]
    refine present.trans (congrArg some ?_)
    have member := Array.mem_of_getElem? present
    rw [← Array.mem_toList_iff, laid.links] at member
    obtain ⟨l, wanted, rfl | rfl⟩ := mem_linksFor.mp member
    · rw [uniform l wanted]
      rfl
    · rw [uniform l wanted]
      rfl

theorem Populated.registered (populated : Populated net config log)
    (few : net.nodes.size ≤ Scenario.maxNodes)
    (addressed : ∀ i, (config i).eth = .ofIndex i ∧ (config i).ip = .ofIndex i) :
    net.Registered net.nodes.size := by
  refine Network.registered_of_addressed few fun i n present => ?_
  obtain ⟨m, created, there⟩ := populated.made i (Network.node?_lt present)
  have made := MeshNode.made_of_create created
  have logged : (if log then m.withRouteLog else m).eth = m.eth ∧
      (if log then m.withRouteLog else m).ip = m.ip := by
    cases log
    · exact ⟨rfl, rfl⟩
    · exact ⟨rfl, rfl⟩
  rw [there] at present
  cases present
  exact ⟨logged.1.trans (made.eth.trans (addressed i).1), logged.2.trans (made.ip.trans (addressed i).2)⟩

/-- Building nodes with addresses of their own, and links between them that are all alike. -/
private theorem build_meshes (few : count ≤ Scenario.maxNodes)
    (addressed : ∀ i, (config i).eth = .ofIndex i ∧ (config i).ip = .ofIndex i)
    (valid : ∀ i, (config i).validate = .ok ()) (within : ∀ l ∈ asked, l.1 < count ∧ l.2.1 < count)
    (uniform : ∀ l ∈ asked, l.2.2 = link) (simple : ∀ i < count, (endsAt i asked).Nodup) (log : Bool) :
    ∃ net, build count config log asked .empty = (.ok (List.range count), net) ∧
      net.Registered count ∧ net.Meshed link ∧ ∀ i, net.neighbors i = endsAt i asked := by
  obtain ⟨newcomers, built, size, populated⟩ := build_empty (fun i _ => valid i) within log
  have length : newcomers.length = count := by
    rw [← size, Network.nodes_withLinks, Network.size_withNodes]
    exact (Nat.zero_add _).symm
  have laid := laid_withLinks newcomers (length.symm ▸ within)
  have apart (i : Nat) : (endsAt i asked).Nodup := by
    by_cases below : i < count
    · exact simple i below
    · rw [endsAt_of_le within (Nat.not_lt.mp below)]
      exact .nil
  subst size
  exact ⟨_, built, populated.registered few addressed, laid.meshed uniform apart, laid.neighbors⟩

/-- Where only the numbers at and right before `k` count, what is listed for a range is what they list. -/
theorem flatMap_range_beside {α : Type} {f : Nat → List α} {n k : Nat}
    (others : ∀ j < n, j ≠ k → j + 1 ≠ k → f j = []) : (List.range n).flatMap f =
      (if 0 < k ∧ k ≤ n then f (k - 1) else []) ++ (if k < n then f k else []) := by
  -- The range grows at its end: first past `k - 1`, then past `k`.
  induction n with
  | zero =>
    have none : ¬ (0 < k ∧ k ≤ 0) := by omega
    rw [if_neg none, if_neg (Nat.not_lt_zero k)]
    rfl
  | succ n ih =>
    rw [List.range_succ, List.flatMap_append, ih fun j below => others j (Nat.lt_succ_of_lt below),
      List.flatMap_singleton]
    by_cases here : n = k
    · subst here
      simp
    · by_cases next : n + 1 = k
      · subst next
        simp
      · have more : 0 < k ∧ k ≤ n + 1 ↔ 0 < k ∧ k ≤ n := by omega
        have more' : k < n + 1 ↔ k < n := by omega
        rw [others n (Nat.lt_succ_self n) here next, List.append_nil, if_congr more rfl rfl,
          if_congr more' rfl rfl]

/-- The nodes before and after one in a line. -/
def lineNeighbors (nodes i : Nat) : List Nat :=
  (if 0 < i then [i - 1] else []) ++ (if i + 1 < nodes then [i + 1] else [])

private theorem endsAt_lineLinks {nodes i : Nat} (below : i < nodes) :
    endsAt i (lineLinks nodes link) = lineNeighbors nodes i := by
  have ends : endsAt i (lineLinks nodes link) = (List.range (nodes - 1)).flatMap fun j =>
      (if j = i then [j + 1] else []) ++ (if j + 1 = i then [j] else []) := List.flatMap_map ..
  have others (j : Nat) (_ : j < nodes - 1) (other : j ≠ i) (other' : j + 1 ≠ i) :
      (if j = i then [j + 1] else []) ++ (if j + 1 = i then [j] else []) = [] := by
    simp [other, other']
  rw [ends, flatMap_range_beside others, lineNeighbors]
  refine congrArg₂ (· ++ ·) ?_ ?_
  · have inside : 0 < i ∧ i ≤ nodes - 1 ↔ 0 < i := by omega
    rw [if_congr inside rfl rfl]
    refine ite_congr rfl (fun after => ?_) fun _ => rfl
    have before : i - 1 ≠ i := by omega
    have back : i - 1 + 1 = i := by omega
    simp [before, back]
  · have inside : i < nodes - 1 ↔ i + 1 < nodes := by omega
    simp [inside]

private theorem nodup_lineNeighbors (nodes i : Nat) : (lineNeighbors nodes i).Nodup := by
  rw [lineNeighbors]
  split <;> split <;> simp

private theorem gridIndex_inj {cols row col row' col' : Nat} (col_lt : col < cols) (col_lt' : col' < cols) :
    gridIndex cols row col = gridIndex cols row' col' ↔ row = row' ∧ col = col' := by
  refine ⟨fun same => ?_, fun ⟨here, there⟩ => here ▸ there ▸ rfl⟩
  have place {r c : Nat} (within : c < cols) :
      gridIndex cols r c / cols = r ∧ gridIndex cols r c % cols = c := by
    have positive : 0 < cols := Nat.zero_lt_of_lt within
    rw [gridIndex, Nat.mul_comm]
    exact ⟨by rw [Nat.mul_add_div positive, Nat.div_eq_of_lt within, Nat.add_zero],
      by rw [Nat.mul_add_mod, Nat.mod_eq_of_lt within]⟩
  exact ⟨(place col_lt).1.symm.trans (same ▸ (place col_lt').1),
    (place col_lt).2.symm.trans (same ▸ (place col_lt').2)⟩

/-- The nodes of the cells above, to the left, to the right and below, as far as they are in the grid. -/
def gridNeighbors (rows cols row col : Nat) : List Nat :=
  (if 0 < row then [gridIndex cols (row - 1) col] else []) ++
    ((if 0 < col then [gridIndex cols row (col - 1)] else []) ++
      ((if col + 1 < cols then [gridIndex cols row (col + 1)] else []) ++
        (if row + 1 < rows then [gridIndex cols (row + 1) col] else [])))

private theorem endsAt_append (i : Nat) (asked asked' : List (Nat × Nat × LinkOptions)) :
    endsAt i (asked ++ asked') = endsAt i asked ++ endsAt i asked' := List.flatMap_append

section Cells

variable {rows cols row col r c : Nat}

/-- What a cell adds to the neighbours of another one: something only if it is that cell, the one to the left
of it or the one above it. -/
theorem endsAt_cellLinks (col_lt : col < cols) (c_lt : c < cols) :
    endsAt (gridIndex cols row col) (cellLinks rows cols r c link) =
      (if c + 1 < cols then (if r = row ∧ c = col then [gridIndex cols r (c + 1)] else []) ++
        (if r = row ∧ c + 1 = col then [gridIndex cols r c] else []) else []) ++
      (if r + 1 < rows then (if r = row ∧ c = col then [gridIndex cols (r + 1) c] else []) ++
        (if r + 1 = row ∧ c = col then [gridIndex cols r c] else []) else []) := by
  rw [cellLinks, endsAt_append]
  refine congrArg₂ (· ++ ·) ?_ ?_
  · split
    · next inside => simp [endsAt, gridIndex_inj c_lt col_lt, gridIndex_inj inside col_lt]
    · rfl
  · split
    · simp [endsAt, gridIndex_inj c_lt col_lt]
    · rfl

def rowEnds (rows cols row col r : Nat) (link : LinkOptions) : List Nat :=
  (List.range cols).flatMap fun c => endsAt (gridIndex cols row col) (cellLinks rows cols r c link)

private theorem rowEnds_here (col_lt : col < cols) : rowEnds rows cols row col row link =
    (if 0 < col then [gridIndex cols row (col - 1)] else []) ++
      ((if col + 1 < cols then [gridIndex cols row (col + 1)] else []) ++
        (if row + 1 < rows then [gridIndex cols (row + 1) col] else [])) := by
  rw [rowEnds, flatMap_range_beside (k := col) fun c c_lt other other' => ?_, if_pos col_lt]
  · refine congrArg₂ (· ++ ·) ?_ (by simp [endsAt_cellLinks col_lt col_lt])
    have inside : 0 < col ∧ col ≤ cols ↔ 0 < col := by omega
    rw [if_congr inside rfl rfl]
    refine ite_congr rfl (fun after => ?_) fun _ => rfl
    have before : col - 1 ≠ col := by omega
    have back : col - 1 + 1 = col := by omega
    simp [endsAt_cellLinks col_lt (Nat.lt_of_le_of_lt (Nat.sub_le col 1) col_lt), before, back, col_lt]
  · simp [endsAt_cellLinks col_lt c_lt, other, other']

private theorem rowEnds_above (col_lt : col < cols) (inside : r + 1 < rows) :
    rowEnds rows cols (r + 1) col r link = [gridIndex cols r col] := by
  have here :
      endsAt (gridIndex cols (r + 1) col) (cellLinks rows cols r col link) = [gridIndex cols r col] := by
    simp [endsAt_cellLinks col_lt col_lt, inside]
  have left (after : 0 < col) :
      endsAt (gridIndex cols (r + 1) col) (cellLinks rows cols r (col - 1) link) = [] := by
    have before : col - 1 ≠ col := by omega
    simp [endsAt_cellLinks col_lt (Nat.lt_of_le_of_lt (Nat.sub_le col 1) col_lt), before]
  rw [rowEnds, flatMap_range_beside (k := col) fun c c_lt other other' => ?_, if_pos col_lt, here]
  · split
    · next after =>
      rw [left after.1]
      rfl
    · rfl
  · simp [endsAt_cellLinks col_lt c_lt, other]

private theorem rowEnds_elsewhere (col_lt : col < cols) (other : r ≠ row) (other' : r + 1 ≠ row) :
    rowEnds rows cols row col r link = [] := by
  refine List.flatMap_eq_nil_iff.mpr fun c member => ?_
  simp [endsAt_cellLinks col_lt (List.mem_range.mp member), other, other']

end Cells

private theorem endsAt_gridLinks {rows cols row col : Nat} (row_lt : row < rows) (col_lt : col < cols) :
    endsAt (gridIndex cols row col) (gridLinks rows cols link) = gridNeighbors rows cols row col := by
  have rowwise : endsAt (gridIndex cols row col) (gridLinks rows cols link) =
      (List.range rows).flatMap fun r => rowEnds rows cols row col r link := by
    rw [endsAt, gridLinks, List.flatMap_assoc]
    exact List.flatMap_congr fun r _ => List.flatMap_assoc
  -- The row above is walked before the row of the cell, which adds the other three.
  rw [rowwise, flatMap_range_beside fun r _ other other' => rowEnds_elsewhere col_lt other other',
    if_pos row_lt, rowEnds_here col_lt, gridNeighbors]
  refine congrArg (· ++ _) ?_
  have inside : 0 < row ∧ row ≤ rows ↔ 0 < row := by omega
  rw [if_congr inside rfl rfl]
  refine ite_congr rfl (fun after => ?_) fun _ => rfl
  obtain ⟨r, rfl⟩ := Nat.exists_eq_succ_of_ne_zero (Nat.ne_of_gt after)
  exact rowEnds_above col_lt row_lt

private theorem ascending_gridNeighbors {rows cols row col : Nat} (col_lt : col < cols) :
    (gridNeighbors rows cols row col).Pairwise (· < ·) := by
  have single (p : Prop) [Decidable p] (n : Nat) : (if p then [n] else []).Pairwise (· < ·) := by
    split
    · exact List.pairwise_singleton _ _
    · exact .nil
  have above (after : 0 < row) : gridIndex cols row col = gridIndex cols (row - 1) col + cols := by
    obtain ⟨r, rfl⟩ := Nat.exists_eq_succ_of_ne_zero (Nat.ne_of_gt after)
    simp only [gridIndex, Nat.succ_eq_add_one, Nat.add_sub_cancel, Nat.succ_mul]
    omega
  have left (after : 0 < col) : gridIndex cols row col = gridIndex cols row (col - 1) + 1 := by
    simp only [gridIndex]
    omega
  have right : gridIndex cols row (col + 1) = gridIndex cols row col + 1 := rfl
  have below : gridIndex cols (row + 1) col = gridIndex cols row col + cols := by
    simp only [gridIndex, Nat.succ_mul]
    omega
  simp only [gridNeighbors, List.pairwise_append, single, List.mem_append, List.mem_ite_nil_right,
    List.mem_singleton, true_and]
  refine ⟨⟨fun a ha b hb => ?_, fun a ha b hb => ?_⟩, fun a ha b hb => ?_⟩
  · omega
  · omega
  · omega

private theorem exists_cell {rows cols i : Nat} (below : i < rows * cols) :
    ∃ row < rows, ∃ col < cols, i = gridIndex cols row col := by
  have positive : 0 < cols := Nat.pos_of_ne_zero fun none => by simp [none] at below
  refine ⟨i / cols, Nat.div_lt_of_lt_mul (Nat.mul_comm rows cols ▸ below), i % cols,
    Nat.mod_lt _ positive, ?_⟩
  rw [gridIndex, Nat.mul_comm, Nat.div_add_mod]

/-- A line and a grid of nodes that have the addresses of their numbers, each of which can be made: the
builders add exactly these nodes. No two share an address, and each is found by its own. In a line each node
lists the nodes before and after it, in a grid the nodes of the cells above, to the left, to the right and
below, none twice and no others. Neighbours list each other, and the link that one has to the other is as was
asked for, with more loss than all counted as all. -/
theorem builders_make_their_graphs (link : LinkOptions) (log : Bool) (config : Nat → NodeConfig)
    (addressed : ∀ i, (config i).eth = .ofIndex i ∧ (config i).ip = .ofIndex i)
    (valid : ∀ i, (config i).validate = .ok ()) :
    (∀ nodes, 1 ≤ nodes → nodes ≤ Scenario.maxNodes → ∃ net,
      buildLine nodes link log config .empty = (.ok (List.range nodes), net) ∧
        net.Registered nodes ∧ net.Meshed link ∧
        ∀ i < nodes, net.neighbors i = lineNeighbors nodes i) ∧
    (∀ rows cols, 1 ≤ rows → 1 ≤ cols → rows * cols ≤ Scenario.maxNodes → ∃ net,
      buildGrid rows cols link log config .empty = (.ok (List.range (rows * cols)), net) ∧
        net.Registered (rows * cols) ∧ net.Meshed link ∧
        ∀ row < rows, ∀ col < cols,
          net.neighbors (gridIndex cols row col) = gridNeighbors rows cols row col) := by
  refine ⟨fun nodes some few => ?_, fun rows cols some some' few => ?_⟩
  · have simple (i) (below : i < nodes) : (endsAt i (lineLinks nodes link)).Nodup := by
      rw [endsAt_lineLinks below]
      exact nodup_lineNeighbors nodes i
    obtain ⟨net, built, registered, meshed, neighbors⟩ :=
      build_meshes few addressed valid lineLinks_within lineLinks_uniform simple log
    refine ⟨net, ?_, registered, meshed, fun i below => (neighbors i).trans (endsAt_lineLinks below)⟩
    rw [buildLine, if_neg (Nat.ne_of_gt some)]
    exact built
  · have simple (i) (below : i < rows * cols) : (endsAt i (gridLinks rows cols link)).Nodup := by
      obtain ⟨row, row_lt, col, col_lt, rfl⟩ := exists_cell below
      rw [endsAt_gridLinks row_lt col_lt]
      exact (ascending_gridNeighbors col_lt).imp Nat.ne_of_lt
    obtain ⟨net, built, registered, meshed, neighbors⟩ :=
      build_meshes few addressed valid gridLinks_within gridLinks_uniform simple log
    refine ⟨net, ?_, registered, meshed, fun row row_lt col col_lt =>
      (neighbors _).trans (endsAt_gridLinks row_lt col_lt)⟩
    rw [buildGrid, if_neg (by omega)]
    exact built

/-- Two rows of three nodes, over links that lose everything. -/
theorem two_by_three_is_a_grid : ∃ net link,
    buildGrid 2 3 { lossPercent := 200 } true .ofIndex .empty = (.ok [0, 1, 2, 3, 4, 5], net) ∧
      net.Registered 6 ∧ net.neighbors 3 = [0, 4] ∧ net.neighbors 4 = [1, 3, 5] ∧
      net.link? 3 4 = some link ∧ link.lossPercent = 100 := by
  have valid (i : Nat) : (NodeConfig.ofIndex i).validate = .ok () := by
    have first : (NodeConfig.ofIndex 0).validate = .ok () := by rfl
    exact first
  obtain ⟨-, grids⟩ :=
    builders_make_their_graphs { lossPercent := 200 } true .ofIndex (fun _ => ⟨rfl, rfl⟩) valid
  obtain ⟨net, built, registered, meshed, neighbors⟩ := grids 2 3 (by decide) (by decide) (by decide)
  have first : net.neighbors 3 = [0, 4] := neighbors 1 (by decide) 0 (by decide)
  have second : net.neighbors 4 = [1, 3, 5] := neighbors 1 (by decide) 1 (by decide)
  exact ⟨net, _, built, registered, first, second, meshed.linked 3 4 (by simp [first]), rfl⟩

end Topology

end WirelessMesh
