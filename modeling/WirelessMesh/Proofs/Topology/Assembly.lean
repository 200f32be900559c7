import WirelessMesh.Proofs.Topology.Building

namespace WirelessMesh

private theorem ProbingConfig.exists_eth {config : ProbingConfig} (valid : config.validate = .ok ()) :
    ∃ eth, config.eth = some eth := by
  refine Option.isSome_iff_exists.mp ?_
  simp only [validate] at valid
  repeat' split at valid
  all_goals try cases valid
  next named => simpa [Option.isSome_iff_ne_none] using named

private theorem DeliveryRates.exists_create {config : DiscoveryConfig} (valid : config.validate = .ok ())
    (node : NodeId) (eth : EtherAddress) (random : RandomSource) :
    ∃ rates, create node eth config random = .ok rates := by
  rw [create, valid]
  exact ⟨_, rfl⟩

private theorem Prober.exists_create {config : ProbingConfig} (valid : config.validate = .ok ())
    (node : NodeId) (random : RandomSource) (salt : UInt64) :
    ∃ prober, create node config random salt = .ok prober := by
  obtain ⟨eth, named⟩ := ProbingConfig.exists_eth valid
  rw [create, valid, named]
  exact ⟨_, rfl⟩

private theorem RouteTable.exists_create {config : RoutingConfig} (valid : config.validate = .ok ())
    (node : NodeId) (ip : IPv4) (eth : EtherAddress) (random : RandomSource) :
    ∃ routes, create node ip eth config random = .ok routes := by
  rw [create, valid]
  exact ⟨_, rfl⟩

namespace MeshNode

variable {n : MeshNode} {id : NodeId} {config : NodeConfig}

/-- A node can be made from every valid settings: what its parts check has been checked. -/
theorem exists_create (valid : config.validate = .ok ()) : ∃ n, create id config = .ok n := by
  obtain ⟨⟨⟩, probing, rest⟩ := ok_of_bind valid
  obtain ⟨⟨⟩, discovery, rest⟩ := ok_of_bind rest
  obtain ⟨⟨⟩, routing, -⟩ := ok_of_bind rest
  let base := baseSeed config.seed config.eth
  obtain ⟨rates, rated⟩ := DeliveryRates.exists_create discovery id config.eth (partSeed base 1)
  obtain ⟨prober, probed⟩ := Prober.exists_create probing id (partSeed base 2) base
  obtain ⟨routes, routed⟩ :=
    RouteTable.exists_create routing id config.ip config.eth (partSeed base 3)
  refine ⟨⟨id, config.name, config.ip, config.eth, config.metric, rates, prober, routes⟩, ?_⟩
  simp only [create, valid, base, rated, probed, routed]
  rfl

private theorem create_error {cause : ConfigError} (invalid : config.validate = .error cause) :
    create id config = .error cause := by
  rw [create, invalid]
  rfl

def logged (n : MeshNode) (log : Bool) : MeshNode := if log then n.withRouteLog else n

end MeshNode

namespace Network

variable {net : Network} {source : NodeId}

def withNodes (net : Network) (newcomers : List MeshNode) : Network := newcomers.foldl withNode net

def withLinks (net : Network) (links : List Link) : Network := links.foldl withLink net

theorem nodes_withNodes (net : Network) (newcomers : List MeshNode) :
    (net.withNodes newcomers).nodes.toList = net.nodes.toList ++ newcomers := by
  induction newcomers generalizing net with
  | nil => exact (List.append_nil _).symm
  | cons n rest ih =>
    refine (ih (net.withNode n)).trans ?_
    rw [withNode, Array.toList_push, List.append_assoc, List.singleton_append]

theorem size_withNodes (net : Network) (newcomers : List MeshNode) :
    (net.withNodes newcomers).nodes.size = net.nodes.size + newcomers.length := by
  rw [← Array.length_toList, nodes_withNodes, List.length_append, Array.length_toList]

private theorem node?_withNodes (net : Network) (newcomers : List MeshNode) (k : Nat) :
    (net.withNodes newcomers).node? (net.nodes.size + k) = newcomers[k]? := by
  rw [node?, ← Array.getElem?_toList, nodes_withNodes, List.getElem?_append_right (by simp),
    Array.length_toList, Nat.add_sub_cancel_left]

theorem size_outlets_withNodes (net : Network) (newcomers : List MeshNode) :
    (net.withNodes newcomers).outlets.size = net.outlets.size + newcomers.length := by
  induction newcomers generalizing net with
  | nil => rfl
  | cons n rest ih =>
    refine (ih (net.withNode n)).trans ?_
    rw [withNode, Array.size_push, List.length_cons]
    omega

theorem links_withNodes (net : Network) (newcomers : List MeshNode) :
    (net.withNodes newcomers).links = net.links := by
  induction newcomers generalizing net with
  | nil => rfl
  | cons n rest ih => exact ih (net.withNode n)

theorem outletsOf_withNodes (net : Network) (newcomers : List MeshNode) (source : NodeId) :
    (net.withNodes newcomers).outletsOf source = net.outletsOf source := by
  induction newcomers generalizing net with
  | nil => rfl
  | cons n rest ih => exact (ih (net.withNode n)).trans (outletsOf_withNode net n source)

theorem nodes_withLinks (net : Network) (links : List Link) : (net.withLinks links).nodes = net.nodes := by
  induction links generalizing net with
  | nil => rfl
  | cons link rest ih => exact ih (net.withLink link)

private theorem node?_withLinks (net : Network) (links : List Link) (id : NodeId) :
    (net.withLinks links).node? id = net.node? id := by
  rw [node?, nodes_withLinks, node?]

theorem size_outlets_withLinks (net : Network) (links : List Link) :
    (net.withLinks links).outlets.size = net.outlets.size := by
  induction links generalizing net with
  | nil => rfl
  | cons link rest ih => exact (ih (net.withLink link)).trans (Array.size_modify ..)

theorem links_withLinks (net : Network) (links : List Link) :
    (net.withLinks links).links.toList = net.links.toList ++ links := by
  induction links generalizing net with
  | nil => exact (List.append_nil _).symm
  | cons link rest ih =>
    refine (ih (net.withLink link)).trans ?_
    rw [withLink, Array.toList_push, List.append_assoc, List.singleton_append]

/-- Neighbours are listed in the order of the links that lead to them. -/
theorem neighbors_withLinks (links : List Link) (within : source < net.outlets.size) :
    (net.withLinks links).neighbors source =
      net.neighbors source ++ (links.filter (·.source = source)).map (·.target) := by
  induction links generalizing net with
  | nil => exact (List.append_nil _).symm
  | cons link rest ih =>
    have still : source < (net.withLink link).outlets.size := by
      rw [withLink, Array.size_modify]
      exact within
    refine (ih still).trans ?_
    rw [neighbors, outletsOf_withLink]
    by_cases mine : link.source = source
    · simp [mine, within, neighbors]
    · simp [mine, Ne.symm mine, neighbors]

end Network

namespace Topology

variable {net net' : Network} {config : Nat → NodeConfig} {log : Bool}

theorem build_bind_ok {α β : Type} {x : Builder α} {f : α → Builder β} {first : α}
    (done : x net = (.ok first, net')) : (x >>= f) net = f first net' := by
  rw [build_bind_eq, done]

private theorem build_bind_error {α β : Type} {x : Builder α} {f : α → Builder β} {cause : BuildError}
    (failed : x net = (.error cause, net')) : (x >>= f) net = (.error cause, net') := by
  rw [build_bind_eq, failed]

private theorem addNode_ok {n : MeshNode} {settings : NodeConfig}
    (created : MeshNode.create net.nodes.size settings = .ok n) :
    addNode settings log net = (.ok net.nodes.size, net.withNode (n.logged log)) := by
  have added : net.addNode (fun id => (MeshNode.create id settings).map fun n =>
      if log then n.withRouteLog else n) = .ok (net.nodes.size, net.withNode (n.logged log)) := by
    simp only [Network.addNode, created]
    rfl
  refine (build_bind_ok rfl).trans ?_
  rw [added]
  rfl

private theorem addNode_error {cause : ConfigError} {settings : NodeConfig}
    (failed : MeshNode.create net.nodes.size settings = .error cause) :
    addNode settings log net = (.error (.config cause), net) := by
  have refused : net.addNode (fun id => (MeshNode.create id settings).map fun n =>
      if log then n.withRouteLog else n) = .error cause := by
    simp only [Network.addNode, failed]
    rfl
  refine (build_bind_ok rfl).trans ?_
  rw [refused]
  rfl

theorem connect_ok {a b : NodeId} {link : LinkOptions}
    (done : net.connectPair a b link.latency link.bandwidth link.lossPercent = .ok net') :
    connect a b link net = (.ok (), net') := by
  refine (build_bind_ok rfl).trans ?_
  rw [done]
  rfl

private theorem connect_error {a b : NodeId} {link : LinkOptions} {cause : NetworkError}
    (failed : net.connectPair a b link.latency link.bandwidth link.lossPercent = .error cause) :
    connect a b link net = (.error (.network cause), net) := by
  refine (build_bind_ok rfl).trans ?_
  rw [failed]
  rfl

def linkFrom (source target : NodeId) (link : LinkOptions) : Link :=
  { Link.create source target link.latency link.bandwidth with lossPercent := min link.lossPercent 100 }

/-- The links that are made between new nodes, each one there and back. -/
def linksFor (first : Nat) (asked : List (Nat × Nat × LinkOptions)) : List Link :=
  asked.flatMap fun (a, b, link) =>
    [linkFrom (first + a) (first + b) link, linkFrom (first + b) (first + a) link]

private theorem connect_eq {a b : NodeId} (within : a < net.outlets.size) (within' : b < net.outlets.size)
    (link : LinkOptions) :
    connect a b link net = (.ok (), net.withLinks [linkFrom a b link, linkFrom b a link]) := by
  have first : net.connect a b link.latency link.bandwidth link.lossPercent =
      .ok (net.links.size, net.withLink (linkFrom a b link)) := if_pos within
  have size : (net.withLink (linkFrom a b link)).outlets.size = net.outlets.size := Array.size_modify ..
  have second : (net.withLink (linkFrom a b link)).connect b a link.latency link.bandwidth
      link.lossPercent = .ok ((net.withLink (linkFrom a b link)).links.size,
        (net.withLink (linkFrom a b link)).withLink (linkFrom b a link)) := if_pos (size ▸ within')
  refine connect_ok ?_
  rw [Network.connectPair, first]
  simp only [bind, Except.bind, second]
  rfl

private theorem connect_all (asked : List (Nat × Nat × LinkOptions)) (first : Nat) : ∀ net : Network,
    (∀ l ∈ asked, first + l.1 < net.outlets.size ∧ first + l.2.1 < net.outlets.size) →
      (asked.forM fun (a, b, link) => connect (first + a) (first + b) link) net =
        (.ok (), net.withLinks (linksFor first asked)) := by
  induction asked with
  | nil => exact fun _ _ => rfl
  | cons l rest ih =>
    intro net within
    obtain ⟨here, later⟩ := List.forall_mem_cons.mp within
    refine (build_bind_ok (connect_eq here.1 here.2 l.2.2)).trans (ih _ fun l member => ?_)
    rw [Network.size_outlets_withLinks]
    exact later l member

/-- Nodes with the numbers from `first` on, made one after another from some settings. They keep a log of
their routes if one was asked for. -/
structure Newcomers (first : Nat) (settings : List NodeConfig) (log : Bool)
    (newcomers : List MeshNode) : Prop where
  length : newcomers.length = settings.length
  made : ∀ k c, settings[k]? = some c → ∃ n, MeshNode.create (first + k) c = .ok n ∧
    newcomers[k]? = some (n.logged log)

theorem add_all (settings : List NodeConfig) (log : Bool) :
    ∀ net : Network, (∀ c ∈ settings, c.validate = .ok ()) →
    ∃ newcomers, (settings.mapM fun c => addNode c log) net =
        (.ok (List.range' net.nodes.size settings.length), net.withNodes newcomers) ∧
      Newcomers net.nodes.size settings log newcomers := by
  induction settings with
  | nil => exact fun _ _ => ⟨[], rfl, rfl, fun k c at_k => by cases at_k⟩
  | cons c rest ih =>
    intro net valid
    obtain ⟨here, later⟩ := List.forall_mem_cons.mp valid
    obtain ⟨n, created⟩ : ∃ n, MeshNode.create net.nodes.size c = .ok n := MeshNode.exists_create here
    obtain ⟨newcomers, others, made⟩ := ih (net.withNode (n.logged log)) later
    rw [Network.size_withNode] at others made
    refine ⟨n.logged log :: newcomers, ?_, congrArg (· + 1) made.length, fun k c at_k => ?_⟩
    · rw [List.mapM_cons, build_bind_ok (addNode_ok created), build_bind_ok others]
      rfl
    · cases k with
      | zero =>
        cases at_k
        rw [Nat.add_zero]
        exact ⟨n, created, rfl⟩
      | succ k =>
        obtain ⟨m, created, there⟩ := made.made k c at_k
        rw [Nat.add_assoc, Nat.add_comm 1] at created
        exact ⟨m, created, there⟩

def settingsOf (config : Nat → NodeConfig) (count : Nat) : List NodeConfig := (List.range count).map config

variable {count : Nat} {links : List (Nat × Nat × LinkOptions)}

theorem valid_settingsOf (valid : ∀ i < count, (config i).validate = .ok ()) :
    ∀ c ∈ settingsOf config count, c.validate = .ok () := by
  intro c member
  obtain ⟨i, below, rfl⟩ := List.mem_map.mp member
  exact valid i (List.mem_range.mp below)

private theorem Newcomers.made_of_lt {first k : Nat} {newcomers : List MeshNode}
    (made : Newcomers first (settingsOf config count) log newcomers) (below : k < count) :
    ∃ n, MeshNode.create (first + k) (config k) = .ok n ∧ newcomers[k]? = some (n.logged log) :=
  made.made k (config k) (by simp [settingsOf, below])

/-- The nodes of a mesh are added in the order of their settings, before any of its links. -/
theorem build_steps (net : Network) (config : Nat → NodeConfig) (log : Bool) :
    build count config log links net = ((settingsOf config count).mapM (addNode · log) >>= fun ids =>
      (links.forM fun (a, b, link) => connect (net.nodes.size + a) (net.nodes.size + b) link) >>= fun _ =>
        pure ids : Builder (List NodeId)) net := by
  rw [settingsOf, List.mapM_map]
  exact build_bind_ok rfl

/-- Nodes that can all be made, and links between them: a network gets these nodes and these links. -/
theorem build_eq (net : Network) (listed : net.outlets.size = net.nodes.size)
    (valid : ∀ i < count, (config i).validate = .ok ())
    (within : ∀ l ∈ links, l.1 < count ∧ l.2.1 < count) (log : Bool) : ∃ newcomers,
      build count config log links net = (.ok (List.range' net.nodes.size count),
        (net.withNodes newcomers).withLinks (linksFor net.nodes.size links)) ∧
      Newcomers net.nodes.size (settingsOf config count) log newcomers := by
  obtain ⟨newcomers, added, made⟩ := add_all _ log net (valid_settingsOf valid)
  have length : (settingsOf config count).length = count := by simp [settingsOf]
  rw [length] at added
  have linked := connect_all links net.nodes.size (net.withNodes newcomers) fun l member => by
    have ends := within l member
    have size := Network.size_outlets_withNodes net newcomers
    rw [listed, made.length, length] at size
    exact ⟨by omega, by omega⟩
  refine ⟨newcomers, (build_steps net config log).trans ?_, made⟩
  exact (build_bind_ok added).trans ((build_bind_ok linked).trans rfl)

/-- The nodes of a network that were made from the settings of their numbers, and keep a log of their
routes if one was asked for. -/
structure Populated (net : Network) (config : Nat → NodeConfig) (log : Bool) : Prop where
  outlets : net.outlets.size = net.nodes.size
  made : ∀ i, i < net.nodes.size → ∃ n, MeshNode.create i (config i) = .ok n ∧
    net.node? i = some (if log then n.withRouteLog else n)

/-- The network that is built from nothing has the nodes and links that were asked for, and no others. -/
theorem build_empty (valid : ∀ i < count, (config i).validate = .ok ())
    (within : ∀ l ∈ links, l.1 < count ∧ l.2.1 < count) (log : Bool) : ∃ newcomers,
      let net := (Network.empty.withNodes newcomers).withLinks (linksFor 0 links)
      build count config log links .empty = (.ok (List.range count), net) ∧ net.nodes.size = count ∧
        Populated net config log := by
  obtain ⟨newcomers, built, made⟩ := build_eq .empty rfl valid within log
  have none : Network.empty.nodes.size = 0 := rfl
  rw [none] at built made
  have length : newcomers.length = count := by simp [made.length, settingsOf]
  have size := Network.empty.size_withNodes newcomers
  rw [none, Nat.zero_add, length] at size
  refine ⟨newcomers, List.range_eq_range' ▸ built, ?_, ?_, fun i below => ?_⟩
  · rw [Network.nodes_withLinks, size]
  · rw [Network.size_outlets_withLinks, Network.nodes_withLinks, Network.size_outlets_withNodes,
      Network.size_withNodes]
    rfl
  · rw [Network.nodes_withLinks, size] at below
    obtain ⟨n, created, present⟩ := made.made_of_lt below
    have there := Network.empty.node?_withNodes newcomers i
    rw [none, present] at there
    rw [Nat.zero_add] at created there
    exact ⟨n, created, (Network.node?_withLinks _ _ _).trans there⟩

theorem build_error {cause : ConfigError} (inhabited : 0 < count)
    (invalid : (config 0).validate = .error cause) (log : Bool) :
    build count config log links net = (.error (.config cause), net) := by
  obtain ⟨count, rfl⟩ := Nat.exists_eq_succ_of_ne_zero (Nat.ne_of_gt inhabited)
  refine (build_steps net config log).trans (build_bind_error ?_)
  rw [settingsOf, List.range_succ_eq_map, List.map_cons, List.mapM_cons]
  exact build_bind_error (addNode_error (MeshNode.create_error invalid))

private theorem connect_ne_config (net : Network) (a b : NodeId) (link : LinkOptions) (cause : ConfigError) :
    (connect a b link net).1 ≠ .error (.config cause) := by
  cases outcome : net.connectPair a b link.latency link.bandwidth link.lossPercent with
  | error unknown =>
    rw [connect_error outcome]
    nofun
  | ok paired =>
    rw [connect_ok outcome]
    nofun

private theorem connect_all_ne_config (asked : List (Nat × Nat × LinkOptions)) (first : Nat)
    (cause : ConfigError) : ∀ net : Network,
    ((asked.forM fun (a, b, link) => connect (first + a) (first + b) link) net).1 ≠
      .error (.config cause) := by
  induction asked with
  | nil => exact fun _ => nofun
  | cons l rest ih =>
    intro net
    have refused := connect_ne_config net (first + l.1) (first + l.2.1) l.2.2 cause
    change ((connect (first + l.1) (first + l.2.1) l.2.2 >>= fun _ =>
      rest.forM fun (a, b, link) => connect (first + a) (first + b) link : Builder Unit) net).1 ≠ _
    rw [build_bind_eq]
    split
    · next mid _ => exact ih mid
    · next other _ failed =>
      rw [failed] at refused
      exact refused

/-- Where all settings are valid, no error is one in the settings. -/
theorem build_ne_config (valid : ∀ i < count, (config i).validate = .ok ()) (log : Bool)
    (cause : ConfigError) : (build count config log links net).1 ≠ .error (.config cause) := by
  obtain ⟨newcomers, added, -⟩ := add_all _ log net (valid_settingsOf valid)
  rw [build_steps, build_bind_ok added, build_bind_eq]
  split
  · nofun
  · next other _ failed =>
    have refused := connect_all_ne_config links net.nodes.size cause (net.withNodes newcomers)
    rw [failed] at refused
    exact fun same => refused (congrArg Except.error (Except.error.inj same))

end Topology

end WirelessMesh
