import WirelessMesh.Proofs.Mesh.Timers

/-!
Where frames end up. Main statement: of the frames that were put on the network each was stopped, lost,
handed over once or is still to arrive, and none arrives elsewhere than at the end of its link.
-/
namespace WirelessMesh

/-- The frames that are still to arrive. -/
def onTheWay (sim : Simulator MeshEvent) : List Handover := sim.live.filterMap Scheduled.handover?

section OnTheWay

variable {sim sim' : Simulator MeshEvent} {h : Handover} {x : Scheduled MeshEvent}

theorem handover?_some (stands : x.handover? = some h) :
    x.event = .arrival h.node h.frame ∧ x.id = h.event := by
  unfold Scheduled.handover? at stands
  split at stands
  · cases stands
  · next arrival =>
    cases stands
    exact ⟨arrival, rfl⟩

private theorem handover?_timer (timer : ¬ x.event.IsArrival) : x.handover? = none := by
  cases stands : x.handover? with
  | none => rfl
  | some h =>
    rw [(handover?_some stands).1] at timer
    exact absurd trivial timer

theorem mem_onTheWay : h ∈ onTheWay sim ↔ ∃ x ∈ sim.live, x.handover? = some h :=
  List.mem_filterMap

private theorem onTheWay_nodup (valid : sim.WellFormed) : (onTheWay sim).Nodup := by
  have distinct : sim.live.Pairwise fun x y => x.id ≠ y.id :=
    List.pairwise_map.mp valid.live_ids_nodup
  refine distinct.filterMap _ fun x y apart h stands h' stands' same => apart ?_
  rw [(handover?_some stands).2, (handover?_some stands').2, same]

/-- Whoever leaves arrivals alone changes nothing about frames on their way. -/
private theorem onTheWay_changes {owned : MeshEvent → Prop} (valid : sim.WellFormed)
    (changes : sim.Changes owned sim') (apart : ∀ event, owned event → ¬ event.IsArrival) :
    (onTheWay sim').Perm (onTheWay sim) := by
  refine (List.perm_ext_iff_of_nodup (onTheWay_nodup (changes.valid valid))
    (onTheWay_nodup valid)).mpr fun h => ?_
  rw [mem_onTheWay, mem_onTheWay]
  refine exists_congr fun x => and_congr_left fun stands => changes.foreign_iff valid fun mine => ?_
  refine apart _ mine ?_
  rw [(handover?_some stands).1]
  trivial

private theorem onTheWay_schedule (valid : sim.WellFormed) (due : Time) (node : NodeId) (frame : Frame) :
    (onTheWay (sim.schedule due (.arrival node frame)).2).Perm
      (⟨sim.nextId, node, frame⟩ :: onTheWay sim) := by
  have perm := (valid.live_schedule due (.arrival node frame)).filterMap Scheduled.handover?
  rw [List.filterMap_cons] at perm
  exact perm

private theorem onTheWay_next? {limit : Option Time} (valid : sim.WellFormed)
    (taken : sim.next? limit = some (x, sim')) :
    (onTheWay sim).Perm (x.handover?.toList ++ onTheWay sim') := by
  have perm := (valid.live_next? taken).filterMap Scheduled.handover?
  rw [List.filterMap_cons] at perm
  cases stands : x.handover? with
  | none =>
    rw [stands] at perm
    exact perm
  | some h =>
    rw [stands] at perm
    exact perm

end OnTheWay

namespace Network

variable {net net' : Network} {source target : NodeId} {id : LinkId} {eth : EtherAddress}

/-- Every link out of a node starts there and ends where the node has it end. -/
def Wired (net : Network) : Prop :=
  ∀ source, ∀ outlet ∈ net.outletsOf source, net.ends? outlet.link = some (source, outlet.target)

theorem Wired.linkId? (wired : net.Wired) (found : net.linkId? source target = some id) :
    net.ends? id = some (source, target) := by
  obtain ⟨outlet, hit, rfl⟩ := Option.map_eq_some_iff.mp found
  have there := List.mem_reverse.mp (List.mem_of_find?_eq_some hit)
  have mine : outlet.target = target := by simpa using List.find?_some hit
  exact mine ▸ wired source outlet there

/-- A network that has nodes and links more, while those that there were keep addresses and ends. -/
structure Grows (net net' : Network) : Prop where
  size : net.nodes.size ≤ net'.nodes.size
  addresses : ∀ id, id < net.nodes.size → (net'.node? id).map (·.eth) = (net.node? id).map (·.eth)
  ends : ∀ id ends, net.ends? id = some ends → net'.ends? id = some ends

theorem SameWiring.grows (same : net.SameWiring net') : net.Grows net' where
  size := Nat.le_of_eq (congrArg Array.size same.nodes).symm
  addresses id _ := by rw [node?_congr same.nodes]
  ends id ends found := (same.ends id).trans found

theorem SameWiring.wired (same : net.SameWiring net') (wired : net.Wired) : net'.Wired := by
  intro source outlet member
  rw [outletsOf, same.outlets] at member
  rw [same.ends]
  exact wired source outlet member

private theorem grows_withNode (net : Network) (n : MeshNode) : net.Grows (net.withNode n) where
  size := by
    rw [size_withNode]
    exact Nat.le_succ _
  addresses id within := by
    rw [node?_withNode, if_neg (Nat.ne_of_lt within)]
  ends _ _ found := found

theorem Wired.withNode (wired : net.Wired) (n : MeshNode) : (net.withNode n).Wired := by
  intro source outlet member
  rw [outletsOf, Network.withNode, Array.getElem?_push] at member
  split at member
  · cases member
  · exact wired source outlet member

def withLink (net : Network) (link : Link) : Network :=
  { net with
    links := net.links.push link
    outlets := net.outlets.modify link.source (· ++ [⟨link.target, net.links.size⟩]) }

theorem connect_ok {latency : Time} {bandwidth loss : Nat}
    (done : net.connect source target latency bandwidth loss = .ok (id, net')) :
    ∃ link, source < net.outlets.size ∧ link.source = source ∧ link.target = target ∧
      net' = net.withLink link := by
  unfold connect at done
  split at done
  · next within =>
    cases done
    exact ⟨{ Link.create source target latency bandwidth with lossPercent := min loss 100 },
      within, rfl, rfl, rfl⟩
  · cases done

theorem grows_withLink (net : Network) (link : Link) : net.Grows (net.withLink link) where
  size := Nat.le_refl _
  addresses _ _ := rfl
  ends id ends found := by
    obtain ⟨_, present, -⟩ := Option.map_eq_some_iff.mp found
    have within := (Array.getElem?_eq_some_iff.mp present).1
    rw [ends?, withLink, Array.getElem?_push, if_neg (Nat.ne_of_lt within)]
    exact found

theorem Wired.withLink (wired : net.Wired) (link : Link) : (net.withLink link).Wired := by
  intro source outlet member
  have grows := net.grows_withLink link
  rw [outletsOf, Network.withLink, Array.getElem?_modify] at member
  split at member
  · next here =>
    subst here
    cases made : net.outlets[link.source]? with
    | none =>
      rw [made] at member
      cases member
    | some outlets =>
      rw [made] at member
      rcases List.mem_append.mp member with before | new
      · have known : outlet ∈ net.outletsOf link.source := by
          rw [outletsOf, made]
          exact before
        exact grows.ends _ _ (wired link.source outlet known)
      · rw [List.mem_singleton.mp new, ends?, Network.withLink, Array.getElem?_push, if_pos rfl]
        rfl
  · exact grows.ends _ _ (wired source outlet member)

theorem nodeBelow?_congr {k : NodeId}
    (same : ∀ j, j < k → (net'.node? j).map (·.eth) = (net.node? j).map (·.eth)) :
    net'.nodeBelow? eth k = net.nodeBelow? eth k := by
  induction k with
  | zero => rfl
  | succ k ih =>
    have here := congrArg (·.any (· = eth)) (same k (Nat.lt_succ_self k))
    simp only [Option.any_map] at here
    rw [nodeBelow?, nodeBelow?, ih fun j below => same j (Nat.lt_succ_of_lt below)]
    exact if_congr (by rw [← Bool.eq_iff_iff]; exact here) rfl rfl

theorem nodeBelow?_some {k : NodeId} (found : net.nodeBelow? eth k = some target) :
    (∃ n, net.node? target = some n ∧ n.eth = eth) ∧
      ∀ j n, target < j → j < k → net.node? j = some n → n.eth ≠ eth := by
  induction k with
  | zero => cases found
  | succ k ih =>
    rw [nodeBelow?] at found
    split at found
    · next hit =>
      cases found
      obtain ⟨n, present, mine⟩ := (Option.any_eq_true _ _).mp hit
      exact ⟨⟨n, present, of_decide_eq_true mine⟩, fun j _ after below =>
        absurd (Nat.lt_succ_iff.mp below) (Nat.not_le.mpr after)⟩
    · next missed =>
      obtain ⟨here, later⟩ := ih found
      refine ⟨here, fun j n after below present mine => ?_⟩
      rcases Nat.lt_succ_iff_lt_or_eq.mp below with before | rfl
      · exact later j n after before present mine
      · rw [present] at missed
        exact missed (decide_eq_true mine)

private theorem transmit_lost {frame : Frame} {air : Air Network} {link : Link}
    (present : air.medium.links[id]? = some link) (drops : link.drops frame.id = true) :
    (transmit id frame air).sim = air.sim ∧ (transmit id frame air).medium.stats =
      { air.medium.stats with droppedLoss := air.medium.stats.droppedLoss + 1 } := by
  constructor
  · simp only [transmit, present, drops, if_true]
  · simp only [transmit, present, drops, if_true]
    rfl

private theorem transmit_carried {frame : Frame} {air : Air Network} {link : Link}
    (present : air.medium.links[id]? = some link) (drops : link.drops frame.id = false) :
    (∃ due, (transmit id frame air).sim =
      (air.sim.schedule due (.arrival link.target frame)).2) ∧
      (transmit id frame air).medium.stats = air.medium.stats := by
  constructor
  · simp only [transmit, present, drops, Bool.false_eq_true, if_false]
    exact ⟨_, rfl⟩
  · simp only [transmit, present, drops, Bool.false_eq_true, if_false]

end Network

namespace Sending

/-- The handover that is to come of a frame that is carried. -/
def handover? (s : Sending) : Option Handover :=
  match s.passage with
  | .carried _ target event => some ⟨event, target, s.frame⟩
  | _ => none

def isStopped (s : Sending) : Bool :=
  match s.passage with
  | .stopped => true
  | _ => false

def isLost (s : Sending) : Bool :=
  match s.passage with
  | .lost _ => true
  | _ => false

/-- A frame is carried from its source to the far end of a link. If it is for one node, that is the
last one of the nodes at the time that has its address. -/
structure Fits (s : Sending) (net : Network) : Prop where
  size : s.nodes ≤ net.nodes.size
  ends : ∀ link target event, s.passage = .carried link target event →
    net.ends? link = some (s.source, target)
  address : ∀ link target event, s.passage = .carried link target event → s.isCopy = false →
    net.nodeBelow? s.frame.target s.nodes = some target

theorem Fits.grows {s : Sending} {net net' : Network} (fits : s.Fits net) (grows : net.Grows net') :
    s.Fits net' where
  size := Nat.le_trans fits.size grows.size
  ends link target event carried := grows.ends link _ (fits.ends link target event carried)
  address link target event carried single := by
    rw [Network.nodeBelow?_congr fun j below =>
      grows.addresses j (Nat.lt_of_lt_of_le below fits.size)]
    exact fits.address link target event carried single

private theorem length_eq (sendings : List Sending) : sendings.length =
    sendings.countP isStopped + sendings.countP isLost + (sendings.filterMap handover?).length := by
  induction sendings with
  | nil => rfl
  | cons s rest ih =>
    rw [List.length_cons, ih, List.countP_cons, List.countP_cons, List.filterMap_cons]
    cases passage : s.passage with
    | stopped => simp [isStopped, isLost, handover?, passage]; omega
    | lost link => simp [isStopped, isLost, handover?, passage]; omega
    | carried link target event => simp [isStopped, isLost, handover?, passage]; omega

end Sending

/-- The counts of a network are those of what was put on it, and so are the frames on their way
together with those that were handed over. -/
structure Accounts (air : Air Network) (sendings : List Sending) (handovers : List Handover) :
    Prop where
  valid : air.sim.WellFormed
  wired : air.medium.Wired
  sent : air.medium.stats.sentFrames = sendings.length
  stopped : air.medium.stats.droppedNoLink = sendings.countP Sending.isStopped
  lost : air.medium.stats.droppedLoss = sendings.countP Sending.isLost
  delivered : air.medium.stats.deliveredFrames = handovers.length
  fates : (sendings.filterMap Sending.handover?).Perm (onTheWay air.sim ++ handovers)
  given : ∀ h ∈ sendings.filterMap Sending.handover?, h.event < air.sim.nextId
  distinct : ((sendings.filterMap Sending.handover?).map (·.event)).Nodup
  fits : ∀ s ∈ sendings, s.Fits air.medium

namespace Accounts

variable {air : Air Network} {sendings : List Sending} {handovers : List Handover}

/-- What has to do neither with frames nor with their counts may change. -/
theorem rebuilt {net : Network} (accounts : Accounts air sendings handovers)
    (grows : air.medium.Grows net) (wired : net.Wired) (stats : net.stats = air.medium.stats) :
    Accounts { air with medium := net } sendings handovers where
  valid := accounts.valid
  wired := wired
  sent := (congrArg _ stats).trans accounts.sent
  stopped := (congrArg _ stats).trans accounts.stopped
  lost := (congrArg _ stats).trans accounts.lost
  delivered := (congrArg _ stats).trans accounts.delivered
  fates := accounts.fates
  given := accounts.given
  distinct := accounts.distinct
  fits s member := (accounts.fits s member).grows grows

theorem rewired {net : Network} (accounts : Accounts air sendings handovers)
    (same : air.medium.SameWiring net) (stats : net.stats = air.medium.stats) :
    Accounts { air with medium := net } sendings handovers :=
  accounts.rebuilt same.grows (same.wired accounts.wired) stats

theorem elsewhere {sim : Simulator MeshEvent} {owned : MeshEvent → Prop}
    (accounts : Accounts air sendings handovers) (changes : air.sim.Changes owned sim)
    (apart : ∀ event, owned event → ¬ event.IsArrival) :
    Accounts { air with sim } sendings handovers where
  valid := changes.valid accounts.valid
  wired := accounts.wired
  sent := accounts.sent
  stopped := accounts.stopped
  lost := accounts.lost
  delivered := accounts.delivered
  fates := accounts.fates.trans
    ((onTheWay_changes accounts.valid changes apart).symm.append_right handovers)
  given h member := Nat.lt_of_lt_of_le (accounts.given h member) changes.nextId
  distinct := accounts.distinct
  fits := accounts.fits

theorem frame_sent {air' : Air Network} {s : Sending} (accounts : Accounts air sendings handovers)
    (valid : air'.sim.WellFormed) (wiring : air.medium.SameWiring air'.medium)
    (sent : air'.medium.stats.sentFrames = air.medium.stats.sentFrames + 1)
    (stopped : air'.medium.stats.droppedNoLink =
      air.medium.stats.droppedNoLink + if s.isStopped then 1 else 0)
    (lost : air'.medium.stats.droppedLoss =
      air.medium.stats.droppedLoss + if s.isLost then 1 else 0)
    (delivered : air'.medium.stats.deliveredFrames = air.medium.stats.deliveredFrames)
    (way : (onTheWay air'.sim).Perm (s.handover?.toList ++ onTheWay air.sim))
    (nextId : air.sim.nextId ≤ air'.sim.nextId)
    (fresh : ∀ h, s.handover? = some h →
      h.event = air.sim.nextId ∧ air.sim.nextId < air'.sim.nextId)
    (fits : s.Fits air.medium) : Accounts air' (sendings ++ [s]) handovers := by
  have last : (sendings ++ [s]).filterMap Sending.handover? =
      sendings.filterMap Sending.handover? ++ s.handover?.toList := by
    rw [List.filterMap_append]
    cases handover : s.handover? <;> simp [handover]
  refine ⟨valid, wiring.wired accounts.wired, ?_, ?_, ?_, delivered.trans accounts.delivered, ?_, ?_,
    ?_, fun s' member => ?_⟩
  · rw [sent, accounts.sent, List.length_append, List.length_singleton]
  · rw [stopped, accounts.stopped, List.countP_append, List.countP_singleton]
  · rw [lost, accounts.lost, List.countP_append, List.countP_singleton]
  · rw [last]
    calc sendings.filterMap Sending.handover? ++ s.handover?.toList
      _ |>.Perm (s.handover?.toList ++ sendings.filterMap Sending.handover?) :=
        List.perm_append_comm
      _ |>.Perm (s.handover?.toList ++ (onTheWay air.sim ++ handovers)) :=
        accounts.fates.append_left _
      _ |>.Perm (onTheWay air'.sim ++ handovers) := by
        rw [← List.append_assoc]
        exact way.symm.append_right handovers
  · intro h member
    rw [last, List.mem_append, Option.mem_toList] at member
    rcases member with before | new
    · exact Nat.lt_of_lt_of_le (accounts.given h before) nextId
    · rw [(fresh h new).1]
      exact (fresh h new).2
  · rw [last]
    cases handover : s.handover? with
    | none => simpa using accounts.distinct
    | some h =>
      have apart : h.event ∉ (sendings.filterMap Sending.handover?).map (·.event) := by
        intro member
        obtain ⟨before, among, same⟩ := List.mem_map.mp member
        have given := accounts.given before among
        rw [same, (fresh h handover).1] at given
        exact Nat.lt_irrefl _ given
      rw [Option.toList_some, List.map_append, List.map_singleton]
      exact List.nodup_append_comm.mp (List.nodup_cons.mpr ⟨apart, accounts.distinct⟩)
  · rcases List.mem_append.mp member with before | new
    · exact (accounts.fits s' before).grows wiring.grows
    · rw [List.mem_singleton.mp new]
      exact fits.grows wiring.grows

theorem lose {frame : Frame} {id : LinkId} {link : Link}
    (accounts : Accounts air sendings handovers) (present : air.medium.links[id]? = some link)
    (drops : link.drops frame.id = true) (isCopy : Bool) :
    Accounts (Network.transmit id frame { air with
        medium := air.medium.count fun s => { s with sentFrames := s.sentFrames + 1 } })
      (sendings ++ [⟨link.source, frame, isCopy, air.medium.nodes.size, .lost id⟩]) handovers := by
  let counted : Air Network :=
    { air with medium := air.medium.count fun s => { s with sentFrames := s.sentFrames + 1 } }
  have there : counted.medium.links[id]? = some link := present
  have same : air.medium.SameWiring counted.medium := ⟨rfl, rfl, fun _ => rfl⟩
  have wiring := same.trans (Network.wiring_transmit id frame counted)
  obtain ⟨sim, stats⟩ := Network.transmit_lost there drops
  refine accounts.frame_sent ?_ wiring ?_ ?_ ?_ ?_ ?_ (Nat.le_of_eq (congrArg (·.nextId) sim).symm) nofun
    ⟨Nat.le_refl _, nofun, nofun⟩
  · rw [sim]; exact accounts.valid
  · rw [stats]; rfl
  · rw [stats]; rfl
  · rw [stats]; rfl
  · rw [stats]; rfl
  · rw [sim]; exact .refl _

theorem carry {frame : Frame} {id : LinkId} {link : Link} {isCopy : Bool}
    (accounts : Accounts air sendings handovers) (present : air.medium.links[id]? = some link)
    (drops : link.drops frame.id = false)
    (address : isCopy = false → air.medium.nodeByEth? frame.target = some link.target) :
    Accounts (Network.transmit id frame { air with
        medium := air.medium.count fun s => { s with sentFrames := s.sentFrames + 1 } })
      (sendings ++ [⟨link.source, frame, isCopy, air.medium.nodes.size,
        .carried id link.target air.sim.nextId⟩])
      handovers := by
  let counted : Air Network :=
    { air with medium := air.medium.count fun s => { s with sentFrames := s.sentFrames + 1 } }
  have there : counted.medium.links[id]? = some link := present
  have same : air.medium.SameWiring counted.medium := ⟨rfl, rfl, fun _ => rfl⟩
  have wiring := same.trans (Network.wiring_transmit id frame counted)
  obtain ⟨⟨due, sim⟩, stats⟩ := Network.transmit_carried there drops
  have event : (Network.transmit id frame counted).sim.nextId = air.sim.nextId + 1 :=
    congrArg (·.nextId) sim
  refine accounts.frame_sent ?_ wiring ?_ ?_ ?_ ?_ ?_ (Nat.le_of_succ_le (Nat.le_of_eq event.symm)) ?_
    ⟨Nat.le_refl _, ?_, ?_⟩
  · rw [sim]; exact accounts.valid.schedule _ _
  · rw [stats]; rfl
  · rw [stats]; rfl
  · rw [stats]; rfl
  · rw [stats]; rfl
  · rw [sim]; exact onTheWay_schedule accounts.valid _ _ _
  · intro h new
    cases new
    exact ⟨rfl, event ▸ Nat.lt_succ_self _⟩
  · intro link' target event carried
    cases carried
    exact Option.map_eq_some_iff.mpr ⟨link, present, rfl⟩
  · intro link' target event carried single
    cases carried
    exact address single

theorem transmit {source target : NodeId} {frame : Frame} {isCopy : Bool} {id : LinkId}
    (accounts : Accounts air sendings handovers)
    (ends : air.medium.ends? id = some (source, target))
    (address : isCopy = false → air.medium.nodeByEth? frame.target = some target) :
    Accounts (Network.transmit id frame { air with
        medium := air.medium.count fun s => { s with sentFrames := s.sentFrames + 1 } })
      (sendings ++
        [⟨source, frame, isCopy, air.medium.nodes.size, Network.passage id frame air⟩])
      handovers := by
  obtain ⟨link, present, same⟩ := Option.map_eq_some_iff.mp ends
  obtain ⟨rfl, rfl⟩ := Prod.mk.inj same
  cases drops : link.drops frame.id with
  | true =>
    have passage : Network.passage id frame air = .lost id := by
      simp only [Network.passage, present, drops, if_true]
    rw [passage]
    exact accounts.lose present drops isCopy
  | false =>
    have passage : Network.passage id frame air = .carried id link.target air.sim.nextId := by
      simp only [Network.passage, present, drops, Bool.false_eq_true, if_false]
    rw [passage]
    exact accounts.carry present drops address

theorem renumbered (accounts : Accounts air sendings handovers) :
    Accounts { air with medium := air.medium.takeFrameId.2 } sendings handovers :=
  accounts.rewired (.takeFrameId _) rfl

theorem rejected (accounts : Accounts air sendings handovers) :
    Accounts { air with medium := air.medium.rejectFrame } sendings handovers where
  valid := accounts.valid
  wired := accounts.wired
  sent := accounts.sent
  stopped := accounts.stopped
  lost := accounts.lost
  delivered := accounts.delivered
  fates := accounts.fates
  given := accounts.given
  distinct := accounts.distinct
  fits s member := by
    have same : air.medium.SameWiring air.medium.rejectFrame := .count _ _
    exact (accounts.fits s member).grows same.grows

theorem sendCopy (accounts : Accounts air sendings handovers) (source target : NodeId)
    (frame : Frame) :
    Accounts (Network.sendCopy source target frame air)
      (sendings ++ Network.copies source target frame air) handovers := by
  cases found : air.medium.linkId? source target with
  | none =>
    simp only [Network.sendCopy, Network.copies, found, List.append_nil]
    exact accounts
  | some id =>
    simp only [Network.sendCopy, Network.copies, found]
    exact accounts.renumbered.transmit (accounts.wired.linkId? found) nofun

theorem sendCopies (targets : List NodeId) (source : NodeId) (frame : Frame) :
    ∀ {air : Air Network} {sendings : List Sending}, Accounts air sendings handovers →
      Accounts (targets.foldl (fun air target => Network.sendCopy source target frame air) air)
        (sendings ++ Network.allCopies source frame targets air) handovers := by
  induction targets with
  | nil =>
    intro air sendings accounts
    rw [Network.allCopies, List.append_nil]
    exact accounts
  | cons target rest ih =>
    intro air sendings accounts
    rw [Network.allCopies, ← List.append_assoc]
    exact ih (accounts.sendCopy source target frame)

theorem broadcast (accounts : Accounts air sendings handovers) (source : NodeId) (frame : Frame) :
    Accounts (Network.broadcast source frame air)
      (sendings ++ Network.broadcastings source frame air) handovers :=
  sendCopies _ source frame accounts

/-- A frame for a node to which there is no link is dropped. -/
theorem stop {frame : Frame} (accounts : Accounts air sendings handovers) (source : NodeId)
    (isCopy : Bool) :
    Accounts { air with
        medium := air.medium.count fun s =>
          { s with
            sentFrames := s.sentFrames + 1
            droppedNoLink := s.droppedNoLink + 1 } }
      (sendings ++ [⟨source, frame, isCopy, air.medium.nodes.size, .stopped⟩]) handovers :=
  accounts.frame_sent accounts.valid ⟨rfl, rfl, fun _ => rfl⟩ rfl rfl rfl rfl (.refl _) (Nat.le_refl _) nofun
    ⟨Nat.le_refl _, nofun, nofun⟩

theorem send (accounts : Accounts air sendings handovers) (source : NodeId) (frame : Frame) :
    Accounts (Network.send source frame air) (sendings ++ Network.sendings source frame air)
      handovers := by
  unfold Network.send Network.sendings
  split
  · exact accounts.broadcast source frame
  · have same : (air.medium.count fun s => { s with sentFrames := s.sentFrames + 1 }).nodeByEth?
        frame.target = air.medium.nodeByEth? frame.target :=
      Network.nodeBelow?_congr fun _ _ => rfl
    simp only [same, Network.passageTo]
    have links (target : NodeId) : (air.medium.count fun s =>
        { s with sentFrames := s.sentFrames + 1 }).linkId? source target =
        air.medium.linkId? source target := rfl
    cases holder : air.medium.nodeByEth? frame.target with
    | none => exact accounts.stop source false
    | some target =>
      cases found : air.medium.linkId? source target with
      | none =>
        simp only [Option.bind_some, links, found]
        exact accounts.stop source false
      | some id =>
        simp only [Option.bind_some, links, found]
        exact accounts.transmit (accounts.wired.linkId? found) fun _ => holder

variable {id : NodeId} {desk : Desk Network}

/-- Setting a timer or taking one back puts nothing on the network and takes nothing off. -/
theorem performTiming {deed : Deed} (accounts : Accounts desk.air sendings handovers)
    (tidy : desk.Tidy id) (timing : deed.Timing) :
    Accounts (desk.perform id deed).air (sendings ++ desk.deedSendings id deed) handovers := by
  have changes := tidy.changes_timing timing
  have apart : ∀ event : MeshEvent, (∃ kind, event = .timer id kind) → ¬ event.IsArrival := by
    rintro _ ⟨kind, rfl⟩
    exact Desk.Tidy.not_arrival
  have kept := accounts.elsewhere changes apart
  have still : (desk.perform id deed).air.medium = desk.air.medium ∧
      desk.deedSendings id deed = [] := by
    cases deed with
    | post draft => exact timing.elim
    | announce draft => exact timing.elim
    | reject frame => exact timing.elim
    | arm kind delay => exact ⟨rfl, rfl⟩
    | disarm kind => exact ⟨rfl, rfl⟩
    | forget kind =>
      refine ⟨?_, rfl⟩
      unfold Desk.perform
      simp only
      split <;> rfl
  rw [still.2, List.append_nil]
  rw [← still.1] at kept
  exact kept

/-- Whatever a node does is accounted for. -/
theorem perform (deed : Deed) (accounts : Accounts desk.air sendings handovers)
    (tidy : desk.Tidy id) :
    Accounts (desk.perform id deed).air (sendings ++ desk.deedSendings id deed) handovers := by
  cases deed with
  | post draft => exact accounts.renumbered.send id (desk.air.medium.number draft).1
  | announce draft => exact accounts.renumbered.broadcast id (desk.air.medium.number draft).1
  | reject frame =>
    have silent : desk.deedSendings id (.reject frame) = [] := rfl
    rw [silent, List.append_nil]
    exact accounts.rejected
  | arm kind delay => exact accounts.performTiming tidy trivial
  | disarm kind => exact accounts.performTiming tidy trivial
  | forget kind => exact accounts.performTiming tidy trivial

theorem play (script : List Deed) : ∀ {desk : Desk Network} {sendings : List Sending},
    Accounts desk.air sendings handovers → desk.Tidy id →
      Accounts (desk.play id script).air (sendings ++ desk.sendings id script) handovers := by
  induction script with
  | nil =>
    intro desk sendings accounts _
    rw [Desk.sendings, List.append_nil]
    exact accounts
  | cons deed rest ih =>
    intro desk sendings accounts tidy
    rw [Desk.sendings, ← List.append_assoc]
    exact ih (accounts.perform deed tidy) (tidy.perform deed)

theorem empty : Accounts Mesh.empty [] [] where
  valid := Simulator.empty_wellFormed
  wired _ _ member := absurd member List.not_mem_nil
  sent := rfl
  stopped := rfl
  lost := rfl
  delivered := rfl
  fates := .refl _
  given _ member := absurd member List.not_mem_nil
  distinct := .nil
  fits _ member := absurd member List.not_mem_nil

/-- An event begins, and is a handover if it is an arrival. -/
theorem begin {mesh : Mesh} {limit : Option Time} {item : Scheduled MeshEvent}
    {sim : Simulator MeshEvent} (accounts : Accounts mesh sendings handovers)
    (taken : mesh.sim.next? limit = some (item, sim)) :
    Accounts (Mesh.struck { mesh with sim } item.event) sendings
      (handovers ++ item.handover?.toList) := by
  have way := onTheWay_next? accounts.valid taken
  have fates : (sendings.filterMap Sending.handover?).Perm
      (onTheWay sim ++ (handovers ++ item.handover?.toList)) := by
    refine accounts.fates.trans ((way.append_right handovers).trans ?_)
    rw [List.append_assoc, ← List.append_assoc (onTheWay sim)]
    exact List.perm_append_comm
  have given : ∀ h ∈ sendings.filterMap Sending.handover?, h.event < sim.nextId := by
    rw [Simulator.next?_nextId taken]
    exact accounts.given
  cases event : item.event with
  | timer node kind =>
    have none : item.handover? = none := handover?_timer (by rw [event]; exact fun never => never)
    rw [none, Option.toList_none, List.append_nil] at fates ⊢
    exact ⟨accounts.valid.next? taken, accounts.wired, accounts.sent, accounts.stopped,
      accounts.lost, accounts.delivered, fates, given, accounts.distinct, accounts.fits⟩
  | arrival node frame =>
    have some : item.handover? = some ⟨item.id, node, frame⟩ := by
      simp only [Scheduled.handover?, event]
    have wiring := Mesh.struck_wiring mesh (.arrival node frame)
    rw [some, Option.toList_some] at fates ⊢
    refine ⟨accounts.valid.next? taken, wiring.wired accounts.wired, accounts.sent, accounts.stopped,
      accounts.lost, ?_, fates, given, accounts.distinct,
      fun s member => (accounts.fits s member).grows wiring.grows⟩
    rw [List.length_append, List.length_singleton, ← accounts.delivered]
    rfl

variable {mesh mesh' : Mesh} {n n' : MeshNode}

theorem waited (accounts : Accounts mesh sendings handovers) (now : Time) :
    Accounts { mesh with sim := { mesh.sim with now } } sendings handovers :=
  have wait : mesh.sim.Spares (fun _ => True) { mesh.sim with now } := .wait _ _
  ⟨wait.valid accounts.valid, accounts.wired, accounts.sent, accounts.stopped, accounts.lost,
    accounts.delivered, accounts.fates, accounts.given, accounts.distinct, accounts.fits⟩

/-- Another node takes the place of one and has its address. -/
theorem node_replaced (accounts : Accounts mesh sendings handovers)
    (addresses : ∀ j, ((mesh.medium.setNode id n').node? j).map (·.eth) =
      (mesh.medium.node? j).map (·.eth)) :
    Accounts (Mesh.put mesh id n') sendings handovers := by
  refine accounts.rebuilt ⟨?_, fun j _ => addresses j, fun _ _ found => found⟩ accounts.wired rfl
  exact Nat.le_of_eq (Network.size_setNode id n').symm

theorem follows {script : List Deed} (accounts : Accounts mesh sendings handovers)
    (tidy : ∀ n, mesh.medium.node? id = some n → Desk.Tidy id ⟨n.slots, mesh⟩)
    (acted : Mesh.Follows mesh id script mesh')
    (addresses : ∀ j, (mesh'.medium.node? j).map (·.addresses) =
      (mesh.medium.node? j).map (·.addresses)) :
    Accounts mesh' (sendings ++ Mesh.sendings mesh id script) handovers := by
  unfold Mesh.Follows at acted
  unfold Mesh.sendings
  split at acted
  · next =>
    obtain ⟨rfl, rfl⟩ := acted
    rw [List.append_nil]
    exact accounts
  · next n present =>
    obtain ⟨n', mid, played, rfl⟩ := acted
    have done : Accounts (Desk.play id ⟨n.slots, mesh⟩ script).air
        (sendings ++ Desk.sendings id ⟨n.slots, mesh⟩ script) handovers :=
      accounts.play script (tidy n present)
    have wiring := Mesh.wiring_play id script ⟨n.slots, mesh⟩
    rw [played] at done wiring
    refine done.node_replaced fun j => (MeshNode.eth_congr (addresses j)).trans ?_
    rw [Network.node?_congr wiring.nodes]

/-- A node is started or shut down, which has to do with its timers only. -/
theorem timed {sim : Simulator MeshEvent} (accounts : Accounts mesh sendings handovers)
    (changes : mesh.sim.Changes n.Mine sim) (present : mesh.medium.node? id = some n)
    (same : n'.eth = n.eth) : Accounts (Mesh.put { mesh with sim } id n') sendings handovers := by
  have apart : ∀ event, n.Mine event → ¬ event.IsArrival := by
    rintro _ ⟨kind, rfl⟩
    exact Desk.Tidy.not_arrival
  exact (accounts.elsewhere changes apart).node_replaced (Network.map_setNode (·.eth) present same)

theorem started (accounts : Accounts mesh sendings handovers)
    (present : mesh.medium.node? id = some n) (changes : mesh.sim.Changes n.Mine (n.start mesh.sim).2) :
    Accounts (mesh.startNode id).2 sendings handovers := by
  simp only [Mesh.startNode, present]
  exact accounts.timed changes present rfl

theorem shutDown (accounts : Accounts mesh sendings handovers)
    (changes : ∀ n, mesh.medium.node? id = some n →
      mesh.sim.Changes n.Mine (n.shutdown mesh.sim).2) :
    Accounts (mesh.shutdownNode id).2 sendings handovers := by
  cases present : mesh.medium.node? id with
  | none =>
    simp only [Mesh.shutdownNode, present]
    exact accounts
  | some n =>
    simp only [Mesh.shutdownNode, present]
    exact accounts.timed (changes n present) present rfl

end Accounts

namespace Mesh

/-- The counts of every network that can be reached without frames from elsewhere are accounted for. -/
theorem Reached.accounts {mesh : Mesh} {past : Past} (reached : Reached False mesh past) :
    Accounts mesh past.sendings past.handovers := by
  induction reached with
  | empty => exact .empty
  | added log _ done ih =>
    obtain ⟨n, -, rfl⟩ := Network.addNode_ok done
    exact ih.rebuilt (Network.grows_withNode _ _) (ih.wired.withNode _) rfl
  | connected _ done ih =>
    obtain ⟨link, -, -, -, rfl⟩ := Network.connect_ok done
    exact ih.rebuilt (Network.grows_withLink _ link) (ih.wired.withLink link) rfl
  | @modified mesh _ source target change _ ends ih =>
    unfold Network.modifyLink
    split
    · exact ih
    · exact ih.rewired (.modify _ _ ends) rfl
  | started reached present ih =>
    exact ih.started present (reached.settled.nodes _ _ trivial present).changes_start
  | shutDown id reached ih =>
    exact ih.shutDown fun n present =>
      (reached.settled.nodes _ _ trivial present).changes_shutdown
  | measured peer now _ present ih => exact ih.node_replaced (Network.map_setNode (·.eth) present rfl)
  | @drained mesh _ id n _ present ih => exact ih.node_replaced (Network.map_setNode (·.eth) present rfl)
  | numbered _ ih => exact ih.renumbered
  | rejected _ ih => exact ih.rejected
  | sent source frame _ ih => exact ih.send source frame
  | broadcast source frame _ ih => exact ih.broadcast source frame
  | waited _ _ ih => exact ih.waited _
  | @fired mesh _ _ _ item sim _ reached taken done acted ih =>
    have settled := reached.settled
    refine (ih.begin taken).follows (fun n present => ?_) acted (settled.fired taken done).addresses
    rw [Network.node?_congr (struck_wiring { mesh with sim } item.event).nodes] at present
    have ready := (settled.nodes _ n trivial present).ready.next? taken
    rw [struck_at, ← settled.numbered _ n present]
    exact ready.tidy _
  | scheduled injects => exact injects.elim
  | delivered injects => exact injects.elim

/-- Of the frames that were put on the network each was stopped, lost, handed over once or is still to
arrive. What is carried goes from its source to the far end of the link that it is put on, and if it
is for one node then to the last one that was added with its address before it was sent. -/
theorem one_fate_each {mesh : Mesh} {past : Past} (reached : Reached False mesh past) :
    mesh.medium.stats.sentFrames = past.sendings.length ∧
    mesh.medium.stats.deliveredFrames = past.handovers.length ∧
    mesh.medium.stats.sentFrames = mesh.medium.stats.deliveredFrames +
      mesh.medium.stats.droppedLoss + mesh.medium.stats.droppedNoLink +
      (onTheWay mesh.sim).length ∧
    (past.sendings.filterMap Sending.handover?).Perm (onTheWay mesh.sim ++ past.handovers) ∧
    ((past.sendings.filterMap Sending.handover?).map (·.event)).Nodup ∧
    ∀ s ∈ past.sendings, ∀ id target event, s.passage = .carried id target event →
      (∃ link, mesh.medium.links[id]? = some link ∧ link.source = s.source ∧
        link.target = target) ∧
      (s.isCopy = false → (∃ n, mesh.medium.node? target = some n ∧ n.eth = s.frame.target) ∧
        ∀ j n, target < j → j < s.nodes → mesh.medium.node? j = some n →
          n.eth ≠ s.frame.target) := by
  have accounts := reached.accounts
  refine ⟨accounts.sent, accounts.delivered, ?_, accounts.fates, accounts.distinct,
    fun s member id target event carried => ⟨?_, fun single => ?_⟩⟩
  · have carried := accounts.fates.length_eq
    rw [List.length_append] at carried
    have every := Sending.length_eq past.sendings
    rw [accounts.sent, accounts.delivered, accounts.lost, accounts.stopped]
    omega
  · obtain ⟨link, present, ends⟩ :=
      Option.map_eq_some_iff.mp ((accounts.fits s member).ends id target event carried)
    obtain ⟨source, far⟩ := Prod.mk.inj ends
    exact ⟨link, present, source, far⟩
  · exact Network.nodeBelow?_some ((accounts.fits s member).address id target event carried single)

def greeting : Frame := ⟨0, .ofIndex 1, .ofIndex 0, 0, []⟩

def linkedPair (n m : MeshNode) : Mesh :=
  ⟨.empty, { Network.empty with
    nodes := #[n, m]
    outlets := #[[⟨1, 0⟩], []]
    links := #[Link.create 0 1 .zero 1_000_000] }⟩

def greetedPair (n m : MeshNode) : Mesh :=
  Network.transmit 0 greeting { linkedPair n m with
    medium := (linkedPair n m).medium.count fun s => { s with sentFrames := s.sentFrames + 1 } }

private theorem send_greeting {n m : MeshNode} (eth : m.eth = .ofIndex 1) :
    Network.send 0 greeting (linkedPair n m) = greetedPair n m := by
  have single : greeting.target.isBroadcast = false := by decide
  have holder (stats : Stats) : { (linkedPair n m).medium with stats }.nodeByEth? greeting.target =
      some 1 := by
    simp [Network.nodeByEth?, Network.nodeBelow?, Network.node?, linkedPair, greeting, eth]
  rw [Network.send, single]
  simp only [Bool.false_eq_true, if_false, Network.count, holder, Option.bind_some]
  rfl

/-- A frame for a neighbour is sent and handed over, and nothing is left on the way. -/
theorem greeting_handed_over : ∃ (mesh : Mesh) (past : Past), Reached False mesh past ∧
    past.handovers = [⟨0, 1, greeting⟩] ∧ mesh.medium.stats.sentFrames = 1 ∧
    onTheWay mesh.sim = [] := by
  obtain ⟨n, m, eth, pair⟩ := reached_pair
  have linked : Reached False (linkedPair n m) {} := pair.connected
    (rfl : Network.connect _ 0 1 .zero 1_000_000 0 = .ok (0, (linkedPair n m).medium))
  have sent := linked.sent 0 greeting
  rw [send_greeting eth] at sent
  obtain ⟨due, sim, taken⟩ : ∃ due sim, (greetedPair n m).sim.next? none =
      some (⟨due, 0, .arrival 1 greeting⟩, sim) := ⟨_, _, rfl⟩
  obtain ⟨mesh, done, count⟩ : ∃ mesh,
      execute { greetedPair n m with sim } (.arrival 1 greeting) = .ok mesh ∧
        mesh.medium.stats.sentFrames = 1 := ⟨_, rfl, rfl⟩
  obtain ⟨script, acted⟩ := (sent.settled.fired taken done).follows
  obtain ⟨past, handovers, reached⟩ : ∃ past : Past, past.handovers = [⟨0, 1, greeting⟩] ∧
      Reached False mesh past := ⟨_, rfl, sent.fired taken done acted⟩
  obtain ⟨-, handed, fates, -⟩ := one_fate_each reached
  rw [count, handed, handovers, List.length_singleton] at fates
  have way : (onTheWay mesh.sim).length = 0 := by omega
  exact ⟨mesh, past, reached, handovers, count, List.eq_nil_of_length_eq_zero way⟩

end Mesh

end WirelessMesh
