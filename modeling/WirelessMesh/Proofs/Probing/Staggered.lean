import WirelessMesh.Proofs.Probing.Prober
import WirelessMesh.Proofs.Probing.Replies
import WirelessMesh.Proofs.Simulation.Holding

/-!
Staggered rounds of probing. A round goes from one neighbour to the next by a chain of timers, while
neighbours are heard and new ones come. Main statement: in a round nobody is sent more than one pair, each
firing takes the lowest neighbour that is left, and when one takes none then everybody in the table has
been sent a pair. If nobody is heard during the round, it reaches those whom a batch round would reach,
in the same order.
-/
namespace WirelessMesh

namespace NeighborTable

variable {t : NeighborTable} {cutoff now now' : Time} {peer other : EtherAddress} {n : Neighbor}

def Past (t : NeighborTable) (now : Time) : Prop := ∀ peer n, t.get? peer = some n → n.lastSeen ≤ now

theorem get?_sweep_eq_some_iff :
    (t.sweep cutoff).get? peer = some n ↔ t.get? peer = some n ∧ cutoff < n.lastSeen := by
  rw [sweep, Directory.get?_filter, Option.filter_eq_some_iff, decide_eq_true_iff]

theorem get?_hear (t : NeighborTable) (peer other : EtherAddress) (now : Time) :
    (t.hear peer now).get? other =
      if other = peer then some ⟨now, ((t.get? peer).map (·.probed)).getD false⟩ else t.get? other := by
  rw [hear, Directory.get?_insert]
  exact if_congr (Ranked.rank_inj.trans eq_comm) rfl rfl

theorem get?_clearProbed (t : NeighborTable) (peer : EtherAddress) :
    t.clearProbed.get? peer = (t.get? peer).map fun n => { n with probed := false } :=
  Directory.get?_map _ _ _

theorem get?_markProbed (t : NeighborTable) (peer other : EtherAddress) :
    (t.markProbed peer).get? other =
      if other = peer then (t.get? other).map fun n => { n with probed := true }
      else t.get? other := by
  rw [markProbed, Directory.get?_modify]
  exact if_congr (Ranked.rank_inj.trans eq_comm) rfl rfl

/-- The neighbour that is taken next has not been probed and comes before all others that have not. -/
private theorem lowest_of_unprobed? (next : t.unprobed? = some peer) :
    (∃ n, t.get? peer = some n ∧ n.probed = false) ∧
      ∀ other n, t.get? other = some n → n.probed = false → rank peer ≤ rank other := by
  obtain ⟨⟨first, n⟩, found, rfl⟩ := Option.map_eq_some_iff.mp next
  obtain ⟨unprobed, before, after, whole, probed⟩ := List.find?_eq_some_iff_append.mp found
  have present : t.get? first = some n := by
    rw [Directory.get?_eq_some_iff, whole]
    exact List.mem_append_right _ List.mem_cons_self
  refine ⟨⟨n, present, by simpa using unprobed⟩, fun other m known fresh => ?_⟩
  have member := Directory.get?_eq_some_iff.mp known
  have ascending := t.ascending
  rw [whole] at member ascending
  rcases List.mem_append.mp member with earlier | later
  · have passed := probed _ earlier
    rw [fresh] at passed
    cases passed
  · rcases List.mem_cons.mp later with same | behind
    · cases same
      exact Nat.le_refl _
    · exact ((List.pairwise_cons.mp (List.pairwise_append.mp ascending).2.1).1 _ behind).le

private theorem probed_of_unprobed?_eq_none (none : t.unprobed? = .none) (present : t.get? peer = some n) :
    n.probed = true := by
  have all := List.find?_eq_none.mp (Option.map_eq_none_iff.mp none)
  simpa using all _ (Directory.get?_eq_some_iff.mp present)

namespace Past

theorem later (past : t.Past now) (on : now ≤ now') : t.Past now' :=
  fun peer n present => Nat.le_trans (past peer n present) on

theorem hear (past : t.Past now) (peer : EtherAddress) : (t.hear peer now).Past now := by
  intro other n present
  rw [get?_hear] at present
  split at present
  · cases present
    exact Nat.le_refl _
  · exact past other n present

theorem sweep (past : t.Past now) (cutoff : Time) : (t.sweep cutoff).Past now :=
  fun peer n present => past peer n (get?_sweep_eq_some_iff.mp present).1

theorem clearProbed (past : t.Past now) : t.clearProbed.Past now := by
  intro peer n present
  rw [get?_clearProbed] at present
  obtain ⟨before, known, rfl⟩ := Option.map_eq_some_iff.mp present
  exact past peer before known

theorem markProbed (past : t.Past now) (peer : EtherAddress) : (t.markProbed peer).Past now := by
  intro other n present
  rw [get?_markProbed] at present
  split at present
  · obtain ⟨before, known, rfl⟩ := Option.map_eq_some_iff.mp present
    exact past other before known
  · exact past other n present

end Past

theorem keys_sweep_map (t : NeighborTable) (cutoff : Time)
    {change : EtherAddress → Neighbor → Neighbor}
    (same : ∀ peer n, (change peer n).lastSeen = n.lastSeen) :
    (sweep (t.map change) cutoff).keys = (t.sweep cutoff).keys := by
  show ((t.entries.map fun e => (e.1, change e.1 e.2)).filter fun e => cutoff < e.2.lastSeen).map (·.1) =
    (t.entries.filter fun e => cutoff < e.2.lastSeen).map (·.1)
  rw [List.filter_map, List.map_map]
  simp only [Function.comp_def, same]

private theorem keys_sweep_clearProbed (t : NeighborTable) (cutoff : Time) :
    (t.clearProbed.sweep cutoff).keys = (t.sweep cutoff).keys :=
  t.keys_sweep_map cutoff fun _ _ => rfl

private theorem keys_sweep_markProbed (t : NeighborTable) (cutoff : Time) (peer : EtherAddress) :
    ((t.markProbed peer).sweep cutoff).keys = (t.sweep cutoff).keys := by
  refine t.keys_sweep_map cutoff fun other n => ?_
  simp only
  split <;> rfl

private theorem sweep_sweep (t : NeighborTable) (cutoff : Time) :
    (t.sweep cutoff).sweep cutoff = t.sweep cutoff := by
  refine Directory.ext ?_
  show (t.entries.filter _).filter (fun e => decide (cutoff < e.2.lastSeen)) =
    t.entries.filter fun e => decide (cutoff < e.2.lastSeen)
  rw [List.filter_filter]
  simp only [Bool.and_self]

end NeighborTable

namespace Prober

variable {μ : Type} [Medium μ]

/-- The neighbour to whom the next firing of the probe timer sends a pair. -/
def nextPeer? (p : Prober) : Option EtherAddress := (p.neighbors.sweep p.rounds.cutoff).unprobed?

/-- A prober at the beginning of a staggered round: the round has its cutoff and nobody is probed yet. -/
def opened (p : Prober) (now : Time) : Prober :=
  { p with rounds := p.rounds.beginRound now, neighbors := p.neighbors.clearProbed }

/-- The time of the next round is set when a round has begun. -/
def setNextRound (begun : Prober × Air μ) (now : Time) : Prober × Air μ :=
  let (delay, rounds) := begun.1.rounds.nextRoundDelay begun.1.eth now
  let (rounds, sim) := rounds.armRound begun.2.sim delay begun.1.node
  ({ begun.1 with rounds }, { begun.2 with sim })

variable {p p' start : Prober} {air : Air μ} {cutoff now now' opening : Time} {peer : EtherAddress}
  {sent heard : List EtherAddress} {frame : Frame}

theorem sendPair_same (p : Prober) (peer : EtherAddress) (air : Air μ) :
    (p.sendPair peer air).1.neighbors = p.neighbors ∧ (p.sendPair peer air).1.rounds = p.rounds ∧
      (p.sendPair peer air).1.node = p.node := by
  simp only [sendPair, pendingReport]
  split <;> exact ⟨rfl, rfl, rfl⟩

private theorem neighbors_probeAll (peers : List EtherAddress) : ∀ (p : Prober) (air : Air μ),
    (p.probeAll peers air).1.neighbors = p.neighbors := by
  induction peers with
  | nil => exact fun _ _ => rfl
  | cons peer rest ih => exact fun p air => (ih _ _).trans (sendPair_same p peer air).1

theorem probeNext_none (none : p.nextPeer? = .none) (air : Air μ) :
    p.probeNext air = ({ p with neighbors := p.neighbors.sweep p.rounds.cutoff }, air) := by
  unfold nextPeer? at none
  simp only [probeNext, none]

/-- The pair is sent, the neighbour is marked and the timer is set. -/
theorem probeNext_some (next : p.nextPeer? = some peer) (air : Air μ) :
    (p.probeNext air).1.neighbors = (p.neighbors.sweep p.rounds.cutoff).markProbed peer ∧
    (p.probeNext air).2.medium = (p.sendPair peer air).2.medium ∧
    ((p.probeNext air).1.rounds.probeTimer, (p.probeNext air).2.sim) =
      p.rounds.probeTimer.rearm (p.sendPair peer air).2.sim p.rounds.probeDelay
        (.timer p.node .probeNext) := by
  have same : ({ p with neighbors := p.neighbors.sweep p.rounds.cutoff }.sendPair peer air).2 =
      (p.sendPair peer air).2 := by
    simp only [sendPair, pendingReport]
    split <;> rfl
  unfold nextPeer? at next
  obtain ⟨neighbors, rounds, node⟩ :=
    sendPair_same { p with neighbors := p.neighbors.sweep p.rounds.cutoff } peer air
  simp only [probeNext, next, same, neighbors, rounds, node, ProbeRounds.armProbe, and_self]

theorem neighbors_probeNext (p : Prober) (air : Air μ) : (p.probeNext air).1.neighbors =
    match p.nextPeer? with
    | none => p.neighbors.sweep p.rounds.cutoff
    | some peer => (p.neighbors.sweep p.rounds.cutoff).markProbed peer := by
  cases next : p.nextPeer? with
  | none => rw [probeNext_none next]
  | some peer => exact (probeNext_some next air).1

private theorem cutoff_probeNext (p : Prober) (air : Air μ) :
    (p.probeNext air).1.rounds.cutoff = p.rounds.cutoff := by
  unfold probeNext
  simp only
  split
  · rfl
  · exact congrArg (·.cutoff) (sendPair_same _ _ air).2.1

theorem onRoundTimer_staggered (staggered : p.rounds.schedule = .staggered) (air : Air μ) :
    p.onRoundTimer air = setNextRound ((p.opened air.now).probeNext air) air.now := by
  simp only [onRoundTimer, ProbeRounds.beginRound, staggered, opened, setNextRound]

private theorem neighbors_onRoundTimer_batch (batch : p.rounds.schedule = .batch) (air : Air μ) :
    (p.onRoundTimer air).1.neighbors = p.neighbors.sweep (p.rounds.beginRound air.now).cutoff := by
  simp only [onRoundTimer, ProbeRounds.beginRound, batch]
  exact neighbors_probeAll _ _ air

omit [Medium μ] in
private theorem cutoff_setNextRound (begun : Prober × Air μ) (now : Time) :
    (setNextRound begun now).1.rounds.cutoff = begun.1.rounds.cutoff := by
  show (begun.1.rounds.nextRoundDelay begun.1.eth now).2.cutoff = _
  unfold ProbeRounds.nextRoundDelay
  split
  · simp only
    split <;> rfl
  · rfl

/-- Frames that are not discovery frames leave the neighbours alone, and no frame moves the cutoff. -/
theorem neighbors_onFrame (p : Prober) (frame : Frame) (air : Air μ) :
    (p.onFrame frame air).2.1.neighbors =
      (if frame.type = FrameType.discovery then p.neighbors.hear frame.source air.now
        else p.neighbors) ∧
    (p.onFrame frame air).2.1.rounds = p.rounds := by
  have report (q : Prober) (now : Time) : (q.takeReport frame now).neighbors = q.neighbors ∧
      (q.takeReport frame now).rounds = q.rounds := by
    unfold takeReport
    split
    · exact ⟨rfl, rfl⟩
    · split <;> exact ⟨rfl, rfl⟩
  have probe (probe : LinkProbe) : (p.onProbe frame probe air).1.neighbors = p.neighbors ∧
      (p.onProbe frame probe air).1.rounds = p.rounds := by
    unfold onProbe
    simp only
    split
    · exact report _ _
    · split <;> exact ⟨rfl, rfl⟩
  unfold onFrame
  split
  · exact ⟨rfl, rfl⟩
  · split
    · split
      · exact ⟨rfl, rfl⟩
      · split
        · split
          · exact ⟨rfl, rfl⟩
          · split
            · exact probe _
            · exact ⟨rfl, rfl⟩
        · exact report p air.now
    · exact ⟨rfl, rfl⟩

/-- A prober after calls in order of time. What is done to it besides, such as starting and stopping it or
looking for delays, leaves its neighbours alone. -/
inductive Timely (μ : Type) [Medium μ] : Prober → Time → Prop
  | created {node : NodeId} {config : ProbingConfig} {random : RandomSource} {salt : UInt64}
      {p : Prober} (done : create node config random salt = .ok p) : Timely μ p .zero
  | heard {p : Prober} {now now' : Time} (timely : Timely μ p now) (peer : EtherAddress)
      (on : now ≤ now') : Timely μ (p.onDiscovery peer now') now'
  | took {p : Prober} {now : Time} (timely : Timely μ p now) (frame : Frame) (air : Air μ)
      (on : now ≤ air.now) : Timely μ (p.onFrame frame air).2.1 air.now
  | begun {p : Prober} {now : Time} (timely : Timely μ p now) (air : Air μ) (on : now ≤ air.now) :
      Timely μ (p.onRoundTimer air).1 air.now
  | fired {p : Prober} {now : Time} (timely : Timely μ p now) (air : Air μ) (on : now ≤ air.now) :
      Timely μ (p.onProbeTimer air).1 air.now
  | aside {p p' : Prober} {now : Time} (timely : Timely μ p now)
      (same : p'.neighbors = p.neighbors) : Timely μ p' now

/-- A staggered round from its beginning up to a moment: to whom pairs have been sent in it, the first
one first, and who was heard since. Discovery frames come in order of time. -/
inductive Round (μ : Type) [Medium μ] (start : Prober) (opening : Time) :
    Prober → List EtherAddress → List EtherAddress → Time → Prop
  | begun (air : Air μ) (on : air.now = opening) :
      Round μ start opening (start.onRoundTimer air).1 (start.opened opening).nextPeer?.toList [] opening
  | fired {p : Prober} {sent heard : List EtherAddress} {now : Time}
      (round : Round μ start opening p sent heard now) (air : Air μ) :
      Round μ start opening (p.onProbeTimer air).1 (sent ++ p.nextPeer?.toList) heard now
  | heard {p : Prober} {sent heard : List EtherAddress} {now now' : Time}
      (round : Round μ start opening p sent heard now) (peer : EtherAddress) (on : now ≤ now') :
      Round μ start opening (p.onDiscovery peer now') sent (heard ++ [peer]) now'
  | took {p : Prober} {sent heard : List EtherAddress} {now : Time}
      (round : Round μ start opening p sent heard now) (frame : Frame) (air : Air μ)
      (on : now ≤ air.now) :
      Round μ start opening (p.onFrame frame air).2.1 sent
        (heard ++ if frame.type = FrameType.discovery then [frame.source] else []) air.now
  | aside {p p' : Prober} {sent heard : List EtherAddress} {now : Time}
      (round : Round μ start opening p sent heard now) (same : p'.neighbors = p.neighbors)
      (cutoff : p'.rounds.cutoff = p.rounds.cutoff) : Round μ start opening p' sent heard now

/-- A neighbour who is still to be sent a pair in a round. -/
def Lacks (p : Prober) (cutoff : Time) (sent : List EtherAddress) (peer : EtherAddress) : Prop :=
  peer ∉ sent ∧ ∃ n, p.neighbors.get? peer = some n ∧ cutoff < n.lastSeen

/-- A firing at a point of a round sends one pair, first a frame with number one and then a frame with
number two, to the lowest neighbour who lacks one, and sets the probe timer; or it does neither, and then
everybody left in the table has been sent just one pair. -/
structure Fires (p : Prober) (cutoff : Time) (sent : List EtherAddress) (air : Air μ) (p' : Prober)
    (air' : Air μ) : Prop where
  sends : ∀ peer, p.nextPeer? = some peer → p.Lacks cutoff sent peer ∧
    (∀ other, p.Lacks cutoff sent other → rank peer ≤ rank other) ∧
    let report := (p.pendingReport peer air.now).1
    let pair := (air.post p.node (p.pairDraft peer 1 p.config.firstSize report)).post p.node
      (p.pairDraft peer 2 p.config.secondSize report)
    air'.medium = pair.medium ∧
    (p'.rounds.probeTimer, air'.sim) =
      p.rounds.probeTimer.rearm pair.sim p.rounds.probeDelay (.timer p.node .probeNext) ∧
    p'.rounds.probeTimer.isArmed air'.sim = true
  rests : p.nextPeer? = none → air' = air ∧ p'.rounds = p.rounds ∧
    ∀ peer n, p'.neighbors.get? peer = some n → sent.count peer = 1 ∧ cutoff < n.lastSeen

theorem Timely.past (timely : Timely μ p now) : p.neighbors.Past now := by
  have fired {p : Prober} {air : Air μ} {now : Time} (past : p.neighbors.Past now) :
      (p.probeNext air).1.neighbors.Past now := by
    rw [neighbors_probeNext]
    split
    · exact past.sweep _
    · exact (past.sweep _).markProbed _
  induction timely with
  | created done =>
    simp only [create, bind, Except.bind] at done
    split at done
    · cases done
    · split at done
      · cases done
      · cases done
        exact nofun
  | heard _ peer on ih => exact (ih.later on).hear peer
  | took _ frame air on ih =>
    rw [(neighbors_onFrame _ frame air).1]
    split
    · exact (ih.later on).hear _
    · exact ih.later on
  | @begun p _ _ air on ih =>
    cases schedule : p.rounds.schedule with
    | staggered =>
      rw [onRoundTimer_staggered schedule]
      exact fired (ih.later on).clearProbed
    | batch =>
      rw [neighbors_onRoundTimer_batch schedule]
      exact (ih.later on).sweep _
  | fired _ air on ih => exact fired (ih.later on)
  | aside _ same ih => exact same ▸ ih

/-- What holds of a prober at a point of a round. Whoever was sent a pair in it is marked and is still
there, since no discovery frame makes a neighbour older. -/
structure Underway (p : Prober) (cutoff : Time) (sent : List EtherAddress) (now : Time) : Prop where
  limit : p.rounds.cutoff = cutoff
  past : p.neighbors.Past now
  once : sent.Nodup
  marked : ∀ peer n, p.neighbors.get? peer = some n → (n.probed = true ↔ peer ∈ sent)
  kept : ∀ peer ∈ sent, ∃ n, p.neighbors.get? peer = some n ∧ cutoff < n.lastSeen

private theorem lacks_iff : p.Lacks cutoff sent peer ↔
    peer ∈ (p.neighbors.sweep cutoff).keys ∧ peer ∉ sent := by
  rw [Lacks, Directory.mem_keys_iff, Option.isSome_iff_exists, and_comm]
  simp only [NeighborTable.get?_sweep_eq_some_iff]

namespace Underway

theorem opened (past : p.neighbors.Past now) (opening : Time) :
    (p.opened opening).Underway (p.rounds.beginRound opening).cutoff [] now where
  limit := rfl
  past := past.clearProbed
  once := .nil
  marked peer n present := by
    obtain ⟨before, -, rfl⟩ :=
      Option.map_eq_some_iff.mp ((NeighborTable.get?_clearProbed _ peer).symm.trans present)
    simp
  kept _ member := absurd member List.not_mem_nil

theorem congr (underway : p.Underway cutoff sent now) (neighbors : p'.neighbors = p.neighbors)
    (same : p'.rounds.cutoff = p.rounds.cutoff) : p'.Underway cutoff sent now where
  limit := same.trans underway.limit
  past := neighbors ▸ underway.past
  once := underway.once
  marked := neighbors ▸ underway.marked
  kept := neighbors ▸ underway.kept

theorem hear (underway : p.Underway cutoff sent now) (peer : EtherAddress) (on : now ≤ now') :
    (p.onDiscovery peer now').Underway cutoff sent now' where
  limit := underway.limit
  past := (underway.past.later on).hear peer
  once := underway.once
  marked other n present := by
    rw [onDiscovery, NeighborTable.get?_hear] at present
    split at present
    · next own =>
      subst own
      cases present
      cases known : p.neighbors.get? other with
      | some before => exact underway.marked other before known
      | none =>
        refine ⟨nofun, fun member => ?_⟩
        obtain ⟨before, there, -⟩ := underway.kept other member
        cases known.symm.trans there
    · exact underway.marked other n present
  kept other member := by
    obtain ⟨before, there, fresh⟩ := underway.kept other member
    rw [onDiscovery, NeighborTable.get?_hear]
    split
    · refine ⟨_, rfl, ?_⟩
      exact Nat.lt_of_lt_of_le fresh (Nat.le_trans (underway.past other before there) on)
    · exact ⟨before, there, fresh⟩

/-- Who is taken next is the lowest of those who lack a pair. -/
theorem lowest (underway : p.Underway cutoff sent now) (next : p.nextPeer? = some peer) :
    p.Lacks cutoff sent peer ∧ ∀ other, p.Lacks cutoff sent other → rank peer ≤ rank other := by
  rw [nextPeer?, underway.limit] at next
  obtain ⟨⟨n, present, fresh⟩, least⟩ := NeighborTable.lowest_of_unprobed? next
  obtain ⟨known, late⟩ := NeighborTable.get?_sweep_eq_some_iff.mp present
  refine ⟨⟨fun member => ?_, n, known, late⟩, ?_⟩
  · rw [(underway.marked peer n known).mpr member] at fresh
    cases fresh
  · rintro other ⟨unsent, m, there, later⟩
    refine least other m (NeighborTable.get?_sweep_eq_some_iff.mpr ⟨there, later⟩) ?_
    exact Bool.eq_false_iff.mpr fun marked => unsent ((underway.marked other m there).mp marked)

theorem served (underway : p.Underway cutoff sent now) (none : p.nextPeer? = none) :
    ¬ p.Lacks cutoff sent peer := by
  rw [nextPeer?, underway.limit] at none
  rintro ⟨unsent, n, known, late⟩
  have present := NeighborTable.get?_sweep_eq_some_iff.mpr ⟨known, late⟩
  exact unsent ((underway.marked peer n known).mp
    (NeighborTable.probed_of_unprobed?_eq_none none present))

theorem fires (underway : p.Underway cutoff sent now) (air : Air μ) :
    p.Fires cutoff sent air (p.probeNext air).1 (p.probeNext air).2 where
  sends peer next := by
    obtain ⟨lacks, least⟩ := underway.lowest next
    obtain ⟨-, carried, armed⟩ := probeNext_some next air
    rw [sendPair_eq] at carried armed
    refine ⟨lacks, least, carried, armed, ?_⟩
    obtain ⟨slot, sim⟩ := Prod.mk.inj armed
    rw [slot, sim]
    exact TimerSlot.isArmed_rearm _ _ _ _
  rests none := by
    rw [probeNext_none none]
    refine ⟨rfl, rfl, fun peer n present => ?_⟩
    obtain ⟨known, late⟩ := NeighborTable.get?_sweep_eq_some_iff.mp (underway.limit ▸ present)
    refine ⟨List.count_eq_one_of_mem underway.once ?_, late⟩
    by_contra unsent
    exact underway.served none ⟨unsent, n, known, late⟩

theorem fired (underway : p.Underway cutoff sent now) (air : Air μ) :
    (p.probeNext air).1.Underway cutoff (sent ++ p.nextPeer?.toList) now := by
  have swept {other : EtherAddress} {n : Neighbor} :
      (p.neighbors.sweep p.rounds.cutoff).get? other = some n ↔
        p.neighbors.get? other = some n ∧ cutoff < n.lastSeen := by
    rw [underway.limit, NeighborTable.get?_sweep_eq_some_iff]
  have same := (cutoff_probeNext p air).trans underway.limit
  have neighbors := neighbors_probeNext p air
  cases next : p.nextPeer? with
  | none =>
    rw [next] at neighbors
    rw [Option.toList_none, List.append_nil]
    refine ⟨same, neighbors ▸ underway.past.sweep _, underway.once, fun other n present => ?_,
      fun other member => ?_⟩
    · rw [neighbors, swept] at present
      exact underway.marked other n present.1
    · obtain ⟨n, there, late⟩ := underway.kept other member
      exact ⟨n, neighbors ▸ swept.mpr ⟨there, late⟩, late⟩
  | some peer =>
    rw [next] at neighbors
    obtain ⟨⟨unsent, first, found, fresh⟩, -⟩ := underway.lowest next
    rw [Option.toList_some]
    refine ⟨same, neighbors ▸ (underway.past.sweep _).markProbed peer, ?_, fun other n present => ?_,
      fun other member => ?_⟩
    · exact List.nodup_append_comm.mp (List.nodup_cons.mpr ⟨unsent, underway.once⟩)
    · rw [neighbors, NeighborTable.get?_markProbed] at present
      split at present
      · next own =>
        obtain ⟨before, -, rfl⟩ := Option.map_eq_some_iff.mp present
        simp [own]
      · next other' =>
        rw [underway.marked other n (swept.mp present).1]
        simp [other']
    · rw [neighbors, NeighborTable.get?_markProbed]
      split
      · next own =>
        subst own
        rw [swept.mpr ⟨found, fresh⟩]
        exact ⟨_, rfl, fresh⟩
      · next other' =>
        have before : other ∈ sent := by simpa [other'] using member
        obtain ⟨n, there, late⟩ := underway.kept other before
        exact ⟨n, swept.mpr ⟨there, late⟩, late⟩

end Underway

theorem Round.underway (round : Round μ start opening p sent heard now)
    (staggered : start.rounds.schedule = .staggered) (past : start.neighbors.Past opening) :
    p.Underway (start.rounds.beginRound opening).cutoff sent now := by
  induction round with
  | begun air on =>
    subst on
    have fired := (Underway.opened past air.now).fired air
    rw [onRoundTimer_staggered staggered]
    exact fired.congr rfl (cutoff_setNextRound _ _)
  | fired _ air ih => exact ih.fired air
  | heard _ peer on ih => exact ih.hear peer on
  | @took p _ _ _ _ frame air on ih =>
    obtain ⟨neighbors, rounds⟩ := neighbors_onFrame p frame air
    split at neighbors
    · exact (ih.hear frame.source on).congr neighbors (congrArg (·.cutoff) rounds)
    · refine Underway.congr ?_ neighbors (congrArg (·.cutoff) rounds)
      exact ⟨ih.limit, ih.past.later on, ih.once, ih.marked, ih.kept⟩
  | aside _ same cutoff ih => exact ih.congr same cutoff

/-- The neighbours of a round are those that were there at its beginning, and pairs have been sent to the
first of them. -/
structure InTurn (p : Prober) (cutoff : Time) (all sent : List EtherAddress) : Prop where
  whole : (p.neighbors.sweep cutoff).keys = all
  front : sent <+: all

namespace InTurn

variable {all : List EtherAddress}

theorem opened (p : Prober) (opening : Time) : (p.opened opening).InTurn
    (p.rounds.beginRound opening).cutoff
    (p.neighbors.sweep (p.rounds.beginRound opening).cutoff).keys [] :=
  ⟨NeighborTable.keys_sweep_clearProbed _ _, List.nil_prefix⟩

theorem congr (turn : p.InTurn cutoff all sent) (neighbors : p'.neighbors = p.neighbors) :
    p'.InTurn cutoff all sent :=
  ⟨neighbors ▸ turn.whole, turn.front⟩

theorem lacks_iff (turn : p.InTurn cutoff (sent ++ all) sent) : p.Lacks cutoff sent peer ↔ peer ∈ all := by
  have distinct : (sent ++ all).Nodup := by
    rw [← turn.whole]
    exact (Directory.keys_ascending _).imp fun before same => Nat.ne_of_lt before (congrArg rank same)
  rw [Prober.lacks_iff, turn.whole, List.mem_append]
  constructor
  · rintro ⟨early | late, unsent⟩
    · exact absurd early unsent
    · exact late
  · exact fun member => ⟨.inr member, fun early => (List.nodup_append.mp distinct).2.2 _ early _ member rfl⟩

theorem next (turn : p.InTurn cutoff all sent) (underway : p.Underway cutoff sent now)
    (next : p.nextPeer? = some peer) : sent ++ [peer] <+: all := by
  obtain ⟨rest, rfl⟩ := turn.front
  obtain ⟨lacks, least⟩ := underway.lowest next
  have ascending := Directory.keys_ascending (p.neighbors.sweep cutoff)
  rw [turn.whole] at ascending
  cases rest with
  | nil => exact absurd (turn.lacks_iff.mp lacks) List.not_mem_nil
  | cons first rest =>
    rcases List.mem_cons.mp (turn.lacks_iff.mp lacks) with rfl | behind
    · exact ⟨rest, by simp⟩
    · have before := least first (turn.lacks_iff.mpr List.mem_cons_self)
      have after := (List.pairwise_cons.mp (List.pairwise_append.mp ascending).2.1).1 peer behind
      exact absurd before (Nat.not_le_of_lt after)

theorem finished (turn : p.InTurn cutoff all sent) (underway : p.Underway cutoff sent now)
    (none : p.nextPeer? = none) : sent = all := by
  obtain ⟨rest, rfl⟩ := turn.front
  cases rest with
  | nil => exact (List.append_nil sent).symm
  | cons first rest => exact absurd (turn.lacks_iff.mpr List.mem_cons_self) (underway.served none)

theorem fired (turn : p.InTurn cutoff all sent) (underway : p.Underway cutoff sent now) (air : Air μ) :
    (p.probeNext air).1.InTurn cutoff all (sent ++ p.nextPeer?.toList) := by
  have neighbors := neighbors_probeNext p air
  rw [underway.limit] at neighbors
  cases next : p.nextPeer? with
  | none =>
    rw [next] at neighbors
    rw [Option.toList_none, List.append_nil]
    refine ⟨?_, turn.front⟩
    rw [neighbors, NeighborTable.sweep_sweep]
    exact turn.whole
  | some peer =>
    rw [next] at neighbors
    refine ⟨?_, turn.next underway next⟩
    rw [neighbors, NeighborTable.keys_sweep_markProbed, NeighborTable.sweep_sweep]
    exact turn.whole

end InTurn

theorem Round.inTurn (round : Round μ start opening p sent heard now)
    (staggered : start.rounds.schedule = .staggered) (past : start.neighbors.Past opening)
    (quiet : heard = []) : p.InTurn (start.rounds.beginRound opening).cutoff
      (start.neighbors.sweep (start.rounds.beginRound opening).cutoff).keys sent := by
  induction round with
  | begun air on =>
    subst on
    have fired := (InTurn.opened start air.now).fired (Underway.opened past air.now) air
    rw [onRoundTimer_staggered staggered]
    exact fired.congr rfl
  | fired round air ih => exact (ih quiet).fired (round.underway staggered past) air
  | heard => simp at quiet
  | @took p _ _ _ _ frame air on ih =>
    obtain ⟨neighbors, -⟩ := neighbors_onFrame p frame air
    split at neighbors
    · next discovery => simp [discovery] at quiet
    · next other =>
      rw [if_neg other, List.append_nil] at quiet
      exact (ih quiet).congr neighbors
  | aside _ same _ ih => exact (ih quiet).congr same

/-- Whoever is heard in the course of a staggered round, nobody is sent more than one pair in it. The
firing of the round timer with which it begins, before the next round is set, and each firing of the
probe timer after that take the lowest neighbour that is left, or set no timer when everybody who is
there has been sent just one pair. If nobody is heard, pairs go to the neighbours whom a batch round
would keep, in the same order. -/
theorem staggered_round_probes_each_once {before : Time} (timely : Timely μ start before)
    (on : before ≤ opening) (staggered : start.rounds.schedule = .staggered)
    (round : Round μ start opening p sent heard now) :
    sent.Nodup ∧
    (∀ air : Air μ, air.now = opening → ∃ begun : Prober × Air μ,
      start.onRoundTimer air = setNextRound begun opening ∧
        (start.opened opening).Fires (start.rounds.beginRound opening).cutoff [] air begun.1 begun.2) ∧
    (∀ air : Air μ, p.Fires (start.rounds.beginRound opening).cutoff sent air (p.onProbeTimer air).1
      (p.onProbeTimer air).2) ∧
    (heard = [] → sent <+: (start.neighbors.sweep (start.rounds.beginRound opening).cutoff).keys ∧
      (p.nextPeer? = none →
        sent = (start.neighbors.sweep (start.rounds.beginRound opening).cutoff).keys)) := by
  have past := timely.past.later on
  have underway := round.underway staggered past
  refine ⟨underway.once, fun air here => ?_, fun air => underway.fires air, fun quiet => ?_⟩
  · subst here
    exact ⟨_, onRoundTimer_staggered staggered air, (Underway.opened past air.now).fires air⟩
  · have turn := round.inTurn staggered past quiet
    exact ⟨turn.front, turn.finished underway⟩

def acquainted : Option Prober :=
  (create 0 { eth := some (.ofIndex 0) } (.ofSeed 0) 0).toOption.map fun p =>
    (p.onDiscovery (.ofIndex 3) (.ofSeconds 1)).onDiscovery (.ofIndex 5) (.ofSeconds 1)

/-- Its round has begun, and a neighbour with a lower address comes. -/
def joined (p : Prober) : Prober :=
  (p.onRoundTimer (stillAir (.ofSeconds 2))).1.onDiscovery (.ofIndex 1) (.ofSeconds 2)

def goneOn (p : Prober) : Prober := (p.onProbeTimer (stillAir (.ofSeconds 2))).1

private theorem acquainted_seen : acquainted.map (fun p => (p.rounds.schedule,
    (p.opened (.ofSeconds 2)).nextPeer?, p.joined.nextPeer?, p.joined.goneOn.nextPeer?,
    p.joined.goneOn.goneOn.nextPeer?)) =
      some (.staggered, some (.ofIndex 3), some (.ofIndex 1), some (.ofIndex 5), none) := by
  decide +kernel

/-- A neighbour who comes in the course of a round is sent a pair in it as well, though the round is
already past that address. -/
theorem newcomer_probed_in_round : ∃ start p : Prober, Timely Transcript start (.ofSeconds 1) ∧
    start.rounds.schedule = .staggered ∧
    Round Transcript start (.ofSeconds 2) p [.ofIndex 3, .ofIndex 1, .ofIndex 5] [.ofIndex 1]
      (.ofSeconds 2) ∧
    p.nextPeer? = none ∧
    ∀ peer n, (p.onProbeTimer (stillAir (.ofSeconds 3))).1.neighbors.get? peer = some n →
      [EtherAddress.ofIndex 3, .ofIndex 1, .ofIndex 5].count peer = 1 := by
  obtain ⟨start, made, seen⟩ := Option.map_eq_some_iff.mp acquainted_seen
  obtain ⟨staggered, seen⟩ := Prod.mk.inj seen
  obtain ⟨first, seen⟩ := Prod.mk.inj seen
  obtain ⟨second, seen⟩ := Prod.mk.inj seen
  obtain ⟨third, last⟩ := Prod.mk.inj seen
  have timely : Timely Transcript start (.ofSeconds 1) := by
    obtain ⟨new, created, rfl⟩ := Option.map_eq_some_iff.mp made
    have done : create 0 { eth := some (.ofIndex 0) } (.ofSeed 0) 0 = .ok new := by
      revert created
      cases create 0 { eth := some (.ofIndex 0) } (.ofSeed 0) 0 with
      | error cause => exact nofun
      | ok p => exact fun same => congrArg _ (Option.some.inj same)
    exact ((Timely.created done).heard (.ofIndex 3) (by decide)).heard (.ofIndex 5) (by decide)
  have begun : Round Transcript start (.ofSeconds 2) _ _ [] (.ofSeconds 2) :=
    .begun (stillAir (.ofSeconds 2)) rfl
  have came : Round Transcript start (.ofSeconds 2) start.joined _ _ (.ofSeconds 2) :=
    begun.heard (.ofIndex 1) (by decide)
  have round := (came.fired (stillAir (.ofSeconds 2))).fired (stillAir (.ofSeconds 2))
  have named : Round Transcript start (.ofSeconds 2) start.joined.goneOn.goneOn
      [.ofIndex 3, .ofIndex 1, .ofIndex 5] [.ofIndex 1] (.ofSeconds 2) := by
    have same : ((start.opened (.ofSeconds 2)).nextPeer?.toList ++ start.joined.nextPeer?.toList) ++
        start.joined.goneOn.nextPeer?.toList = [.ofIndex 3, .ofIndex 1, .ofIndex 5] := by
      rw [first, second, third]
      rfl
    exact same ▸ round
  obtain ⟨-, -, fires, -⟩ := staggered_round_probes_each_once timely (by decide) staggered named
  refine ⟨start, _, timely, staggered, named, last, fun peer n present => ?_⟩
  exact (((fires (stillAir (.ofSeconds 3))).rests last).2.2 peer n present).1

end Prober

end WirelessMesh
