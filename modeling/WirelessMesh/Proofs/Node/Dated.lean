import WirelessMesh.Proofs.Node.Settled
import WirelessMesh.Proofs.Probing.Reports
import WirelessMesh.Proofs.Route.History

namespace WirelessMesh

namespace Prober

variable {μ : Type} [Medium μ]

private theorem reverse_pendingReport (p : Prober) (peer : EtherAddress) (now : Time) :
    (p.pendingReport peer now).2.sampler.reverse = p.sampler.reverse := by
  unfold pendingReport
  split <;> rfl

theorem reverse_sendPair (p : Prober) (peer : EtherAddress) (air : Air μ) :
    (p.sendPair peer air).1.sampler.reverse = p.sampler.reverse :=
  reverse_pendingReport p peer air.now

theorem reverse_probeNext (p : Prober) (air : Air μ) :
    (p.probeNext air).1.sampler.reverse = p.sampler.reverse := by
  unfold probeNext
  simp only
  split
  · rfl
  · exact reverse_sendPair _ _ air

private theorem reverse_probeAll (peers : List EtherAddress) : ∀ (p : Prober) (air : Air μ),
    (p.probeAll peers air).1.sampler.reverse = p.sampler.reverse := by
  induction peers with
  | nil => exact fun _ _ => rfl
  | cons peer rest ih => exact fun p air => (ih _ _).trans (reverse_sendPair p peer air)

private theorem reverse_onRoundTimer (p : Prober) (air : Air μ) :
    (p.onRoundTimer air).1.sampler.reverse = p.sampler.reverse := by
  unfold onRoundTimer
  cases schedule : p.rounds.schedule with
  | staggered =>
    simp only [ProbeRounds.beginRound, schedule]
    exact reverse_probeNext _ air
  | batch =>
    simp only [ProbeRounds.beginRound, schedule]
    exact reverse_probeAll _ _ air

variable {p : Prober} {air : Air μ} {now : Time}

theorem dated_takeReport (dated : p.sampler.Dated now) (frame : Frame) :
    (p.takeReport frame now).sampler.Dated now := by
  unfold takeReport
  split
  · exact dated
  · split
    · exact dated.recordReverse _ _
    · exact dated

private theorem dated_onProbe (dated : p.sampler.Dated air.now) (frame : Frame) (probe : LinkProbe) :
    (p.onProbe frame probe air).1.sampler.Dated air.now := by
  unfold onProbe
  have measured : (p.sampler.recordForward frame.source probe.seq air.now).2.Dated air.now :=
    dated.congr rfl
  simp only
  split
  · have stored : { p with sampler := (p.sampler.recordForward frame.source probe.seq
        air.now).2 }.sampler.Dated air.now := measured
    exact dated_takeReport stored frame
  · split
    · exact measured.congr rfl
    · exact measured.congr rfl

private theorem dated_onFrame (dated : p.sampler.Dated air.now) (frame : Frame) :
    (p.onFrame frame air).2.1.sampler.Dated air.now := by
  unfold onFrame
  split
  · exact dated
  · split
    · split
      · exact dated
      · split
        · split
          · exact dated
          · split
            · exact dated_onProbe dated frame _
            · exact dated
        · exact dated_takeReport dated frame
    · exact dated

end Prober

namespace DeliveryRates

/-- When discovery frames of a peer came, the oldest first. -/
def arrivalsOf (d : DeliveryRates) (peer : EtherAddress) : List Time :=
  ((d.peers.get? peer).getD {}).arrivals

def Dated (d : DeliveryRates) (now : Time) : Prop := ∀ peer, InOrder (d.arrivalsOf peer) now

variable {d : DeliveryRates} {now : Time}

theorem Dated.hear (dated : d.Dated now) (peer : EtherAddress) (probe : DiscoveryProbe) :
    (d.hear peer probe now).Dated now := by
  intro other
  simp only [arrivalsOf, DeliveryRates.hear, Directory.get?_insert, Ranked.rank_inj]
  split
  · have whole : InOrder (d.arrivalsOf peer ++ [now]) now :=
      (dated peer).append fun time member => List.mem_singleton.mp member
    exact whole.sublist (List.dropWhile_sublist _)
  · exact dated other

theorem Dated.onFrame (dated : d.Dated now) (frame : Frame) : (d.onFrame frame now).Dated now := by
  unfold DeliveryRates.onFrame
  split
  · exact dated.hear _ _
  · exact dated

end DeliveryRates

namespace RouteTable

variable {t t' : RouteTable} {now : Time} {drops : Bool}

private theorem pending_after {event : RouteLogEvent} (after : t'.log = t.log.map (·.write now event)) :
    ∃ lines, t'.pending = t.pending ++ lines ∧ ∀ line ∈ lines, line.time = now := by
  cases logs : t.log with
  | none =>
    refine ⟨[], ?_, nofun⟩
    rw [pending, pending, after, logs]
    rfl
  | some log =>
    exact ⟨_, (pending_write logs after).2, fun line member => List.mem_singleton.mp member ▸ rfl⟩

/-- The lines that are written in a moment come after those before them, under its time. -/
theorem Chronicles.pending (chronicles : Chronicles drops now t t') :
    ∃ lines, t'.pending = t.pending ++ lines ∧ ∀ line ∈ lines, line.time = now := by
  induction chronicles with
  | quiet _ log =>
    refine ⟨[], ?_, nofun⟩
    rw [RouteTable.pending, RouteTable.pending, log, List.append_nil]
  | noted t _ => exact pending_after rfl
  | placed _ _ log => exact pending_after log
  | dropped _ _ _ log =>
    refine ⟨[], ?_, nofun⟩
    rw [RouteTable.pending, RouteTable.pending, log, List.append_nil]
  | trans _ _ ih ih' =>
    obtain ⟨early, first, moment⟩ := ih
    obtain ⟨late, second, moment'⟩ := ih'
    refine ⟨early ++ late, by rw [second, first, List.append_assoc], fun line member => ?_⟩
    exact (List.mem_append.mp member).elim (moment line) (moment' line)

end RouteTable

namespace MeshNode

/-- All that a node has noted with the time is in order, the lines that were taken from its log
before those that are still there. -/
structure Dated (n : MeshNode) (taken : List RouteLogRecord) (now : Time) : Prop where
  lines : InOrder ((taken ++ n.routes.pending).map (·.time)) now
  reports : n.prober.sampler.Dated now
  arrivals : n.rates.Dated now

variable {n n' : MeshNode} {taken : List RouteLogRecord} {now now' : Time} {drops : Bool}

namespace Dated

theorem later (dated : n.Dated taken now) (on : now ≤ now') : n.Dated taken now' :=
  ⟨dated.lines.later on, fun peer => (dated.reports peer).later on,
    fun peer => (dated.arrivals peer).later on⟩

theorem goes (dated : n.Dated taken now) (routes : RouteTable.Chronicles drops now n.routes n'.routes)
    (reports : n'.prober.sampler.Dated now) (arrivals : n'.rates.Dated now) :
    n'.Dated taken now := by
  obtain ⟨lines, after, current⟩ := routes.pending
  refine ⟨?_, reports, arrivals⟩
  rw [after, ← List.append_assoc, List.map_append]
  refine dated.lines.append fun time member => ?_
  obtain ⟨line, new, rfl⟩ := List.mem_map.mp member
  exact current line new

theorem drained (dated : n.Dated taken now) :
    { n with routes := n.routes.drainLog.2 }.Dated (taken ++ n.routes.drainLog.1) now := by
  refine ⟨?_, dated.reports, dated.arrivals⟩
  simp only [RouteTable.pending_drainLog, RouteTable.drainLog_fst, List.append_nil]
  exact dated.lines

theorem linkReport (dated : n.Dated taken now) (peer : EtherAddress) (moment : Time) :
    (n.linkReport peer moment).2.Dated taken now := by
  have looked : { n.prober.sampler with
      forward := DelaySampler.pruneLink n.prober.sampler.forward peer n.prober.sampler.forwardAge
        moment }.Dated now := dated.reports.congr rfl
  exact ⟨dated.lines, (looked.reverseDelay peer moment).reverseDelay peer moment, dated.arrivals⟩

theorem start (dated : n.Dated taken now) (sim : Simulator MeshEvent) :
    (n.start sim).1.Dated taken now := by
  have routes : RouteTable.Chronicles false now n.routes (n.start sim).1.routes :=
    RouteTable.chronicles_start n.routes _
  exact dated.goes routes (dated.reports.congr rfl) dated.arrivals

theorem shutdown (dated : n.Dated taken now) (sim : Simulator MeshEvent) :
    (n.shutdown sim).1.Dated taken now :=
  ⟨dated.lines, dated.reports.congr rfl, dated.arrivals⟩

end Dated

theorem create_dated {id : NodeId} {config : NodeConfig} (done : create id config = .ok n)
    (log : Bool) : (if log then n.withRouteLog else n).Dated [] now := by
  have made := made_of_create done
  have arrivals : n.rates.Dated now := by
    rw [DeliveryRates.create_eq made.rates]
    exact fun peer => .nil
  have reports : n.prober.sampler.Dated now := by
    obtain ⟨eth, -, prober⟩ := Prober.create_eq made.prober
    rw [prober]
    exact fun peer => .nil
  have silent : n.routes.pending = [] := by
    rw [RouteTable.create_eq made.routes]
    rfl
  cases log with
  | false =>
    refine ⟨?_, reports, arrivals⟩
    simp only [Bool.false_eq_true, if_false, silent]
    exact .nil
  | true => exact ⟨.nil, reports, arrivals⟩

section Acting

variable {μ : Type} [Medium μ] {air : Air μ} {sim : Simulator MeshEvent} {next : MeshNode × Air μ}
  {frame : Frame} {kind : TimerKind}

theorem Dated.onTimer (dated : n.Dated taken air.now)
    (routes : RouteTable.Chronicles drops air.now n.routes next.1.routes)
    (done : n.onTimer kind air = .ok next) : next.1.Dated taken air.now := by
  refine dated.goes routes (dated.reports.congr ?_) ?_
  · cases kind with
    | probeRound =>
      cases done
      exact Prober.reverse_onRoundTimer n.prober air
    | probeNext =>
      cases done
      exact Prober.reverse_probeNext n.prober air
    | expiry ip =>
      obtain ⟨⟨t, sim⟩, -, rfl⟩ := ok_of_map done
      rfl
    | discovery => cases done; rfl
    | advert => cases done; rfl
    | trigger => cases done; rfl
    | routeDump => cases done; rfl
  · have same : next.1.rates.peers = n.rates.peers := by
      cases kind with
      | expiry ip =>
        obtain ⟨⟨t, sim⟩, -, rfl⟩ := ok_of_map done
        rfl
      | discovery => cases done; rfl
      | probeRound => cases done; rfl
      | probeNext => cases done; rfl
      | advert => cases done; rfl
      | trigger => cases done; rfl
      | routeDump => cases done; rfl
    intro peer
    rw [DeliveryRates.arrivalsOf, same]
    exact dated.arrivals peer

theorem Dated.onFrame (dated : n.Dated taken air.now) (sound : n.Sound air.sim)
    (done : n.onFrame frame air = .ok next) : next.1.Dated taken air.now := by
  cases takes_onFrame done with
  | discovery => exact ⟨dated.lines, dated.reports, dated.arrivals.onFrame frame⟩
  | probing => exact ⟨dated.lines, Prober.dated_onFrame dated.reports frame, dated.arrivals⟩
  | advert _ taken =>
    exact dated.goes (sound.routes.chronicles_handleAdvert taken) (dated.reports.reverseDelay _ _)
      dated.arrivals
  | ignored => exact dated
  | rejected => exact dated

private theorem routes_onTimer (mine : n.routes.node = n.id) (done : n.onTimer kind air = .ok next) :
    ∃ after, n.routes.onEvent air (.timer n.id kind) = .ok (next.1.routes, after) := by
  simp only [RouteTable.onEvent, mine, if_true]
  cases kind with
  | expiry ip =>
    obtain ⟨⟨t, sim⟩, expired, rfl⟩ := ok_of_map done
    refine ⟨{ air with sim }, ?_⟩
    rw [RouteTable.onTimer, expired]
    rfl
  | discovery => cases done; exact ⟨_, rfl⟩
  | probeRound => cases done; exact ⟨_, rfl⟩
  | probeNext => cases done; exact ⟨_, rfl⟩
  | advert => cases done; exact ⟨_, rfl⟩
  | trigger => cases done; exact ⟨_, rfl⟩
  | routeDump => cases done; exact ⟨_, rfl⟩

/-- Whatever event begins, a node notes what there is to note under the time of it. -/
theorem Dated.onEvent {limit : Option Time} {item : Scheduled MeshEvent}
    (dated : n.Dated taken air.now) (sound : n.Sound air.sim) (on : air.now ≤ sim.now)
    (begins : air.sim.next? limit = some (item, sim))
    (done : n.onEvent { air with sim } item.event = .ok next) : next.1.Dated taken sim.now := by
  have before : n.Dated taken ({ air with sim } : Air μ).now := dated.later on
  generalize event : item.event = started at done
  cases handles_onEvent done with
  | timer done =>
    obtain ⟨after, carried⟩ := routes_onTimer sound.node done
    rw [← event] at carried
    exact before.onTimer (sound.routes.chronicles_onEvent begins carried) done
  | arrival done =>
    have arrives : ¬ ∃ ip, item.event = expiryEvent n.id ip := by
      rintro ⟨ip, same⟩
      cases event.symm.trans same
    have whole : n.Sound ({ air with sim } : Air μ).sim := sound.spares (.next? begins arrives)
    exact before.onFrame whole done
  | elsewhere => exact before

end Acting

end MeshNode

end WirelessMesh
