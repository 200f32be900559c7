import WirelessMesh.Proofs.Mesh.Operation

namespace WirelessMesh

def Network.LeadsTo (net : Network) (source : NodeId) (near : NodeId → Prop) : Prop :=
  ∀ id target, net.ends? id = some (source, target) → near target

/-- What may happen when only one node acts, whose links lead to others nearby: events come and go that
are for those nearby, and its links change. -/
structure Confined (source : NodeId) (near : NodeId → Prop) (air air' : Air Network) : Prop where
  changes : air.sim.Changes (fun event => near event.node) air'.sim
  wiring : air.medium.SameWiring air'.medium
  links : ∀ (id : LinkId) (link : Link), link.source ≠ source →
    (air'.medium.links[id]? = some link ↔ air.medium.links[id]? = some link)

variable {source target : NodeId} {near : NodeId → Prop} {air air' air'' : Air Network} {frame : Frame}

namespace Confined

theorem refl (air : Air Network) : Confined source near air air :=
  ⟨.refl _, .refl _, fun _ _ _ => Iff.rfl⟩

theorem trans (first : Confined source near air air') (second : Confined source near air' air'') :
    Confined source near air air'' where
  changes := first.changes.trans second.changes
  wiring := first.wiring.trans second.wiring
  links id link other := (second.links id link other).trans (first.links id link other)

/-- The medium changes in what has nothing to do with links. -/
theorem rewired {net : Network} (wiring : air.medium.SameWiring net)
    (links : net.links = air.medium.links) : Confined source near air { air with medium := net } :=
  ⟨.refl _, wiring, fun _ _ _ => by rw [links]⟩

theorem timed {sim : Simulator MeshEvent} (close : near source)
    (changes : air.sim.Changes (fun event => ∃ kind, event = .timer source kind) sim) :
    Confined source near air { air with sim } where
  changes := changes.mono fun _ ⟨_, mine⟩ => mine ▸ close
  wiring := .refl _
  links _ _ _ := Iff.rfl

theorem leads (confined : Confined source near air air')
    (leads : air.medium.LeadsTo source near) : air'.medium.LeadsTo source near :=
  fun id target ends => leads id target (confined.wiring.ends id ▸ ends)

theorem transmit {id : LinkId} (ends : air.medium.ends? id = some (source, target))
    (close : near target) (frame : Frame) :
    Confined source near air (Network.transmit id frame air) := by
  obtain ⟨link, present, same⟩ := Option.map_eq_some_iff.mp ends
  obtain ⟨rfl, rfl⟩ := Prod.mk.inj same
  refine ⟨?_, Network.wiring_transmit id frame air, fun other known foreign => ?_⟩
  · rw [Network.transmit_sim present]
    split
    · exact .refl _
    · exact Simulator.changes_schedule (link.le_arrival air.now _) close
  · by_cases here : id = other
    · subst here
      rw [Network.transmit_link present, present]
      constructor
      · intro found
        cases found
        exact absurd rfl foreign
      · intro found
        cases found
        exact absurd rfl foreign
    · rw [Network.transmit_links_of_ne here]

theorem sendCopy (wired : air.medium.Wired) (leads : air.medium.LeadsTo source near)
    (target : NodeId) (frame : Frame) :
    Confined source near air (Network.sendCopy source target frame air) := by
  unfold Network.sendCopy
  split
  · exact .refl air
  · next id found =>
    have counted : Confined source near air { air with
        medium := air.medium.takeFrameId.2.count fun s => { s with sentFrames := s.sentFrames + 1 } } :=
      rewired ((Network.SameWiring.takeFrameId _).trans (.count _ _)) rfl
    have ends := wired.linkId? found
    exact counted.trans (transmit ((counted.wiring.ends id).trans ends) (leads id target ends) _)

theorem broadcast (wired : air.medium.Wired) (leads : air.medium.LeadsTo source near)
    (frame : Frame) : Confined source near air (Network.broadcast source frame air) := by
  unfold Network.broadcast
  generalize air.medium.neighbors source = targets
  induction targets generalizing air with
  | nil => exact .refl air
  | cons target rest ih =>
    have sent : Confined source near air (Network.sendCopy source target frame air) :=
      sendCopy wired leads target frame
    exact sent.trans (ih (sent.wiring.wired wired) (sent.leads leads))

theorem send (wired : air.medium.Wired) (leads : air.medium.LeadsTo source near) (frame : Frame) :
    Confined source near air (Network.send source frame air) := by
  have counted : Confined source near air { air with
      medium := air.medium.count fun s => { s with sentFrames := s.sentFrames + 1 } } :=
    rewired (.count _ _) rfl
  unfold Network.send
  split
  · exact broadcast wired leads frame
  · simp only
    split
    · next id found =>
      obtain ⟨target, -, found⟩ := Option.bind_eq_some_iff.mp found
      have ends := (counted.wiring.wired wired).linkId? found
      exact counted.trans (transmit ends (counted.leads leads id target ends) frame)
    · exact rewired ⟨rfl, rfl, fun _ => rfl⟩ rfl

variable {desk desk' : Desk Network}

theorem perform (tidy : desk.Tidy source) (close : near source) (wired : desk.air.medium.Wired)
    (leads : desk.air.medium.LeadsTo source near) (deed : Deed) :
    Confined source near desk.air (desk.perform source deed).air := by
  have numbered (draft : Draft) : Confined source near desk.air
      { desk.air with medium := (Medium.number desk.air.medium draft).2 } :=
    rewired (.takeFrameId _) rfl
  have timing (only : deed.Timing) := tidy.changes_timing only
  cases deed with
  | post draft =>
    exact (numbered draft).trans
      (send ((numbered draft).wiring.wired wired) ((numbered draft).leads leads) _)
  | announce draft =>
    exact (numbered draft).trans
      (broadcast ((numbered draft).wiring.wired wired) ((numbered draft).leads leads) _)
  | reject frame => exact rewired ⟨rfl, rfl, fun _ => rfl⟩ rfl
  | arm kind delay => exact timed close (timing trivial)
  | disarm kind => exact timed close (timing trivial)
  | forget kind =>
    unfold Desk.perform
    simp only
    split
    · exact .refl _
    · exact .refl _

theorem play (close : near source) (script : List Deed) : ∀ {desk : Desk Network},
    desk.Tidy source → desk.air.medium.Wired → desk.air.medium.LeadsTo source near →
    Confined source near desk.air (desk.play source script).air := by
  induction script with
  | nil => exact fun _ _ _ => .refl _
  | cons deed rest ih =>
    intro desk tidy wired leads
    have first := perform tidy close wired leads deed
    exact first.trans (ih (tidy.perform deed) (first.wiring.wired wired) (first.leads leads))

theorem plays {allowed : Deed → Prop} (plays : Plays source allowed desk desk')
    (tidy : desk.Tidy source) (close : near source) (wired : desk.air.medium.Wired)
    (leads : desk.air.medium.LeadsTo source near) : Confined source near desk.air desk'.air := by
  obtain ⟨script, -, rfl⟩ := plays
  exact play close script tidy wired leads

end Confined

end WirelessMesh
