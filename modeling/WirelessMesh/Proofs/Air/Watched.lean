import WirelessMesh.Air.Transcript
import WirelessMesh.Proofs.Node.Deeds

namespace WirelessMesh

/-- A frame that a node had broadcast. -/
structure Broadcast where
  time : Time
  node : NodeId
  frame : Frame

/-- A medium, and the broadcasts that it was asked for, in order. -/
structure Watched (μ : Type) where
  medium : μ
  broadcasts : List Broadcast

namespace Watched

variable {μ : Type}

/-- When a node had a frame broadcast, and of what type, in order. -/
def said (watched : Watched μ) (node : NodeId) : List (Time × UInt16) :=
  (watched.broadcasts.filter (·.node = node)).map fun b => (b.time, b.frame.type)

/-- The air of the medium within. -/
def within (air : Air (Watched μ)) : Air μ := ⟨air.sim, air.medium.medium⟩

/-- The air when the medium within has done its work. -/
def after (air : Air (Watched μ)) (worked : Air μ) : Air (Watched μ) :=
  ⟨worked.sim, { air.medium with medium := worked.medium }⟩

variable [Medium μ]

instance : Medium (Watched μ) where
  number watched draft :=
    let (frame, medium) := Medium.number watched.medium draft
    (frame, { watched with medium })
  send node frame air := after air (Medium.send node frame (within air))
  broadcast node frame air :=
    let note : Broadcast := ⟨air.now, node, frame⟩
    after { air with medium := { air.medium with broadcasts := air.medium.broadcasts ++ [note] } }
      (Medium.broadcast node frame (within air))
  reject node frame watched := { watched with medium := Medium.reject node frame watched.medium }

instance [LawfulMedium μ] : LawfulMedium (Watched μ) where
  send node frame air := LawfulMedium.send node frame (within air)
  broadcast node frame air := LawfulMedium.broadcast node frame (within air)

end Watched

/-- A medium that gives a draft its number and leaves it as it is. -/
class NumbersOnly (μ : Type) [Medium μ] : Prop where
  number : ∀ (medium : μ) (draft : Draft), ∃ id, (Medium.number medium draft).1 = .ofDraft id draft

instance : NumbersOnly Transcript := ⟨fun _ _ => ⟨_, rfl⟩⟩

instance : NumbersOnly Network := ⟨fun _ _ => ⟨_, rfl⟩⟩

def Deed.Quiet : Deed → Prop
  | .announce _ => False
  | _ => True

section Scripts

variable {μ : Type} [Medium μ] {node : NodeId} {allowed : Deed → Prop}

private theorem Desk.broadcasts_perform (desk : Desk (Watched μ)) {deed : Deed} (quiet : deed.Quiet) :
    (desk.perform node deed).air.medium.broadcasts = desk.air.medium.broadcasts := by
  cases deed with
  | announce draft => exact quiet.elim
  | forget kind =>
    unfold Desk.perform
    simp only
    split <;> rfl
  | post draft => rfl
  | reject frame => rfl
  | arm kind delay => rfl
  | disarm kind => rfl

theorem Plays.broadcasts {desk desk' : Desk (Watched μ)} (plays : Plays node allowed desk desk')
    (quiet : ∀ deed, allowed deed → deed.Quiet) :
    desk'.air.medium.broadcasts = desk.air.medium.broadcasts := by
  obtain ⟨script, fine, rfl⟩ := plays
  induction script generalizing desk with
  | nil => rfl
  | cons deed rest ih =>
    refine (ih fun later member => fine later (List.mem_cons_of_mem _ member)).trans ?_
    exact desk.broadcasts_perform (quiet deed (fine deed List.mem_cons_self))

/-- An announcement is broadcast at once, under some number. -/
theorem Air.said_announce [NumbersOnly μ] (air : Air (Watched μ)) (node : NodeId) (draft : Draft) :
    (air.announce node draft).medium.said node =
      air.medium.said node ++ [(air.now, draft.type)] := by
  obtain ⟨id, numbered⟩ := NumbersOnly.number air.medium.medium draft
  have noted : (air.announce node draft).medium.broadcasts =
      air.medium.broadcasts ++ [⟨air.now, node, .ofDraft id draft⟩] := by
    rw [← numbered]
    rfl
  rw [Watched.said, noted, List.filter_append, List.map_append]
  simp [Watched.said, Frame.ofDraft]

end Scripts

end WirelessMesh
