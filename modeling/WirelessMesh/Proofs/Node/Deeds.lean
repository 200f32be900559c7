import WirelessMesh.Proofs.Air.Arrivals
import WirelessMesh.Proofs.Simulation.Holding

/-!
What a node does to the world around it, deed by deed: it hands over frames, and sets and takes back
timers that it keeps one for each purpose. Whatever the deeds, the live timer events of the node are
those that it keeps, and all other events but arrivals are left alone.
-/
namespace WirelessMesh

/-- One thing that a node does to the medium or to a timer of its own. -/
inductive Deed where
  | post (draft : Draft)
  | announce (draft : Draft)
  | reject (frame : Frame)
  | arm (kind : TimerKind) (delay : Time)
  | disarm (kind : TimerKind)
  /-- Lets go of a timer that is no longer to fire. -/
  | forget (kind : TimerKind)

def TimerKind.Passing : TimerKind → Prop
  | .trigger | .expiry _ => True
  | _ => False

/-- Setting a timer; that of the log of whole tables only if there is to be one. -/
def Deed.Setting (dumps : Prop) : Deed → Prop
  | .arm .routeDump _ => dumps
  | .arm _ _ => True
  | _ => False

/-- What a node in use does: of its timers it takes back only those that come and go, and it sends
under an address of its own. -/
def Deed.Ordinary (dumps : Prop) (signs : EtherAddress → Prop) : Deed → Prop
  | .post draft | .announce draft => signs draft.source
  | .arm .routeDump _ => dumps
  | .disarm kind | .forget kind => kind.Passing
  | _ => True

def Deed.Timing : Deed → Prop
  | .arm _ _ | .disarm _ | .forget _ => True
  | _ => False

def Deed.Passing : Deed → Prop
  | .arm kind _ | .disarm kind | .forget kind => kind.Passing
  | _ => False

/-- What may be said on the air: which frames may be sent to one node and which to all, and which may be
refused. -/
structure Speech where
  posts : Draft → Prop
  announces : Draft → Prop
  rejects : Frame → Prop

def Speech.signed (signs : EtherAddress → Prop) : Speech where
  posts draft := signs draft.source
  announces draft := signs draft.source
  rejects _ := True

def Deed.Within (dumps : Prop) (speech : Speech) : Deed → Prop
  | .post draft => speech.posts draft
  | .announce draft => speech.announces draft
  | .reject frame => speech.rejects frame
  | .arm .routeDump _ => dumps
  | .arm _ _ => True
  | .disarm kind | .forget kind => kind.Passing

theorem Deed.Within.ordinary {dumps : Prop} {signs : EtherAddress → Prop} {deed : Deed}
    (within : deed.Within dumps (.signed signs)) : deed.Ordinary dumps signs := by
  cases deed with
  | arm kind delay => cases kind <;> exact within
  | post draft => exact within
  | announce draft => exact within
  | reject frame => exact within
  | disarm kind => exact within
  | forget kind => exact within

theorem Deed.Setting.within {dumps : Prop} {speech : Speech} {deed : Deed}
    (setting : deed.Setting dumps) : deed.Within dumps speech := by
  cases deed with
  | arm kind delay => cases kind <;> exact setting
  | post draft => exact setting.elim
  | announce draft => exact setting.elim
  | reject frame => exact setting.elim
  | disarm kind => exact setting.elim
  | forget kind => exact setting.elim

theorem Deed.Passing.within {dumps : Prop} {speech : Speech} {deed : Deed}
    (passing : deed.Passing) : deed.Within dumps speech := by
  cases deed with
  | arm kind delay =>
    cases kind with
    | routeDump => exact passing.elim
    | _ => exact trivial
  | post draft => exact passing.elim
  | announce draft => exact passing.elim
  | reject frame => exact passing.elim
  | disarm kind => exact passing
  | forget kind => exact passing

theorem Deed.Setting.timing {dumps : Prop} {deed : Deed} (setting : deed.Setting dumps) :
    deed.Timing := by
  cases deed with
  | arm kind delay => exact trivial
  | post draft => exact setting
  | announce draft => exact setting
  | reject frame => exact setting
  | disarm kind => exact setting.elim
  | forget kind => exact setting.elim

/-- The timers of a node, with the medium and the simulator that it is on. -/
structure Desk (μ : Type) where
  slots : TimerKind → TimerSlot
  air : Air μ

variable {μ : Type} [Medium μ]

/-- A node does one thing. -/
def Desk.perform (node : NodeId) (desk : Desk μ) : Deed → Desk μ
  | .post draft => { desk with air := desk.air.post node draft }
  | .announce draft => { desk with air := desk.air.announce node draft }
  | .reject frame => { desk with air := desk.air.reject node frame }
  | .arm kind delay =>
    let (slot, sim) := (desk.slots kind).rearm desk.air.sim delay (.timer node kind)
    ⟨Function.update desk.slots kind slot, { desk.air with sim }⟩
  | .disarm kind =>
    ⟨Function.update desk.slots kind none,
      { desk.air with sim := (desk.slots kind).disarm desk.air.sim }⟩
  | .forget kind =>
    if (desk.slots kind).isArmed desk.air.sim then desk
    else { desk with slots := Function.update desk.slots kind none }

/-- A node does one thing after another. -/
def Desk.play (node : NodeId) (desk : Desk μ) (script : List Deed) : Desk μ :=
  script.foldl (perform node) desk

def Plays (node : NodeId) (allowed : Deed → Prop) (desk desk' : Desk μ) : Prop :=
  ∃ script : List Deed, (∀ deed ∈ script, allowed deed) ∧ desk.play node script = desk'

namespace Plays

variable {node : NodeId} {allowed other : Deed → Prop} {desk desk' desk'' : Desk μ}

theorem refl (desk : Desk μ) : Plays node allowed desk desk := ⟨[], nofun, rfl⟩

theorem trans (first : Plays node allowed desk desk') (second : Plays node allowed desk' desk'') :
    Plays node allowed desk desk'' := by
  obtain ⟨script, fine, rfl⟩ := first
  obtain ⟨script', fine', rfl⟩ := second
  refine ⟨script ++ script', fun deed member => ?_, List.foldl_append⟩
  exact (List.mem_append.mp member).elim (fine deed) (fine' deed)

theorem mono (wider : ∀ deed, allowed deed → other deed) (plays : Plays node allowed desk desk') :
    Plays node other desk desk' := by
  obtain ⟨script, fine, done⟩ := plays
  exact ⟨script, fun deed member => wider deed (fine deed member), done⟩

theorem one (deed : Deed) (fine : allowed deed) :
    Plays node allowed desk (desk.perform node deed) :=
  ⟨[deed], fun _ member => List.mem_singleton.mp member ▸ fine, rfl⟩

end Plays

section Single

variable {node : NodeId} {allowed : Deed → Prop} {slots slots' : TimerKind → TimerSlot} {air : Air μ}
  {kind : TimerKind}

theorem Plays.post {draft : Draft} (fine : allowed (.post draft)) :
    Plays node allowed ⟨slots, air⟩ ⟨slots, air.post node draft⟩ := .one _ fine

theorem Plays.announce {draft : Draft} (fine : allowed (.announce draft)) :
    Plays node allowed ⟨slots, air⟩ ⟨slots, air.announce node draft⟩ := .one _ fine

theorem Plays.reject {frame : Frame} (fine : allowed (.reject frame)) :
    Plays node allowed ⟨slots, air⟩ ⟨slots, air.reject node frame⟩ := .one _ fine

theorem Plays.arm {delay : Time} {slot : TimerSlot} (fine : allowed (.arm kind delay))
    (held : slots kind = slot)
    (after : slots' = Function.update slots kind
      (slot.rearm air.sim delay (MeshEvent.timer node kind)).1) :
    Plays node allowed ⟨slots, air⟩
      ⟨slots', { air with sim := (slot.rearm air.sim delay (MeshEvent.timer node kind)).2 }⟩ := by
  subst held after
  exact .one (.arm kind delay) fine

theorem Plays.disarm {slot : TimerSlot} (fine : allowed (.disarm kind)) (held : slots kind = slot)
    (after : slots' = Function.update slots kind none) :
    Plays node allowed ⟨slots, air⟩ ⟨slots', { air with sim := slot.disarm air.sim }⟩ := by
  subst held after
  exact .one (.disarm kind) fine

theorem Plays.forget (fine : allowed (.forget kind)) (idle : (slots kind).isArmed air.sim = false)
    (after : slots' = Function.update slots kind none) :
    Plays node allowed ⟨slots, air⟩ ⟨slots', air⟩ := by
  subst after
  have done : Desk.perform node ⟨slots, air⟩ (.forget kind) =
      ⟨Function.update slots kind none, air⟩ := by
    simp only [Desk.perform, idle, Bool.false_eq_true, if_false]
  exact done ▸ .one (.forget kind) fine

end Single

/-- The events that a node deals with: its own timers, and arrivals. -/
def Acting (node : NodeId) (event : MeshEvent) : Prop :=
  (∃ kind, event = .timer node kind) ∨ event.IsArrival

structure Desk.Tidy (node : NodeId) (desk : Desk μ) : Prop where
  valid : desk.air.sim.WellFormed
  holds : ∀ kind, (desk.slots kind).Holds desk.air.sim (.timer node kind)

def Desk.Armed (desk : Desk μ) (kind : TimerKind) : Prop :=
  (desk.slots kind).isArmed desk.air.sim = true

namespace Desk.Tidy

variable [LawfulMedium μ] {node : NodeId} {desk : Desk μ} {deed : Deed} {script : List Deed}
  {kind : TimerKind}

omit [Medium μ] [LawfulMedium μ] in
theorem not_arrival : ¬ MeshEvent.IsArrival (.timer node kind) := id

omit [Medium μ] [LawfulMedium μ] in
theorem elsewhere {slots : TimerKind → TimerSlot} {air air' : Air μ} {owned : MeshEvent → Prop}
    (tidy : Desk.Tidy node ⟨slots, air⟩) (changes : air.sim.Changes owned air'.sim)
    (foreign : ∀ kind, ¬ owned (.timer node kind)) : Desk.Tidy node ⟨slots, air'⟩ :=
  ⟨changes.valid tidy.valid, fun kind => (tidy.holds kind).changes tidy.valid changes (foreign kind)⟩

omit [Medium μ] [LawfulMedium μ] in
theorem update {slots : TimerKind → TimerSlot} {air : Air μ} {slot : TimerSlot}
    {sim : Simulator MeshEvent} (tidy : Desk.Tidy node ⟨slots, air⟩)
    (changes : air.sim.Changes (· = .timer node kind) sim)
    (holds : slot.Holds sim (.timer node kind)) :
    Desk.Tidy node ⟨Function.update slots kind slot, { air with sim }⟩ := by
  refine ⟨changes.valid tidy.valid, fun other => ?_⟩
  by_cases here : other = kind
  · subst here
    simp only [Function.update_self]
    exact holds
  · simp only [Function.update_of_ne here]
    exact (tidy.holds other).changes tidy.valid changes fun same =>
      here (MeshEvent.timer.inj same).2

omit [LawfulMedium μ] in
theorem changes_arm (tidy : desk.Tidy node) (kind : TimerKind) (delay : Time) :
    desk.air.sim.Changes (· = .timer node kind) (desk.perform node (.arm kind delay)).air.sim := by
  refine TimerSlot.changes_rearm (tidy.holds kind).owns ?_ delay
  rfl

omit [LawfulMedium μ] in
theorem changes_disarm (tidy : desk.Tidy node) (kind : TimerKind) :
    desk.air.sim.Changes (· = .timer node kind) (desk.perform node (.disarm kind)).air.sim := by
  refine TimerSlot.changes_disarm (tidy.holds kind).owns ?_
  rfl

omit [LawfulMedium μ] in
/-- Timers that are set and taken back are those of the node. -/
theorem changes_timing (tidy : desk.Tidy node) (timing : deed.Timing) :
    desk.air.sim.Changes (fun event => ∃ kind, event = .timer node kind)
      (desk.perform node deed).air.sim := by
  cases deed with
  | post draft => exact timing.elim
  | announce draft => exact timing.elim
  | reject frame => exact timing.elim
  | arm kind delay => exact (tidy.changes_arm kind delay).mono fun _ mine => ⟨kind, mine⟩
  | disarm kind => exact (tidy.changes_disarm kind).mono fun _ mine => ⟨kind, mine⟩
  | forget kind =>
    unfold Desk.perform
    simp only
    split
    · exact .refl _
    · exact .refl _

private theorem changes_perform (tidy : desk.Tidy node) (deed : Deed) :
    desk.air.sim.Changes (Acting node) (desk.perform node deed).air.sim := by
  have timing (only : deed.Timing) :
      desk.air.sim.Changes (Acting node) (desk.perform node deed).air.sim :=
    (tidy.changes_timing only).mono fun _ => .inl
  cases deed with
  | post draft => exact (desk.air.changes_post node draft).mono fun _ => .inr
  | announce draft => exact (desk.air.changes_announce node draft).mono fun _ => .inr
  | reject frame => exact .refl _
  | arm kind delay => exact timing trivial
  | disarm kind => exact timing trivial
  | forget kind => exact timing trivial

theorem perform (tidy : desk.Tidy node) (deed : Deed) : (desk.perform node deed).Tidy node := by
  cases deed with
  | post draft => exact tidy.elsewhere (desk.air.changes_post node draft) fun _ => not_arrival
  | announce draft =>
    exact tidy.elsewhere (desk.air.changes_announce node draft) fun _ => not_arrival
  | reject frame => exact ⟨tidy.valid, tidy.holds⟩
  | arm kind delay =>
    exact tidy.update (tidy.changes_arm kind delay) ((tidy.holds kind).rearm tidy.valid delay)
  | disarm kind => exact tidy.update (tidy.changes_disarm kind) (tidy.holds kind).disarm
  | forget kind =>
    unfold Desk.perform
    simp only
    split
    · exact tidy
    · next idle =>
      exact tidy.update (.refl _) ((tidy.holds kind).forget tidy.valid (Bool.eq_false_iff.mpr idle))

private theorem armed_perform (tidy : desk.Tidy node) (armed : desk.Armed kind) (kept : deed ≠ .disarm kind) :
    (desk.perform node deed).Armed kind := by
  have after := tidy.perform deed
  obtain ⟨x, member, same⟩ := ((tidy.holds kind).isArmed_iff tidy.valid).mp armed
  refine ((after.holds kind).isArmed_iff after.valid).mpr ?_
  cases deed with
  | post draft =>
    exact ⟨x, (desk.air.changes_post node draft).kept tidy.valid x member (same ▸ not_arrival), same⟩
  | announce draft =>
    exact ⟨x, (desk.air.changes_announce node draft).kept tidy.valid x member
      (same ▸ not_arrival), same⟩
  | reject frame => exact ⟨x, member, same⟩
  | arm other delay =>
    by_cases here : kind = other
    · subst here
      refine ((after.holds kind).isArmed_iff after.valid).mp ?_
      simp only [Desk.perform, Function.update_self]
      exact TimerSlot.isArmed_rearm _ _ _ _
    · exact ⟨x, (tidy.changes_arm other delay).kept tidy.valid x member fun mine =>
        here (MeshEvent.timer.inj (same.symm.trans mine)).2, same⟩
  | disarm other =>
    refine ⟨x, (tidy.changes_disarm other).kept tidy.valid x member fun mine => kept ?_, same⟩
    rw [(MeshEvent.timer.inj (same.symm.trans mine)).2]
  | forget other =>
    unfold Desk.perform
    simp only
    split
    · exact ⟨x, member, same⟩
    · exact ⟨x, member, same⟩

private theorem idle_perform (tidy : desk.Tidy node) (idle : ¬ desk.Armed kind)
    (kept : ∀ delay, deed ≠ .arm kind delay) : ¬ (desk.perform node deed).Armed kind := by
  intro armed
  have after := tidy.perform deed
  obtain ⟨x, member, same⟩ := ((after.holds kind).isArmed_iff after.valid).mp armed
  refine idle (((tidy.holds kind).isArmed_iff tidy.valid).mpr ⟨x, ?_, same⟩)
  cases deed with
  | post draft =>
    exact ((desk.air.changes_post node draft).foreign_iff tidy.valid (same ▸ not_arrival)).mp member
  | announce draft =>
    exact ((desk.air.changes_announce node draft).foreign_iff tidy.valid
      (same ▸ not_arrival)).mp member
  | reject frame => exact member
  | arm other delay =>
    have foreign : ¬ x.event = .timer node other := fun mine => kept delay (by
      rw [(MeshEvent.timer.inj (same.symm.trans mine)).2])
    exact ((tidy.changes_arm other delay).foreign_iff tidy.valid foreign).mp member
  | disarm other => exact (TimerSlot.live_disarm.mp member).1
  | forget other =>
    unfold Desk.perform at member
    simp only at member
    split at member
    · exact member
    · exact member

theorem play (script : List Deed) :
    ∀ {desk : Desk μ}, desk.Tidy node → (desk.play node script).Tidy node := by
  induction script with
  | nil => exact id
  | cons deed rest ih => exact fun tidy => ih (tidy.perform deed)

private theorem changes_play (script : List Deed) : ∀ {desk : Desk μ}, desk.Tidy node →
    desk.air.sim.Changes (Acting node) (desk.play node script).air.sim := by
  induction script with
  | nil => exact fun _ => .refl _
  | cons deed rest ih =>
    exact fun tidy => (tidy.changes_perform deed).trans (ih (tidy.perform deed))

/-- A script that only sets timers and takes them back leaves all else as it is. -/
private theorem changes_playTiming (script : List Deed) : ∀ {desk : Desk μ}, desk.Tidy node →
    (∀ deed ∈ script, deed.Timing) →
    desk.air.sim.Changes (fun event => ∃ kind, event = .timer node kind)
      (desk.play node script).air.sim := by
  induction script with
  | nil => exact fun _ _ => .refl _
  | cons deed rest ih =>
    intro desk tidy timing
    have first := tidy.changes_timing (timing deed List.mem_cons_self)
    exact first.trans (ih (tidy.perform deed) fun other member =>
      timing other (List.mem_cons_of_mem _ member))

private theorem armed_play : ∀ {desk : Desk μ}, desk.Tidy node → desk.Armed kind →
    Deed.disarm kind ∉ script → (desk.play node script).Armed kind := by
  induction script with
  | nil => exact fun _ armed _ => armed
  | cons deed rest ih =>
    intro desk tidy armed kept
    rw [List.mem_cons, not_or] at kept
    exact ih (tidy.perform deed) (tidy.armed_perform armed (Ne.symm kept.1)) kept.2

private theorem idle_play : ∀ {desk : Desk μ}, desk.Tidy node → ¬ desk.Armed kind →
    (∀ delay, Deed.arm kind delay ∉ script) → ¬ (desk.play node script).Armed kind := by
  induction script with
  | nil => exact fun _ idle _ => idle
  | cons deed rest ih =>
    intro desk tidy idle kept
    have head : ∀ delay, deed ≠ .arm kind delay := fun delay same =>
      kept delay (same ▸ List.mem_cons_self)
    exact ih (tidy.perform deed) (tidy.idle_perform idle head)
      fun delay member => kept delay (List.mem_cons_of_mem _ member)

end Desk.Tidy

namespace Plays

variable [LawfulMedium μ] {node : NodeId} {allowed : Deed → Prop} {desk desk' : Desk μ}
  {kind : TimerKind}

theorem tidy (plays : Plays node allowed desk desk') (tidy : desk.Tidy node) :
    desk'.Tidy node := by
  obtain ⟨script, -, rfl⟩ := plays
  exact tidy.play script

theorem armed (plays : Plays node allowed desk desk') (tidy : desk.Tidy node)
    (armed : desk.Armed kind) (kept : ¬ allowed (.disarm kind)) : desk'.Armed kind := by
  obtain ⟨script, fine, rfl⟩ := plays
  exact tidy.armed_play armed fun member => kept (fine _ member)

/-- A timer that no deed may set stays as it is if it is not set. -/
theorem idle (plays : Plays node allowed desk desk') (tidy : desk.Tidy node)
    (idle : ¬ desk.Armed kind) (kept : ∀ delay, ¬ allowed (.arm kind delay)) :
    ¬ desk'.Armed kind := by
  obtain ⟨script, fine, rfl⟩ := plays
  exact tidy.idle_play idle fun delay member => kept delay (fine _ member)

theorem changes (plays : Plays node allowed desk desk') (tidy : desk.Tidy node) :
    desk.air.sim.Changes (Acting node) desk'.air.sim := by
  obtain ⟨script, -, rfl⟩ := plays
  exact tidy.changes_play script

theorem changes_timing (plays : Plays node allowed desk desk') (tidy : desk.Tidy node)
    (timing : ∀ deed, allowed deed → deed.Timing) :
    desk.air.sim.Changes (fun event => ∃ kind, event = .timer node kind) desk'.air.sim := by
  obtain ⟨script, fine, rfl⟩ := plays
  exact tidy.changes_playTiming script fun deed member => timing deed (fine deed member)

end Plays

section Untouched

variable {node : NodeId} {allowed : Deed → Prop} {kind : TimerKind}

def Deed.timer? : Deed → Option TimerKind
  | .arm kind _ | .disarm kind | .forget kind => some kind
  | _ => none

private theorem Desk.slots_perform (desk : Desk μ) {deed : Deed}
    (other : deed.timer? ≠ some kind) : (desk.perform node deed).slots kind = desk.slots kind := by
  have apart {touched : TimerKind} (here : deed.timer? = some touched) : kind ≠ touched :=
    fun same => other (same ▸ here)
  cases deed with
  | post draft => rfl
  | announce draft => rfl
  | reject frame => rfl
  | arm touched delay => exact Function.update_of_ne (apart rfl) _ _
  | disarm touched => exact Function.update_of_ne (apart rfl) _ _
  | forget touched =>
    unfold Desk.perform
    simp only
    split
    · rfl
    · exact Function.update_of_ne (apart rfl) _ _

/-- A timer that no deed has to do with stays where it is. -/
theorem Plays.slots {desk desk' : Desk μ} (plays : Plays node allowed desk desk')
    (others : ∀ deed, allowed deed → deed.timer? ≠ some kind) :
    desk'.slots kind = desk.slots kind := by
  obtain ⟨script, fine, rfl⟩ := plays
  induction script generalizing desk with
  | nil => rfl
  | cons deed rest ih =>
    refine (ih fun later member => fine later (List.mem_cons_of_mem _ member)).trans ?_
    exact desk.slots_perform (others deed (fine deed List.mem_cons_self))

theorem Deed.Passing.timer_ne {deed : Deed} (passing : deed.Passing)
    (lasting : ¬ kind.Passing) : deed.timer? ≠ some kind := by
  rintro same
  cases deed with
  | post draft => cases same
  | announce draft => cases same
  | reject frame => cases same
  | arm touched delay => exact lasting (Option.some.inj same ▸ passing)
  | disarm touched => exact lasting (Option.some.inj same ▸ passing)
  | forget touched => exact lasting (Option.some.inj same ▸ passing)

end Untouched

end WirelessMesh
