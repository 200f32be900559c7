import WirelessMesh.Proofs.Node.Deeds

/-!
A node in two runs at once. All that a node learns of its desk is the time and which of its timers are
set. Where two desks answer this alike, now and after whatever is done on both, the node does the same in
both runs.
-/
namespace WirelessMesh

/-- Two runs of a step: both fail for the same cause, or both answer and the answers are related. -/
inductive Agree {ε α β : Type} (related : α → β → Prop) : Except ε α → Except ε β → Prop
  | error (cause : ε) : Agree related (.error cause) (.error cause)
  | ok {a : α} {b : β} (both : related a b) : Agree related (.ok a) (.ok b)

namespace Agree

variable {ε α β γ δ : Type} {related : α → β → Prop} {other : γ → δ → Prop} {x : Except ε α}
  {y : Except ε β}

theorem bind {f : α → Except ε γ} {g : β → Except ε δ} (agree : Agree related x y)
    (next : ∀ a b, related a b → Agree other (f a) (g b)) : Agree other (x.bind f) (y.bind g) := by
  cases agree with
  | error cause => exact .error cause
  | ok both => exact next _ _ both

theorem map {f : α → γ} {g : β → δ} (agree : Agree related x y)
    (next : ∀ a b, related a b → other (f a) (g b)) : Agree other (x.map f) (y.map g) := by
  cases agree with
  | error cause => exact .error cause
  | ok both => exact .ok (next _ _ both)

theorem answered {b : β} (agree : Agree related x y) (done : y = .ok b) :
    ∃ a, x = .ok a ∧ related a b := by
  cases agree with
  | error cause => cases done
  | ok both =>
    cases done
    exact ⟨_, rfl, both⟩

end Agree

variable {μ : Type} [Medium μ]

structure Tandem (node : NodeId) (alike : Desk μ → Desk μ → Prop) : Prop where
  now : ∀ {desk desk' : Desk μ}, alike desk desk' → desk'.air.now = desk.air.now
  armed : ∀ {desk desk' : Desk μ}, alike desk desk' → ∀ kind,
    (desk'.slots kind).isArmed desk'.air.sim = (desk.slots kind).isArmed desk.air.sim
  perform : ∀ {desk desk' : Desk μ}, alike desk desk' → ∀ deed,
    alike (desk.perform node deed) (desk'.perform node deed)

namespace Tandem

variable {node : NodeId} {alike : Desk μ → Desk μ → Prop}
  {slots slots' next next' : TimerKind → TimerSlot} {air air' : Air μ} {kind : TimerKind}
  {slot slot' : TimerSlot}

theorem arm {event event' : MeshEvent} {delay delay' : Time} (tandem : Tandem node alike)
    (desks : alike ⟨slots, air⟩ ⟨slots', air'⟩) (mine : event = .timer node kind)
    (mine' : event' = .timer node kind) (same : delay' = delay)
    (held : slots kind = slot) (held' : slots' kind = slot')
    (after : next = Function.update slots kind (slot.rearm air.sim delay event).1)
    (after' : next' = Function.update slots' kind (slot'.rearm air'.sim delay' event').1) :
    alike ⟨next, { air with sim := (slot.rearm air.sim delay event).2 }⟩
      ⟨next', { air' with sim := (slot'.rearm air'.sim delay' event').2 }⟩ := by
  subst held held' after after' mine mine' same
  exact tandem.perform desks (.arm kind delay')

theorem disarm (tandem : Tandem node alike) (desks : alike ⟨slots, air⟩ ⟨slots', air'⟩)
    (held : slots kind = slot) (held' : slots' kind = slot')
    (after : next = Function.update slots kind none)
    (after' : next' = Function.update slots' kind none) :
    alike ⟨next, { air with sim := slot.disarm air.sim }⟩
      ⟨next', { air' with sim := slot'.disarm air'.sim }⟩ := by
  subst held held' after after'
  exact tandem.perform desks (.disarm kind)

/-- A timer that is no longer to fire is let go in both runs. -/
theorem forget (tandem : Tandem node alike) (desks : alike ⟨slots, air⟩ ⟨slots', air'⟩)
    (idle : (slots kind).isArmed air.sim = false)
    (after : next = Function.update slots kind none)
    (after' : next' = Function.update slots' kind none) : alike ⟨next, air⟩ ⟨next', air'⟩ := by
  subst after after'
  have idle' : (slots' kind).isArmed air'.sim = false := (tandem.armed desks kind).trans idle
  have done := tandem.perform desks (.forget kind)
  simp only [Desk.perform, idle, idle', Bool.false_eq_true, if_false] at done
  exact done

end Tandem

end WirelessMesh
