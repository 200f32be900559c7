import Mathlib
import WirelessMesh.Simulation.Queue

namespace WirelessMesh

universe u

namespace Scheduled

variable {ε : Type u} {x y z : Scheduled ε}

theorem precedes_iff :
    x.precedes y = true ↔
      x.due.ns < y.due.ns ∨ (x.due.ns = y.due.ns ∧ @LE.le Nat _ x.id y.id) := by
  have same : x.due = y.due ↔ x.due.ns = y.due.ns := ⟨congrArg Time.ns, Time.ext⟩
  simp [precedes, Time.lt_def, same]

theorem precedes_refl (x : Scheduled ε) : x.precedes x = true := by
  simp [precedes_iff]

theorem precedes_trans (first : x.precedes y = true) (second : y.precedes z = true) :
    x.precedes z = true := by
  rw [precedes_iff] at first second ⊢
  omega

theorem precedes_of_not (later : ¬ x.precedes y = true) : y.precedes x = true := by
  rw [precedes_iff] at later ⊢
  omega

/-- Of two events that are due and numbered in one order the later one does not come first. -/
theorem not_precedes (due : x.due ≤ y.due) (order : x.id < y.id) : ¬ y.precedes x = true := by
  rw [precedes_iff]
  rw [Time.le_def] at due
  exact fun first => first.elim (Nat.not_lt.mpr due) fun same => Nat.not_le.mpr order same.2

/-- Two events with different numbers cannot each come first. -/
theorem id_eq_of_precedes (first : x.precedes y = true) (second : y.precedes x = true) :
    x.id = y.id := by
  rw [precedes_iff] at first second
  show @Eq Nat x.id y.id
  omega

end Scheduled

namespace EventQueue

variable {ε : Type u}

/-- Every event of a heap precedes all that lie below it. -/
def Ordered : EventQueue ε → Prop
  | empty => True
  | node _ x l r =>
    (∀ y ∈ l.toList ++ r.toList, x.precedes y = true) ∧ l.Ordered ∧ r.Ordered

@[simp] theorem toList_empty : (empty : EventQueue ε).toList = [] := rfl

@[simp] theorem toList_node (h : Nat) (x : Scheduled ε) (l r : EventQueue ε) :
    (node h x l r).toList = x :: (l.toList ++ r.toList) := rfl

private theorem toList_join (x : Scheduled ε) (l r : EventQueue ε) :
    (join x l r).toList.Perm (x :: (l.toList ++ r.toList)) := by
  unfold join
  split
  · exact .refl _
  · exact .cons x List.perm_append_comm

theorem Ordered.join {x : Scheduled ε} {l r : EventQueue ε}
    (first : ∀ y ∈ l.toList ++ r.toList, x.precedes y = true)
    (left : l.Ordered) (right : r.Ordered) : (EventQueue.join x l r).Ordered := by
  unfold EventQueue.join
  split
  · exact ⟨first, left, right⟩
  · exact ⟨fun y member => first y (List.perm_append_comm.subset member), right, left⟩

theorem Ordered.top {h : Nat} {x y : Scheduled ε} {l r : EventQueue ε}
    (ordered : (node h x l r).Ordered) (member : y ∈ (node h x l r).toList) :
    x.precedes y = true := by
  rcases List.mem_cons.mp member with same | below
  · exact same ▸ x.precedes_refl
  · exact ordered.1 y below

theorem toList_merge (a b : EventQueue ε) : (merge a b).toList.Perm (a.toList ++ b.toList) := by
  induction a generalizing b with
  | empty => exact .refl _
  | node h x l r _ mergeRight =>
    show (mergeNode (node h x l r) x l (merge r) b).toList.Perm _
    induction b with
    | empty => simp [mergeNode]
    | node h' y l' r' _ mergeLower =>
      unfold mergeNode
      split
      · refine (toList_join _ _ _).trans ?_
        refine (((mergeRight _).append_left l.toList).cons x).trans ?_
        simp only [toList_node, List.cons_append, List.append_assoc]
        exact .refl _
      · refine (toList_join _ _ _).trans ?_
        refine ((mergeLower.append_left l'.toList).cons y).trans ?_
        simp only [toList_node]
        refine (List.perm_append_comm.cons y).trans ?_
        rw [List.append_assoc]
        refine .trans ?_ List.perm_middle.symm
        exact (List.perm_append_comm.append_left _).cons y

theorem Ordered.merge {a b : EventQueue ε} (left : a.Ordered) (right : b.Ordered) :
    (EventQueue.merge a b).Ordered := by
  induction a generalizing b with
  | empty => exact right
  | node h x l r _ mergeRight =>
    show (mergeNode (node h x l r) x l (EventQueue.merge r) b).Ordered
    induction b with
    | empty => exact left
    | node h' y l' r' _ mergeLower =>
      unfold mergeNode
      split
      · next first =>
        refine .join (fun z member => ?_) left.2.1 (mergeRight left.2.2 right)
        rcases List.mem_append.mp member with own | merged
        · exact left.1 z (List.mem_append_left _ own)
        · rcases List.mem_append.mp ((toList_merge _ _).subset merged) with own | other
          · exact left.1 z (List.mem_append_right _ own)
          · exact Scheduled.precedes_trans first (right.top other)
      · next later =>
        have first := Scheduled.precedes_of_not later
        refine .join (fun z member => ?_) right.2.1 (mergeLower right.2.2)
        rcases List.mem_append.mp member with own | merged
        · exact right.1 z (List.mem_append_left _ own)
        · have perm := toList_merge (node h x l r) r'
          rcases List.mem_append.mp (perm.subset merged) with other | own
          · exact Scheduled.precedes_trans first (left.top other)
          · exact right.1 z (List.mem_append_right _ own)

theorem toList_push (q : EventQueue ε) (x : Scheduled ε) :
    (q.push x).toList.Perm (x :: q.toList) := by
  simpa [push] using toList_merge (node 1 x empty empty) q

theorem Ordered.push {q : EventQueue ε} (ordered : q.Ordered) (x : Scheduled ε) :
    (q.push x).Ordered :=
  .merge ⟨by simp, trivial, trivial⟩ ordered

theorem toList_tail {q : EventQueue ε} {x : Scheduled ε} (top : q.top? = some x) :
    q.toList.Perm (x :: q.tail.toList) := by
  cases q with
  | empty => simp [top?] at top
  | node h y l r =>
    obtain rfl : y = x := by simpa [top?] using top
    exact .cons y (toList_merge l r).symm

theorem Ordered.tail {q : EventQueue ε} (ordered : q.Ordered) : q.tail.Ordered := by
  cases q with
  | empty => trivial
  | node h x l r => exact .merge ordered.2.1 ordered.2.2

theorem Ordered.precedes_top {q : EventQueue ε} {x y : Scheduled ε} (ordered : q.Ordered)
    (top : q.top? = some x) (member : y ∈ q.toList) : x.precedes y = true := by
  cases q with
  | empty => simp [top?] at top
  | node h z l r =>
    obtain rfl : z = x := by simpa [top?] using top
    exact ordered.top member

variable {alive : EventId → Bool}

/-- Pruning drops dead events only. -/
theorem toList_prune (alive : EventId → Bool) (q : EventQueue ε) :
    ∃ dead, q.toList.Perm (dead ++ (q.prune alive).toList) ∧ ∀ x ∈ dead, alive x.id = false := by
  induction q with
  | empty => exact ⟨[], .refl _, by simp⟩
  | node h x l r left right =>
    unfold prune
    split
    · exact ⟨[], .refl _, by simp⟩
    · next buried =>
      obtain ⟨deadLeft, permLeft, allLeft⟩ := left
      obtain ⟨deadRight, permRight, allRight⟩ := right
      refine ⟨x :: (deadLeft ++ deadRight), ?_, ?_⟩
      · rw [toList_node, List.cons_append]
        refine .cons x ((permLeft.append permRight).trans ?_)
        simp only [List.append_assoc]
        refine .append_left deadLeft ((List.perm_append_comm_assoc _ _ _).trans ?_)
        exact .append_left deadRight (toList_merge _ _).symm
      · intro y member
        simp only [List.mem_cons, List.mem_append] at member
        rcases member with same | left | right
        · exact same ▸ by simpa using buried
        · exact allLeft y left
        · exact allRight y right

theorem Ordered.prune {q : EventQueue ε} (ordered : q.Ordered) : (q.prune alive).Ordered := by
  induction q with
  | empty => trivial
  | node h x l r left right =>
    unfold EventQueue.prune
    split
    · exact ordered
    · exact .merge (left ordered.2.1) (right ordered.2.2)

private theorem alive_top_merge {a b : EventQueue ε}
    (left : ∀ x, a.top? = some x → alive x.id = true)
    (right : ∀ x, b.top? = some x → alive x.id = true) (x : Scheduled ε)
    (top : (merge a b).top? = some x) : alive x.id = true := by
  cases a with
  | empty => exact right x top
  | node h y l r =>
    cases b with
    | empty => exact left x top
    | node h' z l' r' =>
      change (mergeNode _ y l (merge r) _).top? = _ at top
      unfold mergeNode join at top
      split at top <;> split at top <;>
        first
        | exact left x (by simpa [top?] using top)
        | exact right x (by simpa [top?] using top)

theorem alive_top_prune {q : EventQueue ε} (x : Scheduled ε)
    (top : (q.prune alive).top? = some x) : alive x.id = true := by
  induction q generalizing x with
  | empty => simp [prune, top?] at top
  | node h y l r left right =>
    unfold prune at top
    split at top
    · next living =>
      obtain rfl : y = x := by simpa [top?] using top
      exact living
    · exact alive_top_merge left right x top

theorem toList_of_top?_none {q : EventQueue ε} (top : q.top? = none) : q.toList = [] := by
  cases q with
  | empty => rfl
  | node => simp [top?] at top

end EventQueue

end WirelessMesh
