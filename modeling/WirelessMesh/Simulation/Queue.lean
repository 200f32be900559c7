import WirelessMesh.Time

/-!
The queue of events to come: a heap whose top is due first, and of two due at one time the one
that was scheduled first. A whole queue is drained with `top?` and `tail`.
-/
namespace WirelessMesh

universe u

/-- The number of a scheduled event, in the order of scheduling. Numbers of 64 bits are the same as long
as fewer than `2 ^ 64` events are scheduled. -/
abbrev EventId := Nat

/-- An event with the time at which it is due. -/
structure Scheduled (ε : Type u) where
  due : Time
  id : EventId
  event : ε

/-- Whether one event runs before another: the earlier one, then the one scheduled first. -/
def Scheduled.precedes {ε : Type u} (x y : Scheduled ε) : Bool :=
  x.due < y.due || (x.due = y.due && x.id ≤ y.id)

/-- A heap of scheduled events; each node knows the length of its shortest way down. -/
inductive EventQueue (ε : Type u) where
  | empty
  | node (height : Nat) (top : Scheduled ε) (left right : EventQueue ε)

namespace EventQueue

variable {ε : Type u}

instance : Inhabited (EventQueue ε) := ⟨empty⟩

def height : EventQueue ε → Nat
  | empty => 0
  | node h _ _ _ => h

/-- Joins an event with two heaps that it precedes, the lower one on the right. -/
def join (x : Scheduled ε) (l r : EventQueue ε) : EventQueue ε :=
  if r.height ≤ l.height then node (r.height + 1) x l r else node (l.height + 1) x r l

/-- Merges the heap of `x`, `l` and more into another heap; `more` merges what lies to its right. -/
def mergeNode (whole : EventQueue ε) (x : Scheduled ε) (l : EventQueue ε)
    (more : EventQueue ε → EventQueue ε) : EventQueue ε → EventQueue ε
  | empty => whole
  | node h y l' r' =>
    if x.precedes y then join x l (more (node h y l' r'))
    else join y l' (mergeNode whole x l more r')

/-- One heap with the events of both. -/
def merge : EventQueue ε → EventQueue ε → EventQueue ε
  | empty => id
  | node h x l r => mergeNode (node h x l r) x l (merge r)

def push (q : EventQueue ε) (x : Scheduled ε) : EventQueue ε :=
  merge (node 1 x empty empty) q

/-- The event to run first. -/
def top? : EventQueue ε → Option (Scheduled ε)
  | empty => none
  | node _ x _ _ => some x

/-- All events but the first to run. -/
def tail : EventQueue ε → EventQueue ε
  | empty => empty
  | node _ _ l r => merge l r

/-- Drops events from the top until one is alive. -/
def prune (alive : EventId → Bool) : EventQueue ε → EventQueue ε
  | empty => empty
  | node h x l r => if alive x.id then node h x l r else merge (prune alive l) (prune alive r)

/-- The events of a heap, in no useful order. -/
def toList : EventQueue ε → List (Scheduled ε)
  | empty => []
  | node _ x l r => x :: (l.toList ++ r.toList)

end EventQueue

end WirelessMesh
