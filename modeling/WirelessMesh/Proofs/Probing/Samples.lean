import Mathlib
import WirelessMesh.Probing.Delay

namespace WirelessMesh

namespace DelayWindow

variable {window : DelayWindow} {x : DelaySample} {age now : Time}

theorem fresh_iff : now - x.seenAt ≤ age ↔ now - age ≤ x.seenAt := by
  rw [Time.le_def, Time.le_def, Time.ns_sub, Time.ns_sub]
  omega

theorem prune_sublist (window : DelayWindow) (age now : Time) :
    (window.prune age now).Sublist window := List.takeWhile_sublist _

/-- What is left of a window that is cut was in it and is not too old. -/
theorem mem_prune (member : x ∈ window.prune age now) : x ∈ window ∧ now - x.seenAt ≤ age := by
  have passed := List.mem_takeWhile_imp member
  exact ⟨(prune_sublist _ _ _).subset member, fresh_iff.mpr (of_decide_eq_true passed)⟩

end DelayWindow

namespace DelaySampler

/-- When the first frame of a pair came from a peer that still lacks its second. -/
def markOf (s : DelaySampler) (peer : EtherAddress) : Option Time :=
  (s.forward.get? peer).bind (·.mark)

/-- The gaps between the frames of a peer's pairs, the newest first. -/
def measured (s : DelaySampler) (peer : EtherAddress) : DelayWindow := windowOf s.forward peer

/-- The delays that a peer has reported, the newest first. -/
def reported (s : DelaySampler) (peer : EtherAddress) : DelayWindow := windowOf s.reverse peer

variable (s : DelaySampler) (peer other : EtherAddress) (seq : UInt16) (micros : Nat) (now : Time)

theorem get?_insert_peer (links : Directory EtherAddress LinkDelays) (link : LinkDelays) :
    (links.insert peer link).get? other = if other = peer then some link else links.get? other := by
  rw [Directory.get?_insert]
  exact if_congr (Ranked.rank_inj.trans eq_comm) rfl rfl

theorem get?_modify_peer (links : Directory EtherAddress LinkDelays)
    (change : LinkDelays → LinkDelays) : (links.modify peer change).get? other =
      if other = peer then (links.get? other).map change else links.get? other := by
  rw [Directory.get?_modify]
  exact if_congr (Ranked.rank_inj.trans eq_comm) rfl rfl

/-- A window that changes for one peer, a peer without one having an empty one. -/
theorem windowOf_modify (links : Directory EtherAddress LinkDelays)
    (change : DelayWindow → DelayWindow) (empty : change [] = []) :
    windowOf (links.modify peer fun link => { link with window := change link.window }) other =
      if other = peer then change (windowOf links other) else windowOf links other := by
  rw [windowOf, get?_modify_peer]
  by_cases same : other = peer
  · rw [if_pos same, if_pos same, windowOf]
    cases links.get? other with
    | none => simp [empty]
    | some link => simp
  · rw [if_neg same, if_neg same, windowOf]

theorem mark_modify (links : Directory EtherAddress LinkDelays)
    (change : DelayWindow → DelayWindow) :
    ((links.modify peer fun link => { link with window := change link.window }).get? other).bind
      (·.mark) = (links.get? other).bind (·.mark) := by
  rw [get?_modify_peer]
  split
  · cases links.get? other <;> rfl
  · rfl

/-- A second frame right behind a first one makes a sample, unless the gap is too long for one. -/
theorem recordForward_answer : (s.recordForward peer seq now).1 =
    if seq = 2 then ((s.markOf peer).map fun mark => (now - mark).micros).filter (· < noDelay)
    else none := by
  have apart : (2 : UInt16) ≠ 1 := by decide
  unfold recordForward markOf
  cases found : s.forward.get? peer with
  | none => by_cases first : seq = 1 <;> simp [first]
  | some link =>
    obtain ⟨mark, window⟩ := link
    by_cases first : seq = 1
    · simp [first, apart.symm]
    · cases mark with
      | none => simp [first]
      | some mark =>
        by_cases second : seq = 2
        · by_cases short : (now - mark).micros < noDelay <;> simp [second, short, Option.filter]
        · simp [first, second]

theorem markOf_recordForward : (s.recordForward peer seq now).2.markOf other =
    if other = peer then (if seq = 1 then some now else none) else s.markOf other := by
  unfold recordForward markOf
  simp only [get?_insert_peer]
  by_cases same : other = peer
  · rw [if_pos same, if_pos same]
    by_cases first : seq = 1
    · simp [first]
    · cases found : (s.forward.get? peer).getD {} with
      | mk mark window =>
        cases mark with
        | none => simp [first]
        | some mark =>
          by_cases complete : seq = 2 ∧ (now - mark).micros < noDelay <;> simp [first, complete]
  · rw [if_neg same, if_neg same]

/-- A sample takes the place of all that were there of its peer. -/
theorem measured_recordForward : (s.recordForward peer seq now).2.measured other =
    if other = peer then
      match (s.recordForward peer seq now).1 with
      | some gap => [⟨gap, now⟩]
      | none => s.measured peer
    else s.measured other := by
  unfold recordForward measured windowOf
  simp only [get?_insert_peer]
  by_cases same : other = peer
  · rw [if_pos same, if_pos same]
    have window : ((s.forward.get? peer).getD {}).window =
        ((s.forward.get? peer).map (·.window)).getD [] := by
      cases s.forward.get? peer <;> rfl
    rw [← window]
    cases found : (s.forward.get? peer).getD {} with
    | mk mark window =>
      by_cases first : seq = 1
      · simp [first]
      · cases mark with
        | none => simp [first]
        | some mark =>
          by_cases complete : seq = 2 ∧ (now - mark).micros < noDelay <;> simp [first, complete]
  · rw [if_neg same, if_neg same]

theorem markOf_forwardDelay : (s.forwardDelay peer now).2.markOf other = s.markOf other :=
  mark_modify peer other s.forward _

theorem measured_forwardDelay : (s.forwardDelay peer now).2.measured other =
    if other = peer then (s.measured other).prune s.forwardAge now else s.measured other :=
  windowOf_modify peer other s.forward (·.prune s.forwardAge now) rfl

theorem forwardDelay_answer : (s.forwardDelay peer now).1 =
    ((s.measured peer).prune s.forwardAge now).head?.getD (.missing now) := by
  have pruned := s.measured_forwardDelay peer peer now
  rw [if_pos rfl] at pruned
  rw [← pruned]
  rfl

theorem markOf_takeForward : (s.takeForward peer).2.markOf other = s.markOf other :=
  mark_modify peer other s.forward _

theorem measured_takeForward : (s.takeForward peer).2.measured other =
    if other = peer then (s.measured other).tail else s.measured other :=
  windowOf_modify peer other s.forward List.tail rfl

private theorem prune_fresh (maxAge : Time) :
    DelayWindow.prune [⟨micros, now⟩] maxAge now = [⟨micros, now⟩] := by
  have fresh : now - maxAge ≤ now := by
    rw [Time.le_def, Time.ns_sub]
    exact Nat.sub_le _ _
  simp [DelayWindow.prune, fresh]

variable {s peer seq micros now}

theorem recordForward_lt {gap : Nat} (sampled : (s.recordForward peer seq now).1 = some gap) :
    gap < noDelay := by
  rw [recordForward_answer] at sampled
  split at sampled
  · exact of_decide_eq_true (Option.filter_eq_some_iff.mp sampled).2
  · cases sampled

/-- Where no samples are kept, a new one is found and, once it is taken, none is left. -/
theorem passed_on {gap : Nat} (none : ∀ other, s.measured other = [])
    (sampled : (s.recordForward peer seq now).1 = some gap) :
    ((s.recordForward peer seq now).2.forwardDelay peer now).1 = ⟨gap, now⟩ ∧
      ∀ other, (((s.recordForward peer seq now).2.forwardDelay peer now).2.takeForward peer).2.measured
        other = [] := by
  have here : (s.recordForward peer seq now).2.measured peer = [⟨gap, now⟩] := by
    rw [measured_recordForward, if_pos rfl, sampled]
  refine ⟨by rw [forwardDelay_answer, here, prune_fresh]; rfl, fun other => ?_⟩
  rw [measured_takeForward, measured_forwardDelay]
  by_cases same : other = peer
  · rw [if_pos same, if_pos same, same, here, prune_fresh]
    rfl
  · rw [if_neg same, if_neg same, measured_recordForward, if_neg same, none]

/-- Where no samples are kept and none is made, none is found. -/
theorem nothing_to_pass_on (none : ∀ other, s.measured other = [])
    (unsampled : (s.recordForward peer seq now).1 = .none) :
    ((s.recordForward peer seq now).2.forwardDelay peer now).1 = .missing now ∧
      ∀ other, ((s.recordForward peer seq now).2.forwardDelay peer now).2.measured other = [] := by
  have still (other : EtherAddress) : (s.recordForward peer seq now).2.measured other = [] := by
    rw [measured_recordForward, unsampled, none, none, ite_self]
  refine ⟨by rw [forwardDelay_answer, still]; rfl, fun other => ?_⟩
  rw [measured_forwardDelay, still]
  exact ite_self _

variable (s peer micros now)

theorem reported_recordReverse : (s.recordReverse peer micros now).reported other =
    if other = peer then ⟨micros, now⟩ :: s.reported peer else s.reported other := by
  unfold recordReverse reported windowOf
  simp only [get?_insert_peer]
  by_cases same : other = peer
  · rw [if_pos same, if_pos same]
    cases s.reverse.get? peer <;> rfl
  · rw [if_neg same, if_neg same]

end DelaySampler

end WirelessMesh
