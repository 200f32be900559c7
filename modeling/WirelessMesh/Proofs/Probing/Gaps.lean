import WirelessMesh.Proofs.Probing.Reports

/-!
The gaps between the frames of a peer's pairs. A pair is two frames of one peer with none of its own
between them, the first numbered one and the second numbered two. Main statement: whatever calls were
made in order of time, a sample is made of exactly the pairs whose gap is short enough, and what a look
finds is the sample of the latest one, unless it was taken or is too old.
-/
namespace WirelessMesh

namespace DelaySampler

namespace Call

/-- The frame of a pair that a call takes in of a peer: its number and its time. -/
def pairFrame? (peer : EtherAddress) : Call → Option (UInt16 × Time)
  | recordForward source seq now => if peer = source then some (seq, now) else none
  | _ => none

/-- When a call is made that has to do with pairs. -/
def pairTime? : Call → Option Time
  | recordForward _ _ now => some now
  | forwardDelay _ now => some now
  | _ => none

/-- Whose pairs a call has to do with. -/
def pairPeer? : Call → Option EtherAddress
  | recordForward peer _ _ => some peer
  | forwardDelay peer _ => some peer
  | takeForward peer => some peer
  | _ => none

end Call

/-- The last frame that was taken in of a peer. -/
def lastFrame? (calls : List Call) (peer : EtherAddress) : Option (UInt16 × Time) :=
  (calls.filterMap (Call.pairFrame? peer)).getLast?

/-- A frame that comes after some calls completes a pair: it is a second one, the last frame of its
sender was a first one, and the whole microseconds since are few enough for a delay. -/
structure Completes (calls : List Call) (peer : EtherAddress) (seq : UInt16) (now : Time) (gap : Nat) :
    Prop where
  second : seq = 2
  first : ∃ time, lastFrame? calls peer = some (1, time) ∧ (now - time).micros = gap
  short : gap < 65535

/-- The sample of the latest pair that a peer has completed, which has not been taken since. -/
def Untaken (calls : List Call) (peer : EtherAddress) (x : DelaySample) : Prop :=
  ∃ before after, calls = before ++ .recordForward peer 2 x.seenAt :: after ∧
    Completes before peer 2 x.seenAt x.micros ∧
    (∀ mid now rest gap, after = mid ++ .recordForward peer 2 now :: rest →
      ¬ Completes (before ++ .recordForward peer 2 x.seenAt :: mid) peer 2 now gap) ∧
    .takeForward peer ∉ after

variable {calls : List Call} {call : Call} {peer : EtherAddress} {seq : UInt16} {now age : Time}
  {gap : Nat} {x : DelaySample} {window : DelayWindow}

private theorem lastFrame?_concat (calls : List Call) (call : Call) (peer : EtherAddress) :
    lastFrame? (calls ++ [call]) peer = (call.pairFrame? peer).or (lastFrame? calls peer) := by
  unfold lastFrame?
  rw [List.filterMap_append, List.filterMap_cons]
  cases call.pairFrame? peer <;> simp

private theorem markOf_run (function : SampleFunction) (forwardAge reverseAge : Time) (calls : List Call)
    (peer : EtherAddress) : ((empty function forwardAge reverseAge).run calls).markOf peer =
      (lastFrame? calls peer).bind fun (seq, time) => if seq = 1 then some time else none := by
  induction calls using List.reverseRecOn with
  | nil => rfl
  | append_singleton calls call ih =>
    rw [run_concat, lastFrame?_concat]
    cases call with
    | recordForward source seq now =>
      rw [Call.perform, markOf_recordForward, Call.pairFrame?, ih]
      split <;> rfl
    | recordReverse source micros now => exact ih
    | forwardDelay source now => exact (markOf_forwardDelay _ _ _ _).trans ih
    | reverseDelay source now => exact ih
    | takeForward source => exact (markOf_takeForward _ _ _).trans ih

/-- A sample is made exactly of a frame that completes a pair. -/
theorem recordForward_run_iff (function : SampleFunction) (forwardAge reverseAge : Time) :
    (((empty function forwardAge reverseAge).run calls).recordForward peer seq now).1 = some gap ↔
      Completes calls peer seq now gap := by
  rw [recordForward_answer, markOf_run]
  constructor
  · intro sampled
    split at sampled
    · next second =>
      obtain ⟨made, short⟩ := Option.filter_eq_some_iff.mp sampled
      obtain ⟨mark, marked, rfl⟩ := Option.map_eq_some_iff.mp made
      obtain ⟨⟨number, time⟩, last, own⟩ := Option.bind_eq_some_iff.mp marked
      by_cases first : number = 1
      · simp only [first, if_true, Option.some.injEq] at own
        exact ⟨second, ⟨time, first ▸ last, own ▸ rfl⟩, of_decide_eq_true short⟩
      · simp only [first, if_false, reduceCtorEq] at own
    · cases sampled
  · rintro ⟨rfl, ⟨time, last, rfl⟩, short⟩
    rw [if_pos rfl, last]
    exact Option.filter_eq_some_iff.mpr ⟨rfl, decide_eq_true short⟩

/-- A frame that completes a pair takes the place of all pairs before. -/
theorem Untaken.completed (completes : Completes calls peer 2 now gap) :
    Untaken (calls ++ [.recordForward peer 2 now]) peer ⟨gap, now⟩ :=
  ⟨calls, [], rfl, completes, fun mid _ _ _ none => by simp at none, List.not_mem_nil⟩

/-- What was untaken before a call is so after it, if the call neither takes it nor completes a pair. -/
theorem Untaken.kept (untaken : Untaken calls peer x) (call : Call)
    (leaves : call ≠ .takeForward peer)
    (incomplete : ∀ now gap, call = .recordForward peer 2 now → ¬ Completes calls peer 2 now gap) :
    Untaken (calls ++ [call]) peer x := by
  obtain ⟨before, after, rfl, completed, latest, untaken⟩ := untaken
  refine ⟨before, after ++ [call], by simp, completed, fun mid now rest gap split => ?_, ?_⟩
  · rcases List.eq_nil_or_concat rest with rfl | ⟨rest, last, rfl⟩
    · obtain ⟨rfl, same⟩ := List.append_inj' split rfl
      exact incomplete now gap (List.singleton_inj.mp same)
    · rw [List.concat_eq_append, ← List.cons_append, ← List.append_assoc] at split
      exact latest mid now rest gap (List.append_inj' split rfl).1
  · rw [List.mem_append, List.mem_singleton]
    rintro (taken | taken)
    · exact untaken taken
    · exact leaves taken.symm

/-- What is untaken after a call was made by it, or was untaken before it. -/
theorem Untaken.back (untaken : Untaken (calls ++ [call]) peer x) :
    (call = .recordForward peer 2 x.seenAt ∧ Completes calls peer 2 x.seenAt x.micros) ∨
      (Untaken calls peer x ∧ call ≠ .takeForward peer ∧
        ∀ now gap, call = .recordForward peer 2 now → ¬ Completes calls peer 2 now gap) := by
  obtain ⟨before, after, whole, completed, latest, untaken⟩ := untaken
  rcases List.eq_nil_or_concat after with rfl | ⟨after, last, rfl⟩
  · obtain ⟨rfl, same⟩ := List.append_inj' whole rfl
    exact .inl ⟨List.singleton_inj.mp same, completed⟩
  · rw [List.concat_eq_append] at whole latest untaken
    rw [← List.cons_append, ← List.append_assoc] at whole
    obtain ⟨rfl, same⟩ := List.append_inj' whole rfl
    obtain rfl := List.singleton_inj.mp same
    refine .inr ⟨⟨before, after, rfl, completed, fun mid now rest gap split => ?_, ?_⟩, ?_, ?_⟩
    · exact latest mid now (rest ++ [call]) gap (by rw [split]; simp)
    · exact fun taken => untaken (List.mem_append_left _ taken)
    · exact fun taken => untaken (by simp [taken])
    · exact fun now gap second => latest after now [] gap (by rw [second])

/-- A window holds nothing but what is untaken, and all of that unless it is before a time. -/
structure Recent (since : Time) (calls : List Call) (peer : EtherAddress) (window : DelayWindow) :
    Prop where
  single : window.length ≤ 1
  untaken : ∀ x ∈ window, Untaken calls peer x
  kept : ∀ x, Untaken calls peer x → since ≤ x.seenAt → window = [x]

namespace Recent

variable {since : Time}

/-- A call that neither takes the sample away nor completes a pair. -/
theorem passed (recent : Recent since calls peer window) (leaves : call ≠ .takeForward peer)
    (incomplete : ∀ now gap, call = .recordForward peer 2 now → ¬ Completes calls peer 2 now gap) :
    Recent since (calls ++ [call]) peer window where
  single := recent.single
  untaken x member := (recent.untaken x member).kept call leaves incomplete
  kept x untaken fresh := by
    rcases untaken.back with ⟨second, completed⟩ | ⟨before, -⟩
    · exact absurd completed (incomplete _ _ second)
    · exact recent.kept x before fresh

theorem completed (completes : Completes calls peer 2 now gap) :
    Recent since (calls ++ [.recordForward peer 2 now]) peer [⟨gap, now⟩] where
  single := Nat.le_refl 1
  untaken x member := List.mem_singleton.mp member ▸ .completed completes
  kept x untaken _ := by
    rcases untaken.back with ⟨same, completed⟩ | ⟨-, -, incomplete⟩
    · cases same
      obtain ⟨time, last, made⟩ := completes.first
      obtain ⟨time', last', made'⟩ := completed.first
      cases last.symm.trans last'
      rw [made.symm.trans made']
    · exact absurd completes (incomplete now gap rfl)

theorem taken (recent : Recent since calls peer window) :
    Recent since (calls ++ [.takeForward peer]) peer window.tail := by
  have none : window.tail = [] := List.eq_nil_of_length_eq_zero (by
    have := recent.single
    rw [List.length_tail]
    omega)
  rw [none]
  refine ⟨Nat.zero_le 1, nofun, fun x untaken => ?_⟩
  rcases untaken.back with ⟨same, -⟩ | ⟨-, leaves, -⟩
  · cases same
  · exact absurd rfl leaves

/-- To cut a window as of an earlier time takes away only what is too old later as well. -/
theorem prune {moment : Time} (recent : Recent (now - age) calls peer window) (earlier : moment ≤ now) :
    Recent (now - age) calls peer (window.prune age moment) where
  single := Nat.le_trans (window.prune_sublist age moment).length_le recent.single
  untaken x member := recent.untaken x (DelayWindow.mem_prune member).1
  kept x untaken fresh := by
    have fresher : moment - age ≤ x.seenAt := Nat.le_trans (Nat.sub_le_sub_right earlier age.ns) fresh
    rw [recent.kept x untaken fresh, DelayWindow.prune, List.takeWhile_cons,
      if_pos (decide_eq_true fresher), List.takeWhile_nil]

/-- A window that is cut as of now holds what is untaken and not too old. -/
private theorem head?_prune (recent : Recent (now - age) calls peer window) :
    (∀ x, Untaken calls peer x → now - x.seenAt ≤ age → (window.prune age now).head? = some x) ∧
      ((∀ x, Untaken calls peer x → ¬ now - x.seenAt ≤ age) → (window.prune age now).head? = none) := by
  refine ⟨fun x untaken fresh => ?_, fun old => ?_⟩
  · rw [(recent.prune (Nat.le_refl now.ns)).kept x untaken (DelayWindow.fresh_iff.mp fresh)]
    rfl
  · refine List.head?_eq_none_iff.mpr (List.eq_nil_iff_forall_not_mem.mpr fun x member => ?_)
    obtain ⟨before, fresh⟩ := DelayWindow.mem_prune member
    exact old x (recent.untaken x before) fresh

end Recent

theorem forwardAge_run (function : SampleFunction) (forwardAge reverseAge : Time) (calls : List Call) :
    ((empty function forwardAge reverseAge).run calls).forwardAge = forwardAge := by
  induction calls using List.reverseRecOn with
  | nil => rfl
  | append_singleton calls call ih =>
    rw [run_concat]
    cases call <;> exact ih

/-- A frame that comes next: it takes the place of the sample exactly if it completes a pair of the
peer. -/
private theorem recent_recordForward (function : SampleFunction) (forwardAge reverseAge : Time)
    {since moment : Time} {source : EtherAddress}
    (recent : Recent since calls peer
      (((empty function forwardAge reverseAge).run calls).measured peer)) :
    Recent since (calls ++ [.recordForward source seq moment]) peer
      ((((empty function forwardAge reverseAge).run calls).recordForward source seq moment).2.measured
        peer) := by
  rw [measured_recordForward]
  split
  · next own =>
    subst own
    cases sampled : (((empty function forwardAge reverseAge).run calls).recordForward peer seq
        moment).1 with
    | some gap =>
      have completes := (recordForward_run_iff function forwardAge reverseAge).mp sampled
      obtain rfl := completes.second
      exact .completed completes
    | none =>
      refine recent.passed (by simp) fun now gap second completes => ?_
      cases second
      rw [(recordForward_run_iff function forwardAge reverseAge).mpr completes] at sampled
      cases sampled
  · next other =>
    refine recent.passed (by simp) fun now gap second => ?_
    cases second
    exact absurd rfl other

private theorem recent_run (function : SampleFunction) (forwardAge reverseAge : Time)
    (inOrder : InOrder (calls.filterMap Call.pairTime?) now) (peer : EtherAddress) :
    Recent (now - forwardAge) calls peer
      (((empty function forwardAge reverseAge).run calls).measured peer) := by
  induction calls using List.reverseRecOn with
  | nil =>
    refine ⟨Nat.zero_le 1, fun x member => absurd member List.not_mem_nil, fun x untaken => ?_⟩
    obtain ⟨before, after, whole, -⟩ := untaken
    simp at whole
  | append_singleton calls call ih =>
    have before : InOrder (calls.filterMap Call.pairTime?) now :=
      inOrder.sublist ((List.sublist_append_left calls [call]).filterMap _)
    have recent := ih before
    rw [run_concat]
    cases call with
    | recordForward source seq moment =>
      exact recent_recordForward function forwardAge reverseAge recent
    | recordReverse source micros moment => exact recent.passed (by simp) (by simp)
    | forwardDelay source moment =>
      have past : moment ≤ now :=
        inOrder.past moment (List.mem_filterMap.mpr ⟨.forwardDelay source moment, by simp, rfl⟩)
      rw [Call.perform, measured_forwardDelay, forwardAge_run]
      split
      · next own =>
        have passed : Recent (now - forwardAge) (calls ++ [.forwardDelay source moment]) peer _ :=
          recent.passed (by simp) (by simp)
        exact passed.prune past
      · exact recent.passed (by simp) (by simp)
    | reverseDelay source moment => exact recent.passed (by simp) (by simp)
    | takeForward source =>
      rw [Call.perform, measured_takeForward]
      split
      · next own => exact own ▸ recent.taken
      · next other =>
        refine recent.passed (fun same => ?_) (by simp)
        cases same
        exact other rfl

/-- Samplers that cannot be told apart by what is asked about the pairs of a peer. -/
structure SamePairs (peer : EtherAddress) (s s' : DelaySampler) : Prop where
  age : s'.forwardAge = s.forwardAge
  mark : s'.markOf peer = s.markOf peer
  measured : s'.measured peer = s.measured peer

namespace SamePairs

variable {s s' : DelaySampler}

theorem recordForward (same : SamePairs peer s s') (seq : UInt16) (now : Time) :
    (s'.recordForward peer seq now).1 = (s.recordForward peer seq now).1 := by
  rw [recordForward_answer, recordForward_answer, same.mark]

theorem forwardDelay (same : SamePairs peer s s') (now : Time) :
    (s'.forwardDelay peer now).1 = (s.forwardDelay peer now).1 := by
  rw [forwardDelay_answer, forwardDelay_answer, same.measured, same.age]

theorem aside (s : DelaySampler) (foreign : call.pairPeer? ≠ some peer) :
    SamePairs peer s (call.perform s) := by
  cases call with
  | recordForward source seq now =>
    have other : ¬ peer = source := fun same => foreign (congrArg some same.symm)
    exact ⟨rfl, (markOf_recordForward ..).trans (if_neg other),
      (measured_recordForward ..).trans (if_neg other)⟩
  | recordReverse source micros now => exact ⟨rfl, rfl, rfl⟩
  | forwardDelay source now =>
    have other : ¬ peer = source := fun same => foreign (congrArg some same.symm)
    exact ⟨rfl, markOf_forwardDelay .., (measured_forwardDelay ..).trans (if_neg other)⟩
  | reverseDelay source now => exact ⟨rfl, rfl, rfl⟩
  | takeForward source =>
    have other : ¬ peer = source := fun same => foreign (congrArg some same.symm)
    exact ⟨rfl, markOf_takeForward .., (measured_takeForward ..).trans (if_neg other)⟩

/-- A call about the pairs of the peer does the same to both. -/
theorem perform (same : SamePairs peer s s') (own : call.pairPeer? = some peer) :
    SamePairs peer (call.perform s) (call.perform s') := by
  cases call with
  | recordForward source seq now =>
    cases own
    refine ⟨same.age, ?_, ?_⟩
    · rw [Call.perform, Call.perform, markOf_recordForward, markOf_recordForward, same.mark]
    · rw [Call.perform, Call.perform, measured_recordForward, measured_recordForward,
        same.recordForward, same.measured]
  | recordReverse source micros now => cases own
  | forwardDelay source now =>
    cases own
    refine ⟨same.age, ?_, ?_⟩
    · rw [Call.perform, Call.perform, markOf_forwardDelay, markOf_forwardDelay, same.mark]
    · rw [Call.perform, Call.perform, measured_forwardDelay, measured_forwardDelay, same.measured,
        same.age]
  | reverseDelay source now => cases own
  | takeForward source =>
    cases own
    refine ⟨same.age, ?_, ?_⟩
    · rw [Call.perform, Call.perform, markOf_takeForward, markOf_takeForward, same.mark]
    · rw [Call.perform, Call.perform, measured_takeForward, measured_takeForward, same.measured]

private theorem run_filter (s : DelaySampler) (calls : List Call) (peer : EtherAddress) :
    SamePairs peer (s.run (calls.filter (·.pairPeer? = some peer))) (s.run calls) := by
  induction calls using List.reverseRecOn with
  | nil => exact ⟨rfl, rfl, rfl⟩
  | append_singleton calls call ih =>
    rw [List.filter_append, run_concat]
    by_cases own : call.pairPeer? = some peer
    · rw [List.filter_cons, if_pos (decide_eq_true own), List.filter_nil, run_concat]
      exact ih.perform own
    · have still := aside (s.run calls) own
      rw [List.filter_cons, if_neg (by simpa using own), List.filter_nil, List.append_nil]
      exact ⟨still.age.trans ih.age, still.mark.trans ih.mark, still.measured.trans ih.measured⟩

end SamePairs

/-- Whatever calls were made in order of time, a frame makes a sample exactly if it completes a pair, and
a look finds the sample of the peer's latest pair if it has not been taken and is not too old, and
otherwise that there is none. Nothing that has to do with other peers makes a difference, and no more
than one sample of a peer is kept. -/
theorem pairs_measured_exactly (function : SampleFunction) (forwardAge reverseAge : Time)
    (inOrder : InOrder (calls.filterMap Call.pairTime?) now) (peer : EtherAddress) :
    (∀ seq gap,
      (((empty function forwardAge reverseAge).run calls).recordForward peer seq now).1 = some gap ↔
        Completes calls peer seq now gap) ∧
    (∀ x, Untaken calls peer x → now - x.seenAt ≤ forwardAge →
      (((empty function forwardAge reverseAge).run calls).forwardDelay peer now).1 = x) ∧
    ((∀ x, Untaken calls peer x → ¬ now - x.seenAt ≤ forwardAge) →
      (((empty function forwardAge reverseAge).run calls).forwardDelay peer now).1 = .missing now) ∧
    (∀ others, others.filter (·.pairPeer? = some peer) = calls.filter (·.pairPeer? = some peer) →
      (∀ seq, (((empty function forwardAge reverseAge).run others).recordForward peer seq now).1 =
        (((empty function forwardAge reverseAge).run calls).recordForward peer seq now).1) ∧
      (((empty function forwardAge reverseAge).run others).forwardDelay peer now).1 =
        (((empty function forwardAge reverseAge).run calls).forwardDelay peer now).1) ∧
    (((empty function forwardAge reverseAge).run calls).measured peer).length ≤ 1 := by
  have recent := recent_run function forwardAge reverseAge inOrder peer
  obtain ⟨found, missed⟩ := recent.head?_prune
  refine ⟨fun seq gap => recordForward_run_iff function forwardAge reverseAge,
    fun x untaken fresh => ?_, fun old => ?_, fun others alike => ?_, recent.single⟩
  · rw [forwardDelay_answer, forwardAge_run, found x untaken fresh, Option.getD_some]
  · rw [forwardDelay_answer, forwardAge_run, missed old, Option.getD_none]
  · have here := SamePairs.run_filter (empty function forwardAge reverseAge) calls peer
    have there := SamePairs.run_filter (empty function forwardAge reverseAge) others peer
    rw [alike] at there
    exact ⟨fun seq => (there.recordForward seq now).trans (here.recordForward seq now).symm,
      (there.forwardDelay now).trans (here.forwardDelay now).symm⟩

/-- A pair of one peer with a first frame of another in between, and then a pair of it whose second
frame comes too late. -/
def twoPairs : List Call :=
  [.recordForward (.ofIndex 3) 1 (.ofMillis 1), .recordForward (.ofIndex 5) 1 (.ofMillis 2),
    .recordForward (.ofIndex 3) 2 (.ofMillis 3), .recordForward (.ofIndex 3) 1 (.ofMillis 100),
    .recordForward (.ofIndex 3) 2 (.ofMillis 200)]

private theorem untaken_twoPairs : Untaken twoPairs (.ofIndex 3) ⟨2000, .ofMillis 3⟩ := by
  have pair : Completes (twoPairs.take 2) (.ofIndex 3) 2 (.ofMillis 3) 2000 :=
    ⟨rfl, ⟨.ofMillis 1, by decide, by decide⟩, by decide⟩
  have first := (Untaken.completed pair).kept (.recordForward (.ofIndex 3) 1 (.ofMillis 100)) nofun nofun
  refine first.kept (.recordForward (.ofIndex 3) 2 (.ofMillis 200)) nofun fun now gap second late => ?_
  cases second
  obtain ⟨time, last, rfl⟩ := late.first
  have before : lastFrame? (twoPairs.take 4) (.ofIndex 3) = some (1, .ofMillis 100) := by decide
  cases before.symm.trans last
  exact absurd late.short (by decide)

/-- The pair that took two milliseconds is found a second later, though the one after it was too slow to
be measured, and a peer of which a first frame came alone has no sample. -/
theorem slow_pair_leaves_sample : InOrder (twoPairs.filterMap Call.pairTime?) (.ofMillis 1003) ∧
    (((empty .min (.ofSeconds 1) .zero).run twoPairs).forwardDelay (.ofIndex 3) (.ofMillis 1003)).1 =
      ⟨2000, .ofMillis 3⟩ ∧
    (((empty .min (.ofSeconds 1) .zero).run twoPairs).forwardDelay (.ofIndex 5) (.ofMillis 1003)).1 =
      .missing (.ofMillis 1003) := by
  have inOrder : InOrder (twoPairs.filterMap Call.pairTime?) (.ofMillis 1003) := ⟨by decide, by decide⟩
  obtain ⟨-, found, -⟩ := pairs_measured_exactly .min (.ofSeconds 1) .zero inOrder (.ofIndex 3)
  obtain ⟨-, -, -, alike, -⟩ := pairs_measured_exactly .min (.ofSeconds 1) .zero inOrder (.ofIndex 5)
  have alone := (alike [.recordForward (.ofIndex 5) 1 (.ofMillis 2)] rfl).2
  exact ⟨inOrder, found _ untaken_twoPairs (by decide), alone.symm⟩

end DelaySampler

end WirelessMesh
