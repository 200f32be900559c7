import WirelessMesh.Proofs.Probing.Samples

/-!
The delays that peers report. They are kept in order of time; a look for one cuts the window of the peer
at the first sample that is too old, and nothing else takes samples away. Main statement: for all that a
look finds what stands for everything that the peer has ever reported and that is not too old, whatever
looks there were before.
-/
namespace WirelessMesh

/-- Times in order, none of them after a moment. -/
structure InOrder (times : List Time) (now : Time) : Prop where
  ordered : times.Pairwise (· ≤ ·)
  past : ∀ time ∈ times, time ≤ now

namespace InOrder

variable {times more : List Time} {now now' : Time}

theorem nil : InOrder [] now := ⟨.nil, nofun⟩

theorem later (inOrder : InOrder times now) (on : now ≤ now') : InOrder times now' :=
  ⟨inOrder.ordered, fun time member => Nat.le_trans (inOrder.past time member) on⟩

theorem sublist (inOrder : InOrder times now) (fewer : more.Sublist times) : InOrder more now :=
  ⟨inOrder.ordered.sublist fewer, fun time member => inOrder.past time (fewer.subset member)⟩

theorem append (inOrder : InOrder times now) (current : ∀ time ∈ more, time = now) :
    InOrder (times ++ more) now where
  ordered := by
    refine List.pairwise_append.mpr ⟨inOrder.ordered, ?_, fun time before new member => ?_⟩
    · refine List.pairwise_iff_forall_sublist.mpr fun {time new} both => ?_
      rw [current time (both.subset List.mem_cons_self), current new (both.subset (by simp))]
      exact Nat.le_refl _
    · rw [current new member]
      exact inOrder.past time before
  past time member := by
    rcases List.mem_append.mp member with before | new
    · exact inOrder.past time before
    · rw [current time new]
      exact Nat.le_refl _

end InOrder

namespace DelaySampler

/-- When the delays that a peer has reported came, the oldest first. -/
def reportTimes (s : DelaySampler) (peer : EtherAddress) : List Time :=
  (s.reported peer).reverse.map (·.seenAt)

def Dated (s : DelaySampler) (now : Time) : Prop := ∀ peer, InOrder (s.reportTimes peer) now

variable {s s' : DelaySampler} {peer : EtherAddress} {now : Time}

theorem reported_reverseDelay (s : DelaySampler) (peer other : EtherAddress) (now : Time) :
    (s.reverseDelay peer now).2.reported other =
      if other = peer then (s.reported other).prune s.reverseAge now else s.reported other :=
  windowOf_modify peer other s.reverse (·.prune s.reverseAge now) rfl

theorem Dated.congr (dated : s.Dated now) (same : s'.reverse = s.reverse) : s'.Dated now := by
  intro peer
  rw [reportTimes, reported, same]
  exact dated peer

theorem Dated.recordReverse (dated : s.Dated now) (peer : EtherAddress) (micros : Nat) :
    (s.recordReverse peer micros now).Dated now := by
  intro other
  rw [reportTimes, reported_recordReverse]
  split
  · rw [List.reverse_cons, List.map_append]
    exact (dated peer).append fun time member => List.mem_singleton.mp member
  · exact dated other

/-- A look at a window, as of whatever time, only cuts it. -/
theorem Dated.reverseDelay (dated : s.Dated now) (peer : EtherAddress) (moment : Time) :
    (s.reverseDelay peer moment).2.Dated now := by
  intro other
  rw [reportTimes, reported_reverseDelay]
  split
  · have cut := (s.reported other).prune_sublist s.reverseAge moment
    exact (dated other).sublist (cut.reverse.map _)
  · exact dated other

/-- A call of the sampler. -/
inductive Call where
  | recordForward (peer : EtherAddress) (seq : UInt16) (now : Time)
  | recordReverse (peer : EtherAddress) (micros : Nat) (now : Time)
  | forwardDelay (peer : EtherAddress) (now : Time)
  | reverseDelay (peer : EtherAddress) (now : Time)
  | takeForward (peer : EtherAddress)

namespace Call

def perform (s : DelaySampler) : Call → DelaySampler
  | recordForward peer seq now => (s.recordForward peer seq now).2
  | recordReverse peer micros now => s.recordReverse peer micros now
  | forwardDelay peer now => (s.forwardDelay peer now).2
  | reverseDelay peer now => (s.reverseDelay peer now).2
  | takeForward peer => (s.takeForward peer).2

/-- The sample that a call reports of a peer. -/
def report? (peer : EtherAddress) : Call → Option DelaySample
  | recordReverse source micros now => if peer = source then some ⟨micros, now⟩ else none
  | _ => none

/-- When a call is made that has to do with reports. -/
def dated? : Call → Option Time
  | recordReverse _ _ now => some now
  | reverseDelay _ now => some now
  | _ => none

end Call

/-- The sampler after calls, the first one first. -/
def run (s : DelaySampler) (calls : List Call) : DelaySampler := calls.foldl Call.perform s

/-- All that a peer has ever reported, the newest first. -/
def reports (calls : List Call) (peer : EtherAddress) : DelayWindow :=
  (calls.filterMap (Call.report? peer)).reverse

/-- What stands for a window at a time: nothing for an empty one; the smallest sample, the newest one of
those that are equal; or the newest sample. -/
inductive StandsFor (now : Time) : SampleFunction → DelayWindow → DelaySample → Prop
  | missing {function : SampleFunction} : StandsFor now function [] (.missing now)
  | smallest (newer older : DelayWindow) {s : DelaySample} (less : ∀ x ∈ newer, s.micros < x.micros)
      (least : ∀ x ∈ older, s.micros ≤ x.micros) : StandsFor now .min (newer ++ s :: older) s
  | newest {older : DelayWindow} {s : DelaySample} : StandsFor now .ewma (s :: older) s

variable {calls : List Call} {call : Call} {moment since age : Time} {window kept all : DelayWindow}
  {x y : DelaySample} {function : SampleFunction}

/-- A sample below all newer ones is not behind one that no older one is below. -/
private theorem length_le_of_smallest {newer older newer' older' : DelayWindow}
    (same : newer ++ x :: older = newer' ++ y :: older') (least : ∀ z ∈ older, x.micros ≤ z.micros)
    (less : ∀ z ∈ newer', y.micros < z.micros) : newer'.length ≤ newer.length := by
  rcases List.append_eq_append_iff.mp same with ⟨more, front, back⟩ | ⟨more, front, -⟩
  · cases more with
    | nil => rw [front, List.append_nil]
    | cons head tail =>
      obtain ⟨rfl, behind⟩ := List.cons.inj back
      have below := less x (front ▸ List.mem_append_right _ List.mem_cons_self)
      have above := least y (behind ▸ List.mem_append_right _ List.mem_cons_self)
      exact absurd below (Nat.not_lt_of_le above)
  · rw [front, List.length_append]
    exact Nat.le_add_right _ _

/-- No two samples stand for a window. -/
theorem StandsFor.unique (stands : StandsFor now function window x)
    (also : StandsFor now function window y) : x = y := by
  generalize whole : window = window' at also
  cases stands with
  | missing =>
    cases also with
    | missing => rfl
    | smallest => simp at whole
    | newest => cases whole
  | newest =>
    cases also with
    | missing => cases whole
    | newest => exact (List.cons.inj whole).1
  | smallest newer older less least =>
    cases also with
    | missing => simp at whole
    | smallest newer' older' less' least' =>
      have lengths := Nat.le_antisymm (length_le_of_smallest whole.symm least' less)
        (length_le_of_smallest whole least less')
      exact (List.cons.inj (List.append_inj whole lengths).2).1

instance : Std.Associative DelayWindow.smaller where
  assoc a b c := by
    unfold DelayWindow.smaller
    grind

/-- One more sample at the front stands for all if none behind it is smaller. -/
theorem StandsFor.cons (stands : StandsFor now .min (y :: window) x) (front : DelaySample) :
    StandsFor now .min (front :: y :: window) (DelayWindow.smaller front x) := by
  generalize whole : y :: window = l at stands
  cases stands with
  | missing => cases whole
  | smallest newer older less least =>
    unfold DelayWindow.smaller
    split
    · next first =>
      refine .smallest [] _ nofun fun other member => ?_
      rcases List.mem_append.mp member with before | after
      · exact Nat.le_trans first (less other before).le
      · rcases List.mem_cons.mp after with rfl | behind
        · exact first
        · exact Nat.le_trans first (least other behind)
    · next larger =>
      refine .smallest (front :: newer) older (List.forall_mem_cons.mpr ⟨?_, less⟩) least
      exact Nat.lt_of_not_le larger

private theorem standsFor_foldl (newest : DelaySample) (older : DelayWindow) :
    StandsFor now .min (newest :: older) (older.foldl DelayWindow.smaller newest) := by
  induction older generalizing newest with
  | nil => exact .smallest [] [] nofun nofun
  | cons next older ih =>
    rw [List.foldl_cons, List.foldl_assoc]
    exact (ih next).cons newest

private theorem standsFor_aggregate (window : DelayWindow) (function : SampleFunction) (now : Time) :
    StandsFor now function window ((window.aggregate function).getD (.missing now)) := by
  cases window with
  | nil => exact .missing
  | cons newest older =>
    cases function with
    | min => exact standsFor_foldl newest older
    | ewma => exact .newest

/-- A window holds all of a longer one, but for some at its end that are before a time. -/
def Keeps (since : Time) (kept all : DelayWindow) : Prop :=
  ∃ gone, all = kept ++ gone ∧ ∀ x ∈ gone, x.seenAt < since

private theorem stale_of_mem_dropWhile (newestFirst : window.Pairwise fun x y => y.seenAt ≤ x.seenAt)
    (dropped : x ∈ window.dropWhile (since ≤ ·.seenAt)) : x.seenAt < since := by
  induction window with
  | nil => cases dropped
  | cons newest older ih =>
    obtain ⟨before, tail⟩ := List.pairwise_cons.mp newestFirst
    rw [List.dropWhile_cons] at dropped
    split at dropped
    · exact ih tail dropped
    · next stale =>
      have stale : newest.seenAt < since := Nat.lt_of_not_le fun fresh => stale (decide_eq_true fresh)
      rcases List.mem_cons.mp dropped with rfl | behind
      · exact stale
      · exact Nat.lt_of_le_of_lt (before x behind) stale

/-- To cut a window as of an earlier time takes away only what is too old later as well. -/
theorem Keeps.prune (keeps : Keeps (now - age) kept all)
    (newestFirst : all.Pairwise fun x y => y.seenAt ≤ x.seenAt) (earlier : moment ≤ now) :
    Keeps (now - age) (kept.prune age moment) all := by
  obtain ⟨gone, rfl, stale⟩ := keeps
  refine ⟨kept.dropWhile (moment - age ≤ ·.seenAt) ++ gone, ?_, fun x member => ?_⟩
  · rw [DelayWindow.prune, ← List.append_assoc, List.takeWhile_append_dropWhile]
  · rcases List.mem_append.mp member with dropped | before
    · have cut := stale_of_mem_dropWhile (List.pairwise_append.mp newestFirst).1 dropped
      exact Nat.lt_of_lt_of_le cut (Nat.sub_le_sub_right earlier age.ns)
    · exact stale x before

theorem Keeps.filter (keeps : Keeps (now - age) kept all)
    (newestFirst : all.Pairwise fun x y => y.seenAt ≤ x.seenAt) :
    (all.filter fun x => now - x.seenAt ≤ age) = kept.prune age now := by
  obtain ⟨gone, rfl, stale⟩ := keeps.prune newestFirst (Nat.le_refl now.ns)
  have fresh : ∀ x ∈ kept.prune age now, decide (now - x.seenAt ≤ age) = true := fun x member =>
    decide_eq_true (DelayWindow.mem_prune member).2
  have old : ∀ x ∈ gone, ¬ decide (now - x.seenAt ≤ age) = true := by
    intro x member recent
    exact Nat.not_le_of_lt (stale x member) (DelayWindow.fresh_iff.mp (of_decide_eq_true recent))
  rw [List.filter_append, List.filter_eq_self.mpr fresh, List.filter_eq_nil_iff.mpr old,
    List.append_nil]

private theorem perform_same (s : DelaySampler) (call : Call) :
    (call.perform s).function = s.function ∧ (call.perform s).reverseAge = s.reverseAge := by
  cases call <;> exact ⟨rfl, rfl⟩

theorem run_same (s : DelaySampler) (calls : List Call) :
    (s.run calls).function = s.function ∧ (s.run calls).reverseAge = s.reverseAge := by
  induction calls generalizing s with
  | nil => exact ⟨rfl, rfl⟩
  | cons call calls ih =>
    obtain ⟨function, age⟩ := perform_same s call
    exact ⟨(ih _).1.trans function, (ih _).2.trans age⟩

private theorem reports_concat (calls : List Call) (call : Call) (peer : EtherAddress) :
    reports (calls ++ [call]) peer = (call.report? peer).toList ++ reports calls peer := by
  unfold reports
  rw [List.filterMap_append, List.reverse_append, List.filterMap_cons]
  cases call.report? peer <;> rfl

theorem run_concat (s : DelaySampler) (calls : List Call) (call : Call) :
    s.run (calls ++ [call]) = call.perform (s.run calls) :=
  List.foldl_concat ..

private theorem dated?_of_report? (reported : call.report? peer = some x) : call.dated? = some x.seenAt := by
  unfold Call.report? at reported
  split at reported
  · split at reported
    · cases reported
      rfl
    · cases reported
  · cases reported

theorem newestFirst_reports (inOrder : InOrder (calls.filterMap Call.dated?) now) (peer : EtherAddress) :
    (reports calls peer).Pairwise fun x y => y.seenAt ≤ x.seenAt := by
  refine List.pairwise_reverse.mpr (List.pairwise_filterMap.mpr ?_)
  refine (List.pairwise_filterMap.mp inOrder.ordered).imp ?_
  intro a b before x first y second
  exact before _ (dated?_of_report? first) _ (dated?_of_report? second)

/-- What a call keeps of all reports, its own among them. -/
theorem Keeps.perform (keeps : Keeps (now - age) (s.reported peer) all) (same : s.reverseAge = age)
    (newestFirst : all.Pairwise fun x y => y.seenAt ≤ x.seenAt)
    (past : ∀ moment, call.dated? = some moment → moment ≤ now) :
    Keeps (now - age) ((call.perform s).reported peer) ((call.report? peer).toList ++ all) := by
  cases call with
  | recordForward | forwardDelay | takeForward => exact keeps
  | recordReverse source micros moment =>
    rw [Call.perform, reported_recordReverse, Call.report?]
    split
    · next own =>
      obtain ⟨gone, whole, stale⟩ := keeps
      exact ⟨gone, congrArg (List.cons _) (own ▸ whole), stale⟩
    · exact keeps
  | reverseDelay source moment =>
    rw [Call.perform, reported_reverseDelay, same]
    split
    · exact keeps.prune newestFirst (past moment rfl)
    · exact keeps

private theorem keeps_run (function : SampleFunction) (forwardAge reverseAge : Time)
    (inOrder : InOrder (calls.filterMap Call.dated?) now) (peer : EtherAddress) :
    Keeps (now - reverseAge) (((empty function forwardAge reverseAge).run calls).reported peer)
      (reports calls peer) := by
  induction calls using List.reverseRecOn with
  | nil => exact ⟨[], rfl, nofun⟩
  | append_singleton calls call ih =>
    have before : InOrder (calls.filterMap Call.dated?) now :=
      inOrder.sublist ((List.sublist_append_left calls [call]).filterMap _)
    rw [run_concat, reports_concat]
    refine (ih before).perform (run_same _ calls).2 (newestFirst_reports before peer) ?_
    intro moment dated
    exact inOrder.past moment (List.mem_filterMap.mpr ⟨call, by simp, dated⟩)

private theorem reverseDelay_answer (s : DelaySampler) (peer : EtherAddress) (now : Time) :
    (s.reverseDelay peer now).1 =
      (((s.reported peer).prune s.reverseAge now).aggregate s.function).getD (.missing now) := by
  have pruned := s.reported_reverseDelay peer peer now
  rw [if_pos rfl] at pruned
  rw [← pruned]
  rfl

private theorem standsFor_reverseDelay (function : SampleFunction) (forwardAge reverseAge : Time)
    (inOrder : InOrder (calls.filterMap Call.dated?) now) (peer : EtherAddress) :
    StandsFor now function ((reports calls peer).filter fun x => now - x.seenAt ≤ reverseAge)
      (((empty function forwardAge reverseAge).run calls).reverseDelay peer now).1 := by
  obtain ⟨sameFunction, sameAge⟩ := run_same (empty function forwardAge reverseAge) calls
  rw [(keeps_run function forwardAge reverseAge inOrder peer).filter (newestFirst_reports inOrder peer),
    reverseDelay_answer, sameFunction, sameAge]
  exact standsFor_aggregate _ function now

/-- Whatever calls were made in order of time, a look for the delay of a peer finds what stands for all
that the peer has ever reported and that is not too old, and it would have found the same without any
of the looks that came before. -/
theorem looks_change_no_answer (function : SampleFunction) (forwardAge reverseAge : Time)
    (inOrder : InOrder (calls.filterMap Call.dated?) now) (peer : EtherAddress) :
    StandsFor now function ((reports calls peer).filter fun x => now - x.seenAt ≤ reverseAge)
        (((empty function forwardAge reverseAge).run calls).reverseDelay peer now).1 ∧
      ∀ before after other moment, calls = before ++ .reverseDelay other moment :: after →
        (((empty function forwardAge reverseAge).run (before ++ after)).reverseDelay peer now).1 =
          (((empty function forwardAge reverseAge).run calls).reverseDelay peer now).1 := by
  have stands := standsFor_reverseDelay function forwardAge reverseAge inOrder peer
  refine ⟨stands, ?_⟩
  rintro before after other moment rfl
  have fewer : (before ++ after).Sublist (before ++ .reverseDelay other moment :: after) :=
    (List.sublist_cons_self _ after).append_left before
  have without := standsFor_reverseDelay function forwardAge reverseAge
    (inOrder.sublist (fewer.filterMap _)) peer
  have same : reports (before ++ after) peer =
      reports (before ++ .reverseDelay other moment :: after) peer := by
    simp only [reports, List.filterMap_append]
    rfl
  exact (same ▸ without).unique stands

/-- Three delays that a peer reports, and a look for them before another peer is looked for. -/
def threeReports : List Call :=
  [.recordReverse (.ofIndex 3) 120 (.ofSeconds 2), .recordReverse (.ofIndex 3) 300 (.ofSeconds 3),
    .recordReverse (.ofIndex 3) 120 (.ofSeconds 4), .reverseDelay (.ofIndex 3) (.ofSeconds 9),
    .reverseDelay (.ofIndex 5) (.ofSeconds 9)]

/-- The oldest of three samples is at the limit of twelve seconds, and of it and its equal the newer one
stands for all; later none is left. -/
theorem newer_of_equal_delays :
    InOrder (threeReports.filterMap Call.dated?) (.ofSeconds 14) ∧
    (((empty .min .zero (.ofSeconds 12)).run threeReports).reverseDelay (.ofIndex 3)
      (.ofSeconds 14)).1 = ⟨120, .ofSeconds 4⟩ ∧
    (((empty .min .zero (.ofSeconds 12)).run threeReports).reverseDelay (.ofIndex 3)
      (.ofSeconds 17)).1 = .missing (.ofSeconds 17) := by
  have inOrder : InOrder (threeReports.filterMap Call.dated?) (.ofSeconds 14) :=
    ⟨by decide, by decide⟩
  have later : InOrder (threeReports.filterMap Call.dated?) (.ofSeconds 17) :=
    inOrder.later (by decide)
  obtain ⟨stands, -⟩ :=
    looks_change_no_answer .min .zero (.ofSeconds 12) inOrder (.ofIndex 3)
  obtain ⟨none, -⟩ := looks_change_no_answer .min .zero (.ofSeconds 12) later (.ofIndex 3)
  refine ⟨inOrder, stands.unique ?_, none.unique ?_⟩
  · exact .smallest [] [⟨300, .ofSeconds 3⟩, ⟨120, .ofSeconds 2⟩] nofun (by decide)
  · exact .missing

end DelaySampler

end WirelessMesh
