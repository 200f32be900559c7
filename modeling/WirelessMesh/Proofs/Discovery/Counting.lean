import WirelessMesh.Proofs.Discovery.Agreement

/-!
Delivery rates counted over everything that was ever heard. A listener forgets an arrival when the next
frame of the peer finds it too old, and passes over what is too old when it is asked. Main statement:
for all that it answers as if it had kept every frame and counted those in the window anew each time.
-/
namespace WirelessMesh

namespace DeliveryRates

/-- A node that has taken in frames at times that never go back, the latest first. Meanwhile it may
have been started and stopped, and have sent frames of its own. -/
inductive Listened : DeliveryRates → List (Frame × Time) → Prop
  | created {node : NodeId} {eth : EtherAddress} {config : DiscoveryConfig} {random : RandomSource}
      {d : DeliveryRates} (done : create node eth config random = .ok d) : Listened d []
  | heard {d : DeliveryRates} {log : List (Frame × Time)} (listened : Listened d log) (frame : Frame)
      {now : Time} (onward : ∀ x ∈ log, x.2 ≤ now) :
      Listened (d.onFrame frame now) ((frame, now) :: log)
  | tended {d d' : DeliveryRates} {log : List (Frame × Time)} (listened : Listened d log)
      (tends : d.Tends d') : Listened d' log

/-- What a frame that was taken in announces and when, if it is a peer's and can be read. -/
def announcement? (peer : EtherAddress) (x : Frame × Time) : Option (DiscoveryProbe × Time) :=
  if x.1.source = peer then
    match DiscoveryProbe.decode x.1.payload with
    | .ok probe => some (probe, x.2)
    | .error _ => none
  else none

/-- All that a peer has announced, the latest first. -/
def announcements (log : List (Frame × Time)) (peer : EtherAddress) : List (DiscoveryProbe × Time) :=
  log.filterMap (announcement? peer)

/-- How often something was announced at or after a time. -/
def countSince (since : Time) (said : List (DiscoveryProbe × Time)) : Nat :=
  said.countP fun x => since ≤ x.2

/-- The share of a peer's frames that came, at the pace that it announced last: those at or after a time
over the number that a window holds, in percent. -/
def wholeRate (windowMillis : Nat) (since : Time) : List (DiscoveryProbe × Time) → Option Nat
  | [] => none
  | (latest, saidAt) :: earlier =>
    if latest.periodMillis = 0 then none
    else
      let heard := countSince since ((latest, saidAt) :: earlier)
      some (min 100 (100 * heard / max 1 (windowMillis / latest.periodMillis.toNat)))

variable {d d' : DeliveryRates} {log : List (Frame × Time)} {frame : Frame} {peer : EtherAddress}
  {probe latest : DiscoveryProbe} {now since saidAt window : Time} {history : PeerHistory}
  {before kept : Option PeerHistory} {said earlier : List (DiscoveryProbe × Time)}

theorem Listened.ordered (listened : d.Listened log) : log.Pairwise fun x y => y.2 ≤ x.2 := by
  induction listened with
  | created => exact .nil
  | heard _ frame onward ih => exact List.pairwise_cons.mpr ⟨onward, ih⟩
  | tended _ _ ih => exact ih

theorem announcement?_some {x : Frame × Time} {a : DiscoveryProbe × Time}
    (announced : announcement? peer x = some a) :
    x.1.source = peer ∧ DiscoveryProbe.decode x.1.payload = .ok a.1 ∧ a.2 = x.2 := by
  unfold announcement? at announced
  split at announced
  · next own =>
    split at announced
    · next probe read =>
      cases announced
      exact ⟨own, read, rfl⟩
    · cases announced
  · cases announced

theorem announced_onward (onward : ∀ x ∈ log, x.2 ≤ now) :
    ∀ a ∈ announcements log peer, a.2 ≤ now := by
  intro a member
  obtain ⟨x, heard, announced⟩ := List.mem_filterMap.mp member
  rw [(announcement?_some announced).2.2]
  exact onward x heard

private theorem announcements_ordered (ordered : log.Pairwise fun x y => y.2 ≤ x.2) (peer : EtherAddress) :
    (announcements log peer).Pairwise fun a b => b.2 ≤ a.2 := by
  refine ordered.filterMap _ fun x y before a first b second => ?_
  rw [(announcement?_some first).2.2, (announcement?_some second).2.2]
  exact before

/-- The arrivals of all that a peer has announced are kept, but for some that are before a time. -/
def Holds (since : Time) (history : PeerHistory) (said : List (DiscoveryProbe × Time)) : Prop :=
  ∃ gone, (said.map (·.2)).reverse = gone ++ history.arrivals ∧ ∀ t ∈ gone, t < since

private theorem holds_nothing (since : Time) : Holds since {} [] := ⟨[], rfl, nofun⟩

theorem Holds.later {since' : Time} (holds : Holds since history said) (le : since ≤ since') :
    Holds since' history said := by
  obtain ⟨gone, whole, early⟩ := holds
  exact ⟨gone, whole, fun t member => Nat.lt_of_lt_of_le (early t member) le⟩

theorem Holds.take (holds : Holds since history said) (probe : DiscoveryProbe) (now : Time)
    (reported : Option (Nat × Time)) :
    Holds since ⟨(history.arrivals ++ [now]).dropWhile (· < since), probe.periodMillis.toNat, reported⟩
      ((probe, now) :: said) := by
  obtain ⟨gone, whole, early⟩ := holds
  refine ⟨gone ++ (history.arrivals ++ [now]).takeWhile (· < since), ?_, fun t member => ?_⟩
  · rw [List.map_cons, List.reverse_cons, whole, List.append_assoc, List.append_assoc,
      List.takeWhile_append_dropWhile]
  · rcases List.mem_append.mp member with before | old
    · exact early t before
    · simpa using List.mem_takeWhile_imp old

theorem Holds.count (holds : Holds since history said) :
    history.arrivals.countP (since ≤ ·) = countSince since said := by
  obtain ⟨gone, whole, early⟩ := holds
  have none : gone.countP (since ≤ ·) = 0 := by
    refine List.countP_eq_zero.mpr fun t member late => ?_
    exact Nat.not_le_of_lt (early t member) (of_decide_eq_true late)
  calc history.arrivals.countP (since ≤ ·)
      = (gone ++ history.arrivals).countP (since ≤ ·) := by
        rw [List.countP_append, none, Nat.zero_add]
    _ = (said.map (·.2)).countP (since ≤ ·) := by rw [← whole, List.countP_reverse]
    _ = countSince since said := List.countP_map

private theorem sub_mono (le : since ≤ now) (window : Time) : since - window ≤ now - window :=
  Nat.sub_le_sub_right le window.ns

/-- What a listener keeps of a peer beside all that the peer has announced: the period of the latest
frame, when that came, and the arrivals but for those that were too old by then. -/
inductive Kept (window : Time) : Option PeerHistory → List (DiscoveryProbe × Time) → Prop
  | unheard : Kept window none []
  | heard {history : PeerHistory} {latest : DiscoveryProbe} {saidAt : Time}
      {earlier : List (DiscoveryProbe × Time)}
      (period : history.periodMillis = latest.periodMillis.toNat)
      (last : history.arrivals.getLast? = some saidAt)
      (holds : Holds (saidAt - window) history ((latest, saidAt) :: earlier)) :
      Kept window (some history) ((latest, saidAt) :: earlier)

private theorem getLast?_dropWhile_concat {α : Type} {p : α → Bool} (l : List α) {x : α}
    (stays : p x = false) : ((l ++ [x]).dropWhile p).getLast? = some x := by
  rw [List.dropWhile_append]
  split
  · simp [stays]
  · exact List.getLast?_concat

theorem Kept.holds (kept : Kept window before said) (onward : ∀ a ∈ said, a.2 ≤ now) :
    Holds (now - window) (before.getD {}) said := by
  cases kept with
  | unheard => exact holds_nothing _
  | heard period last holds =>
    have le := onward _ List.mem_cons_self
    exact holds.later (sub_mono le window)

theorem Kept.take (kept : Kept window before said) (onward : ∀ a ∈ said, a.2 ≤ now)
    (probe : DiscoveryProbe) (reported : Option (Nat × Time)) :
    Kept window (some ⟨((before.getD {}).arrivals ++ [now]).dropWhile (· < now - window),
      probe.periodMillis.toNat, reported⟩) ((probe, now) :: said) := by
  refine .heard rfl (getLast?_dropWhile_concat _ ?_) ((kept.holds onward).take probe now reported)
  exact decide_eq_false (Nat.not_lt_of_le (Nat.sub_le _ _))

def Recalls (d : DeliveryRates) (log : List (Frame × Time)) : Prop :=
  ∀ peer, Kept d.config.window (d.peers.get? peer) (announcements log peer)

theorem Recalls.onFrame (recalls : d.Recalls log) (onward : ∀ x ∈ log, x.2 ≤ now) (frame : Frame) :
    (d.onFrame frame now).Recalls ((frame, now) :: log) := by
  intro peer
  unfold DeliveryRates.onFrame announcements
  cases read : DiscoveryProbe.decode frame.payload with
  | error failure =>
    have silent : announcement? peer (frame, now) = none := by simp [announcement?, read]
    rw [List.filterMap_cons_none silent]
    exact recalls peer
  | ok probe =>
    by_cases own : frame.source = peer
    · have spoken : announcement? peer (frame, now) = some (probe, now) := by
        simp [announcement?, own, read]
      rw [List.filterMap_cons_some spoken]
      subst own
      simp only [hear, Directory.get?_insert_self]
      exact (recalls frame.source).take (announced_onward onward) probe _
    · have silent : announcement? peer (frame, now) = none := by simp [announcement?, own]
      rw [List.filterMap_cons_none silent]
      simp only [hear, Directory.get?_insert, Ranked.rank_inj, if_neg own]
      exact recalls peer

theorem Listened.recalls (listened : d.Listened log) : d.Recalls log := by
  induction listened with
  | created done =>
    simp only [create, bind, Except.bind] at done
    split at done
    · cases done
    · cases done
      exact fun peer => .unheard
  | heard _ frame onward ih => exact ih.onFrame onward frame
  | tended _ tends ih =>
    obtain ⟨same, peers⟩ := tends.same
    unfold Recalls
    rw [same.config, peers]
    exact ih

theorem Kept.rate (kept : Kept window before said) (onward : ∀ a ∈ said, a.2 ≤ now)
    (windowMillis : Nat) :
    (before.bind fun history => history.rate windowMillis (now - window)) =
      wholeRate windowMillis (now - window) said := by
  have counted := (kept.holds onward).count
  cases kept with
  | unheard => rfl
  | @heard history latest saidAt earlier period last holds =>
    have zero : latest.periodMillis.toNat = 0 ↔ latest.periodMillis = 0 := by
      rw [← UInt32.toNat_inj]
      rfl
    rw [Option.getD_some] at counted
    simp only [Option.bind_some, PeerHistory.rate, wholeRate, zero, counted, period, Nat.mul_comm,
      Nat.max_comm, Nat.min_comm]

private theorem countSince_pos_iff (ordered : ((latest, saidAt) :: earlier).Pairwise fun a b => b.2 ≤ a.2) :
    0 < countSince since ((latest, saidAt) :: earlier) ↔ since ≤ saidAt := by
  rw [countSince, List.countP_pos_iff]
  constructor
  · rintro ⟨a, member, late⟩
    have after : since ≤ a.2 := of_decide_eq_true late
    rcases List.mem_cons.mp member with rfl | before
    · exact after
    · exact Nat.le_trans after ((List.pairwise_cons.mp ordered).1 a before)
  · intro after
    exact ⟨_, List.mem_cons_self, decide_eq_true after⟩

private theorem Kept.heardSince_iff (kept : Kept window before said)
    (ordered : said.Pairwise fun a b => b.2 ≤ a.2) :
    before.any (fun history => history.arrivals.getLast?.any (since ≤ ·)) = true ↔
      0 < countSince since said := by
  cases kept with
  | unheard => exact ⟨nofun, nofun⟩
  | heard period last holds =>
    rw [Option.any_some, last, Option.any_some, decide_eq_true_eq, countSince_pos_iff ordered]

theorem mem_neighbors_iff : peer ∈ d.neighbors now ↔ (d.peers.get? peer).any
    (fun history => history.arrivals.getLast?.any (d.cutoff now ≤ ·)) = true := by
  simp only [neighbors, List.mem_map, List.mem_filter, Option.any_eq_true,
    Directory.get?_eq_some_iff]
  constructor
  · rintro ⟨⟨_, history⟩, ⟨member, late⟩, rfl⟩
    exact ⟨history, member, late⟩
  · rintro ⟨history, member, late⟩
    exact ⟨(peer, history), ⟨member, late⟩, rfl⟩

theorem Listened.reverseRate_eq (listened : d.Listened log) (peer : EtherAddress)
    (onward : ∀ x ∈ log, x.2 ≤ now) :
    d.reverseRate peer now = wholeRate d.config.windowMillis (now - d.config.window)
      (announcements log peer) :=
  (listened.recalls peer).rate (announced_onward onward) d.config.windowMillis

theorem Listened.mem_neighbors_iff (listened : d.Listened log) (peer : EtherAddress) (now : Time) :
    peer ∈ d.neighbors now ↔ 0 < countSince (now - d.config.window) (announcements log peer) := by
  rw [DeliveryRates.mem_neighbors_iff]
  exact (listened.recalls peer).heardSince_iff (announcements_ordered listened.ordered peer)

/-- Whatever frames came, in order of time and whether or not they could be read, the reverse rate of a
peer is counted over all that it has ever announced, and it is a neighbour exactly if any of that came
within the window. -/
theorem rates_count_whole_history (listened : d.Listened log) (peer : EtherAddress)
    (onward : ∀ x ∈ log, x.2 ≤ now) :
    d.reverseRate peer now = wholeRate d.config.windowMillis (now - d.config.window)
        (announcements log peer) ∧
      (peer ∈ d.neighbors now ↔
        0 < countSince (now - d.config.window) (announcements log peer)) :=
  ⟨listened.reverseRate_eq peer onward, listened.mem_neighbors_iff peer now⟩

def hearAll (d : DeliveryRates) : List (Frame × Time) → DeliveryRates
  | [] => d
  | (frame, now) :: earlier => (d.hearAll earlier).onFrame frame now

theorem Listened.hearAll (new : d.Listened []) (ordered : log.Pairwise fun x y => y.2 ≤ x.2) :
    (d.hearAll log).Listened log := by
  induction log with
  | nil => exact new
  | cons x earlier ih =>
    obtain ⟨onward, before⟩ := List.pairwise_cons.mp ordered
    exact (ih before).heard x.1 onward

def announcing (source : EtherAddress) (periodMillis : UInt32) : Frame :=
  .ofDraft 1 ⟨.broadcast, source, FrameType.discovery,
    (⟨1, periodMillis, []⟩ : DiscoveryProbe).encode⟩

/-- What a node hears in ten seconds: a peer, a frame of that peer which cannot be read, another peer, and
the first one again at a slower pace. -/
def tenSeconds : List (Frame × Time) :=
  [(announcing (.ofIndex 1) 2000, .ofMillis 10000), (announcing (.ofIndex 2) 1000, .ofMillis 5000),
    ({ announcing (.ofIndex 1) 1000 with payload := [0] }, .ofMillis 4000),
    (announcing (.ofIndex 1) 1000, .zero)]

/-- Of the five frames that the window holds at the latest pace two have come; a millisecond later the
first of them is too old. -/
theorem two_of_five_until_too_old : ∃ d : DeliveryRates, d.Listened tenSeconds ∧
    (∀ x ∈ tenSeconds, x.2 ≤ .ofMillis 10000) ∧
    countSince (.ofMillis 10000 - d.config.window) (announcements tenSeconds (.ofIndex 1)) = 2 ∧
    d.reverseRate (.ofIndex 1) (.ofMillis 10000) = some 40 ∧
    d.reverseRate (.ofIndex 1) (.ofMillis 10001) = some 20 ∧
    .ofIndex 1 ∈ d.neighbors (.ofMillis 10001) := by
  have listened : ((Correspondence.silentEnd 0).hearAll tenSeconds).Listened tenSeconds :=
    .hearAll (.created (Correspondence.silentEnd_created 0)) (by decide)
  have inTime : ∀ x ∈ tenSeconds, x.2 ≤ Time.ofMillis 10000 := by decide
  have past : ∀ x ∈ tenSeconds, x.2 ≤ Time.ofMillis 10001 := by decide
  obtain ⟨rate, -⟩ := rates_count_whole_history listened (.ofIndex 1) inTime
  obtain ⟨later, near⟩ := rates_count_whole_history listened (.ofIndex 1) past
  refine ⟨_, listened, inTime, ?_, rate.trans ?_, later.trans ?_, near.mpr ?_⟩
  · decide +kernel
  · decide +kernel
  · decide +kernel
  · decide +kernel

end DeliveryRates

end WirelessMesh
