import WirelessMesh.Proofs.Metric.Weight
import WirelessMesh.Route.Table

namespace WirelessMesh

namespace Metric

/-- The metric of the last node of a path: the first node has that of its own link, and every
further one has its link followed by what the node before it tells. -/
def pathMetric (first : Metric) (links : List Metric) : Metric :=
  links.foldl (fun before link => link.told before) first

private theorem pathMetric_nil (first : Metric) : pathMetric first [] = first := rfl

theorem pathMetric_concat (first : Metric) (links : List Metric) (link : Metric) :
    pathMetric first (links ++ [link]) = link.told (pathMetric first links) := by
  simp only [pathMetric, List.foldl_append, List.foldl_cons, List.foldl_nil]

/-- A path with this metric can be used, but no advert can say so. -/
def TooLarge (m : Metric) : Prop := ∃ cost, m = good cost ∧ maxQuantizable < cost

theorem quantize_eq_badByte {m : Metric} : m.quantize = badByte ↔ m = bad ∨ m.TooLarge := by
  cases m with
  | bad => exact iff_of_true rfl (.inl rfl)
  | good cost =>
    have byte := toNat_quantize_good cost
    have large : (good cost).TooLarge ↔ 2540 < cost.toNat := by
      simp [TooLarge, maxQuantizable, UInt32.lt_iff_toNat_lt]
    rw [large, ← UInt8.toNat_inj, byte]
    by_cases fits : cost.toNat ≤ 2540
    · rw [if_pos fits]
      have small : cost.toNat / 10 ≠ badByte.toNat := by
        show cost.toNat / 10 ≠ 255
        omega
      simpa [small] using fits
    · rw [if_neg fits]
      exact iff_of_true rfl (.inr (Nat.lt_of_not_le fits))

/-- A node has no usable metric if its link has none, or if the node before it tells of none. -/
theorem told_eq_bad {link m : Metric} : link.told m = bad ↔ link = bad ∨ m = bad ∨ m.TooLarge := by
  rw [← quantize_eq_badByte]
  cases link with
  | bad => exact iff_of_true rfl (.inl rfl)
  | good w =>
    by_cases last : m.quantize = badByte
    · rw [told, last, ofByte_badByte]
      exact iff_of_true rfl (.inr rfl)
    · rw [told, ofByte_of_ne last]
      simp [append, last]

private theorem toNat_told {w cost after : UInt32} (told : (good w).told (good cost) = good after) :
    after.toNat = min (w.toNat + cost.toNat / 10 * 10) 0xffff_ffff := by
  have usable : (good cost).quantize ≠ badByte := by
    intro last
    rw [told_eq_bad.mpr (.inr (quantize_eq_badByte.mp last))] at told
    cases told
  have byte := toNat_quantize_good cost
  have fits : cost.toNat ≤ 2540 := by
    by_contra large
    rw [if_neg large] at byte
    exact usable (UInt8.toNat_inj.mp byte)
  rw [if_pos fits] at byte
  have sum := weight_append_ofByte w usable
  rwa [byte, ← Metric.told, told] at sum

/-- Only a usable path that an advert can tell of goes on over a usable link. -/
theorem of_told_good {link m : Metric} {after : UInt32} (told : link.told m = good after) :
    ∃ w cost, link = good w ∧ m = good cost := by
  cases link with
  | bad => cases told
  | good w =>
    cases m with
    | bad => cases told
    | good cost => exact ⟨w, cost, rfl, rfl⟩

private theorem exists_lt_length_concat {α : Type} {p : List α → Prop} (xs : List α) (x : α) :
    (∃ k < (xs ++ [x]).length, p ((xs ++ [x]).take k)) ↔
      (∃ k < xs.length, p (xs.take k)) ∨ p xs := by
  have same (k : Nat) (le : k ≤ xs.length) : (xs ++ [x]).take k = xs.take k :=
    List.take_append_of_le_length le
  constructor
  · rintro ⟨k, less, holds⟩
    rw [List.length_append, List.length_singleton] at less
    rw [same k (Nat.le_of_lt_succ less)] at holds
    by_cases last : k = xs.length
    · rw [last, List.take_length] at holds
      exact .inr holds
    · exact .inl ⟨k, by omega, holds⟩
  · rintro (⟨k, less, holds⟩ | holds)
    · refine ⟨k, by simp; omega, ?_⟩
      rwa [same k less.le]
    · refine ⟨xs.length, by simp, ?_⟩
      rwa [same _ (Nat.le_refl _), List.take_length]

/-- A path is spoilt by one link that cannot be used, or by one node on the way whose metric no
advert can carry. -/
private theorem pathMetric_eq_bad (first : Metric) (links : List Metric) :
    pathMetric first links = bad ↔
      bad ∈ first :: links ∨ ∃ k < links.length, (pathMetric first (links.take k)).TooLarge := by
  induction links using List.reverseRecOn with
  | nil => simp [pathMetric_nil, eq_comm]
  | append_singleton links link ih =>
    rw [pathMetric_concat, told_eq_bad, ih,
      exists_lt_length_concat (p := fun before => (pathMetric first before).TooLarge)]
    simp only [List.mem_cons, List.mem_append, List.not_mem_nil, or_false, eq_comm (a := bad)]
    simp only [or_assoc, or_left_comm, or_comm]

/-- The sum of all links, and what every hop after the first may lose of it. -/
private theorem pathMetric_near_sum (first : Metric) (links : List Metric) {cost : UInt32}
    (usable : pathMetric first links = good cost) :
    cost.toNat ≤ min ((first :: links).map weight).sum 0xffff_ffff ∧
      (((first :: links).map weight).sum ≤ 0xffff_ffff →
        ((first :: links).map weight).sum ≤ cost.toNat + 9 * links.length) := by
  induction links using List.reverseRecOn generalizing cost with
  | nil =>
    rw [pathMetric_nil] at usable
    have bound := cost.toNat_lt
    simp only [usable, List.map_cons, List.map_nil, List.sum_cons, List.sum_nil, weight,
      List.length_nil]
    omega
  | append_singleton links link ih =>
    rw [pathMetric_concat] at usable
    obtain ⟨w, before, rfl, tells⟩ := of_told_good usable
    rw [tells] at usable
    have rounded := toNat_told usable
    obtain ⟨above, below⟩ := ih tells
    simp only [List.map_cons, List.map_append, List.map_nil, List.sum_cons, List.sum_append,
      List.sum_nil, weight, List.length_append, List.length_singleton] at above below ⊢
    omega

/-- Over links of one step or more, every node's metric is larger than that of the node before. -/
private theorem pathMetric_increases {first : Metric} {links : List Metric}
    (steps : ∀ w, good w ∈ links → 10 ≤ w) {k : Nat} (less : k < links.length) {cost : UInt32}
    (usable : pathMetric first (links.take (k + 1)) = good cost) :
    ∃ before, pathMetric first (links.take k) = good before ∧ before < cost := by
  rw [List.take_succ_eq_append_getElem less, pathMetric_concat] at usable
  obtain ⟨w, before, link, tells⟩ := of_told_good usable
  have step (v : UInt32) (same : links[k] = good v) : 10 ≤ v :=
    steps v (same ▸ List.getElem_mem less)
  have usable' : ((links[k]).told (pathMetric first (links.take k))).weight < unusable := by
    rw [usable]
    exact weight_good_lt cost
  have larger := weight_lt_told step usable'
  rw [usable, tells] at larger
  exact ⟨before, tells, UInt32.lt_iff_toNat_lt.mpr larger⟩

end Metric

namespace RouteTable

/-- A row that word of a destination brought along a path: the neighbour of the destination has a
row with the metric of its link, and every further node has a row from the entry that the node
before it puts in its advert. -/
inductive Along (first : Metric) : List Metric → RouteRow → Prop where
  | neighbor (t t' : RouteTable) (hop row : RouteRow) (now : Time)
      (taken : t.takeLinkMetric hop first now = .ok (row, t')) : Along first [] row
  | relayed (t : RouteTable) (me e : AdvertEntry) (sent now : Time) (before : RouteRow)
      (links : List Metric) (link : Metric) (along : Along first links before)
      (entry : entryOf sent before = some e) :
      Along first (links ++ [link]) (t.relayedRow me e link now)

private theorem entryOf_metric {sent : Time} {r : RouteRow} {e : AdvertEntry}
    (entry : entryOf sent r = some e) : e.metric = r.metric.quantize := by
  unfold entryOf at entry
  dsimp only at entry
  split at entry
  · cases entry
  · cases entry
    rfl

private theorem Along.metric_eq {first : Metric} {links : List Metric} {r : RouteRow}
    (along : Along first links r) : r.metric = Metric.pathMetric first links := by
  induction along with
  | neighbor t t' hop row now taken =>
    unfold takeLinkMetric at taken
    split at taken
    · cases taken
      rfl
    · cases taken
  | relayed t me e sent now before links link along entry ih =>
    rw [Metric.pathMetric_concat, ← ih]
    show link.append (.ofByte e.metric) = link.told before.metric
    rw [entryOf_metric entry, Metric.told]

end RouteTable

namespace Metric

/-- Rounding along a path. Rows have the metric of the path they came along. It is unusable exactly
if a link is, or if some node on the way has a cost that no advert can carry. Otherwise it is at
most the sum of the links, and short of it by nine at most for every hop after the first. Links of
ten or more make every node's metric larger than that of the node before. -/
theorem pathMetric_bounds (first : Metric) (links : List Metric) :
    (∀ r, RouteTable.Along first links r → r.metric = pathMetric first links) ∧
    (pathMetric first links = bad ↔ bad ∈ first :: links ∨
      ∃ k < links.length, ∃ cost, pathMetric first (links.take k) = good cost ∧ 2540 < cost) ∧
    (∀ cost, pathMetric first links = good cost →
      cost.toNat ≤ min ((first :: links).map weight).sum 0xffff_ffff ∧
      (((first :: links).map weight).sum ≤ 0xffff_ffff →
        ((first :: links).map weight).sum ≤ cost.toNat + 9 * links.length)) ∧
    ((∀ w, good w ∈ first :: links → 10 ≤ w) → ∀ k < links.length, ∀ cost,
      pathMetric first (links.take (k + 1)) = good cost →
        ∃ before, pathMetric first (links.take k) = good before ∧ before < cost) := by
  refine ⟨fun r along => along.metric_eq, pathMetric_eq_bad first links,
    fun cost usable => pathMetric_near_sum first links usable, ?_⟩
  intro steps k less cost usable
  exact pathMetric_increases (fun w member => steps w (List.mem_cons_of_mem _ member)) less usable

/-- Three links of nineteen lose all that they can at the two hops, and the metrics grow. -/
theorem pathMetric_nineteens :
    pathMetric (good 19) [good 19, good 19] = good 39 ∧
      39 ≤ min (19 + (19 + (19 + 0))) 0xffff_ffff ∧ 19 + (19 + (19 + 0)) ≤ 39 + 9 * 2 ∧
      ∃ before, pathMetric (good 19) [good 19] = good before ∧ before < 39 := by
  have bounds := pathMetric_bounds (good 19) [good 19, good 19]
  have steps : ∀ w, good w ∈ [good 19, good 19, good 19] → 10 ≤ w := by
    intro w member
    simp at member
    rw [member]
    decide
  have sum := bounds.2.2.1 39 rfl
  exact ⟨rfl, sum.1, sum.2 (by decide), bounds.2.2.2 steps 1 (by decide) 39 rfl⟩

end Metric

end WirelessMesh
