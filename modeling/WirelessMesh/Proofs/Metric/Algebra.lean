import WirelessMesh.Proofs.Metric.Weight

/-!
The algebra of metrics. Nodes compare paths that start at different neighbours and only know of each
what an advert can carry, so what one node prefers must not look worse to the next. Main statement:
`Metric.metrics_form_routing_algebra`, the laws on which this rests, for all metrics up to the largest
cost.
-/
namespace WirelessMesh

/-- Costs of paths with a preference among them. Costs are appended hop by hop, and adverts tell of
them by `tell`, which may lose some of a cost. -/
structure RoutingAlgebra {α : Type} (append : α → α → α) (free broken : α)
    (betterThan : α → α → Bool) (tell : α → α) : Prop where
  assoc : ∀ a b c, append (append a b) c = append a (append b c)
  comm : ∀ a b, append a b = append b a
  append_free : ∀ a, append a free = a
  append_broken : ∀ a, append a broken = broken
  /-- Nothing is better than itself. -/
  irrefl : ∀ a, betterThan a a = false
  trans : ∀ a b c, betterThan a b = true → betterThan b c = true → betterThan a c = true
  /-- Of two different costs one is better. -/
  total : ∀ a b, a = b ∨ betterThan a b = true ∨ betterThan b a = true
  broken_last : ∀ a, a ≠ broken → betterThan a broken = true
  /-- A longer path is never better than its beginning. -/
  never_improves : ∀ a c, betterThan (append a c) a = false
  /-- Two paths stay in order when both go on in the same way. -/
  keeps_order : ∀ a b c, betterThan b a = false → betterThan (append b c) (append a c) = false
  /-- Two paths stay in order when an advert tells of both. -/
  tells_in_order : ∀ a b, betterThan b a = false → betterThan (tell b) (tell a) = false

namespace Metric

theorem weight_injective : Function.Injective weight := by
  intro a b same
  cases a with
  | good x =>
    cases b with
    | good y => exact congrArg good (UInt32.toNat_inj.mp same)
    | bad => exact absurd same (weight_good_lt x).ne
  | bad =>
    cases b with
    | good y => exact absurd same (weight_good_lt y).ne'
    | bad => rfl

private theorem not_betterThan_iff {a b : Metric} : b.betterThan a = false ↔ a.weight ≤ b.weight := by
  rw [← Bool.not_eq_true, betterThan_iff, Nat.not_lt]

/-- Usable costs add up as far as the largest one, and what cannot be used spoils the rest. -/
theorem weight_append (a b : Metric) :
    (a.append b).weight =
      if max a.weight b.weight < unusable then min (a.weight + b.weight) 0xffff_ffff
      else unusable := by
  cases a with
  | good x =>
    cases b with
    | good y =>
      rw [if_pos (max_lt (weight_good_lt x) (weight_good_lt y))]
      exact toNat_addCost x y
    | bad =>
      exact (if_neg fun both => Nat.lt_irrefl unusable (max_lt_iff.mp both).2).symm
  | bad =>
    exact (if_neg fun both => Nat.lt_irrefl unusable (max_lt_iff.mp both).1).symm

private theorem append_assoc (a b c : Metric) : (a.append b).append c = a.append (b.append c) := by
  apply weight_injective
  simp only [weight_append, unusable]
  grind

theorem append_comm (a b : Metric) : a.append b = b.append a := by
  apply weight_injective
  simp only [weight_append, unusable]
  grind

theorem append_good_zero (a : Metric) : a.append (good 0) = a := by
  have bound := weight_le a
  apply weight_injective
  simp only [weight_append, unusable] at bound ⊢
  have none : (good 0).weight = 0 := rfl
  grind

private theorem weight_le_append (a c : Metric) : a.weight ≤ (a.append c).weight := by
  have bound := weight_le a
  simp only [weight_append, unusable] at bound ⊢
  grind

private theorem append_mono {a b : Metric} (le : a.weight ≤ b.weight) (c : Metric) :
    (a.append c).weight ≤ (b.append c).weight := by
  simp only [weight_append, unusable]
  grind

/-- What an advert tells of two paths is what a free link would make of them. -/
private theorem ofByte_quantize_mono {a b : Metric} (le : a.weight ≤ b.weight) :
    (ofByte a.quantize).weight ≤ (ofByte b.quantize).weight := by
  have free (m : Metric) : (good 0).told m = ofByte m.quantize := by
    rw [told, append_comm, append_good_zero]
  rw [← free a, ← free b]
  exact told_mono (good 0) le

/-- Metrics form a monotone routing algebra: for all of them, also where a sum stops at the largest
cost, where an advert cannot carry a cost, and for paths that cannot be used. -/
theorem metrics_form_routing_algebra :
    RoutingAlgebra append (good 0) bad betterThan (fun m => ofByte m.quantize) where
  assoc := append_assoc
  comm := append_comm
  append_free := append_good_zero
  append_broken := append_bad
  irrefl a := not_betterThan_iff.mpr (Nat.le_refl _)
  trans a b c first second := by
    rw [betterThan_iff] at first second ⊢
    exact Nat.lt_trans first second
  total a b := by
    rw [betterThan_iff, betterThan_iff]
    rcases Nat.lt_trichotomy a.weight b.weight with less | same | more
    · exact .inr (.inl less)
    · exact .inl (weight_injective same)
    · exact .inr (.inr more)
  broken_last a usable := by
    cases a with
    | good x => rfl
    | bad => exact absurd rfl usable
  never_improves a c := not_betterThan_iff.mpr (weight_le_append a c)
  keeps_order a b c order :=
    not_betterThan_iff.mpr (append_mono (not_betterThan_iff.mp order) c)
  tells_in_order a b order :=
    not_betterThan_iff.mpr (ofByte_quantize_mono (not_betterThan_iff.mp order))

end Metric

end WirelessMesh
