import Mathlib
import WirelessMesh.Metric.Basic

namespace WirelessMesh

namespace Metric

/-- The weight of a path that cannot be used: more than any cost. -/
def unusable : Nat := 0x1_0000_0000

/-- A metric as a number; the less the better. -/
def weight : Metric → Nat
  | good cost => cost.toNat
  | bad => unusable

theorem weight_good_lt (cost : UInt32) : (good cost).weight < unusable := cost.toNat_lt

theorem isGood_iff_weight {m : Metric} : m.isGood = true ↔ m.weight < unusable := by
  cases m with
  | good cost => exact iff_of_true rfl (weight_good_lt cost)
  | bad => simp [isGood, weight]

theorem weight_le (m : Metric) : m.weight ≤ unusable := by
  cases m with
  | good cost => exact Nat.le_of_lt (weight_good_lt cost)
  | bad => exact Nat.le_refl _

theorem betterThan_iff {a b : Metric} : a.betterThan b = true ↔ a.weight < b.weight := by
  cases a with
  | good x =>
    cases b with
    | good y => simp [betterThan, weight, UInt32.lt_iff_toNat_lt]
    | bad => exact iff_of_true rfl (weight_good_lt x)
  | bad => exact iff_of_false Bool.false_ne_true (Nat.not_lt.mpr (weight_le b))

theorem toNat_quantize_good (cost : UInt32) :
    (good cost).quantize.toNat = if cost.toNat ≤ 2540 then cost.toNat / 10 else 255 := by
  have small : cost ≤ maxQuantizable ↔ cost.toNat ≤ 2540 := UInt32.le_iff_toNat_le
  simp only [quantize, small]
  split
  · rw [UInt8.toNat_ofNat']
    exact Nat.mod_eq_of_lt (by omega)
  · rfl

private theorem quantize_mono {a b : Metric} (le : a.weight ≤ b.weight) : a.quantize ≤ b.quantize := by
  rw [UInt8.le_iff_toNat_le]
  cases b with
  | bad => exact Nat.le_of_lt_succ a.quantize.toNat_lt
  | good y =>
    cases a with
    | bad => exact absurd le (Nat.not_le.mpr (weight_good_lt y))
    | good x =>
      have costs : x.toNat ≤ y.toNat := le
      rw [toNat_quantize_good, toNat_quantize_good]
      split <;> split <;> omega

theorem ofByte_of_ne {byte : UInt8} (usable : byte ≠ badByte) :
    ofByte byte = good (UInt32.ofNat (byte.toNat * 10)) := if_neg usable

theorem ofByte_badByte : ofByte badByte = bad := if_pos rfl

/-- The cost of a link and then of a path that was told as a byte. -/
theorem weight_append_ofByte (cost : UInt32) {byte : UInt8} (usable : byte ≠ badByte) :
    ((good cost).append (.ofByte byte)).weight =
      min (cost.toNat + byte.toNat * 10) 0xffff_ffff := by
  have small := byte.toNat_lt
  have same : (UInt32.ofNat (byte.toNat * 10)).toNat = byte.toNat * 10 := by
    rw [UInt32.toNat_ofNat']
    exact Nat.mod_eq_of_lt (by omega)
  rw [ofByte_of_ne usable, append, weight, toNat_addCost, same]

theorem append_bad (link : Metric) : link.append bad = bad := by
  cases link <;> rfl

private theorem append_ofByte_mono (link : Metric) {a b : UInt8} (le : a ≤ b) :
    (link.append (.ofByte a)).weight ≤ (link.append (.ofByte b)).weight := by
  by_cases last : b = badByte
  · rw [last, ofByte_badByte, append_bad]
    exact weight_le _
  · have first : a ≠ badByte := by
      rintro rfl
      exact last (UInt8.le_antisymm (UInt8.le_iff_toNat_le.mpr (Nat.le_of_lt_succ b.toNat_lt)) le)
    rw [UInt8.le_iff_toNat_le] at le
    cases link with
    | bad => exact Nat.le_refl _
    | good cost =>
      rw [weight_append_ofByte cost first, weight_append_ofByte cost last]
      omega

/-- The metric of a link followed by a path whose metric was told as a byte. -/
def told (link m : Metric) : Metric := link.append (.ofByte m.quantize)

theorem told_mono (link : Metric) {a b : Metric} (le : a.weight ≤ b.weight) :
    (link.told a).weight ≤ (link.told b).weight := append_ofByte_mono link (quantize_mono le)

/-- Over a link of one step or more a path gets more costly, in spite of the rounding. -/
theorem weight_lt_told {link m : Metric} (step : ∀ w, link = good w → 10 ≤ w)
    (usable : (link.told m).weight < unusable) : m.weight < (link.told m).weight := by
  have spoilt : link.append bad = bad := append_bad link
  cases link with
  | bad => exact absurd usable (Nat.lt_irrefl unusable)
  | good w =>
    have least : 10 ≤ w.toNat := UInt32.le_iff_toNat_le.mp (step w rfl)
    by_cases last : m.quantize = badByte
    · rw [told, last, ofByte_badByte, spoilt] at usable
      exact absurd usable (Nat.lt_irrefl unusable)
    · rw [told, weight_append_ofByte w last]
      cases m with
      | bad => exact absurd rfl last
      | good cost =>
        have byte := toNat_quantize_good cost
        have other : (good cost).quantize.toNat ≠ 255 := fun same => last (UInt8.toNat_inj.mp same)
        have bound := cost.toNat_lt
        show cost.toNat < _
        rw [byte] at other ⊢
        split at other
        · next small =>
          rw [if_pos small]
          omega
        · exact absurd rfl other

end Metric

end WirelessMesh
