import Mathlib
import WirelessMesh.Metric.Estimate

/-!
Quotients that are rounded. Rounding to 53 binary digits takes no quotient across a number that has
53 binary digits itself, so a comparison with such a number comes out as for the exact quotient.
Main statement: `transmissionTime_pos_iff`, by which the time of a transmission, though rounded
twice before it is cut, vanishes exactly if the exact quotient is less than one.
-/
namespace WirelessMesh

namespace Quotient64

/-- A quotient `c / e` lies on the same side as `num / den` of every number with 53 binary
digits. -/
structure Faithful (num den c e : Nat) : Prop where
  at_least : ∀ k j, k < 2 ^ 53 → k * den ≤ num * 2 ^ j → k * e ≤ c * 2 ^ j
  at_most : ∀ k j, k < 2 ^ 53 → num * 2 ^ j ≤ k * den → c * 2 ^ j ≤ k * e

/-- What becomes of `num / den`, shifted to the left, without its last digits: one of the two whole
numbers next to it, which has 53 digits or is the next power of two. -/
structure Rounds (num den digits drop shift : Nat) : Prop where
  positive : 0 < den
  above : num * 2 ^ shift < (digits + 1) * (den * 2 ^ drop)
  below : digits * (den * 2 ^ drop) < num * 2 ^ shift + den * 2 ^ drop
  full : 2 ^ 52 * (den * 2 ^ drop) ≤ num * 2 ^ shift

variable {num den digits drop shift : Nat}

namespace Rounds

private theorem le_digits (rounds : Rounds num den digits drop shift) {k : Nat}
    (least : k * (den * 2 ^ drop) ≤ num * 2 ^ shift) : k ≤ digits :=
  Nat.le_of_lt_succ (Nat.lt_of_mul_lt_mul_right (least.trans_lt rounds.above))

private theorem digits_le (rounds : Rounds num den digits drop shift) {k : Nat}
    (most : num * 2 ^ shift ≤ k * (den * 2 ^ drop)) : digits ≤ k := by
  have less : digits * (den * 2 ^ drop) < (k + 1) * (den * 2 ^ drop) := by
    rw [Nat.add_one_mul]
    exact rounds.below.trans_le (Nat.add_le_add_right most _)
  exact Nat.le_of_lt_succ (Nat.lt_of_mul_lt_mul_right less)

/-- Numbers with 53 digits are coarser than what is dropped, if they reach as far. -/
private theorem drop_le_shift (rounds : Rounds num den digits drop shift) {k j : Nat} (short : k < 2 ^ 53)
    (most : num * 2 ^ j ≤ k * den) : drop + j ≤ shift := by
  have less : den * 2 ^ (52 + (drop + j)) < den * 2 ^ (53 + shift) :=
    calc den * 2 ^ (52 + (drop + j)) = 2 ^ 52 * (den * 2 ^ drop) * 2 ^ j := by ring
      _ ≤ num * 2 ^ shift * 2 ^ j := Nat.mul_le_mul_right _ rounds.full
      _ = num * 2 ^ j * 2 ^ shift := by ring
      _ ≤ k * den * 2 ^ shift := Nat.mul_le_mul_right _ most
      _ < 2 ^ 53 * den * 2 ^ shift := by
        gcongr
        exact rounds.positive
      _ = den * 2 ^ (53 + shift) := by ring
  have exponents := (Nat.pow_lt_pow_iff_right (by decide)).mp (Nat.lt_of_mul_lt_mul_left less)
  omega

theorem faithful (rounds : Rounds num den digits drop shift) :
    Faithful num den (digits * 2 ^ drop) (2 ^ shift) where
  at_least k j short least := by
    by_cases fine : drop + j ≤ shift
    · obtain ⟨s, rfl⟩ := Nat.exists_eq_add_of_le fine
      have reached : k * 2 ^ s ≤ digits := by
        apply rounds.le_digits
        apply Nat.le_of_mul_le_mul_right _ (Nat.two_pow_pos j)
        calc k * 2 ^ s * (den * 2 ^ drop) * 2 ^ j = k * den * 2 ^ (drop + j + s) := by ring
          _ ≤ num * 2 ^ j * 2 ^ (drop + j + s) := Nat.mul_le_mul_right _ least
          _ = num * 2 ^ (drop + j + s) * 2 ^ j := by ring
      calc k * 2 ^ (drop + j + s) = k * 2 ^ s * 2 ^ (drop + j) := by ring
        _ ≤ digits * 2 ^ (drop + j) := Nat.mul_le_mul_right _ reached
        _ = digits * 2 ^ drop * 2 ^ j := by ring
    · have many : 2 ^ 52 ≤ digits := rounds.le_digits rounds.full
      have far : shift + 1 ≤ drop + j := Nat.lt_of_not_le fine
      calc k * 2 ^ shift ≤ 2 ^ 53 * 2 ^ shift := Nat.mul_le_mul_right _ short.le
        _ = 2 ^ 52 * 2 ^ (shift + 1) := by ring
        _ ≤ digits * 2 ^ (drop + j) := Nat.mul_le_mul many (Nat.pow_le_pow_right (by decide) far)
        _ = digits * 2 ^ drop * 2 ^ j := by ring
  at_most k j short most := by
    obtain ⟨s, rfl⟩ := Nat.exists_eq_add_of_le (rounds.drop_le_shift short most)
    have reached : digits ≤ k * 2 ^ s := by
      apply rounds.digits_le
      apply Nat.le_of_mul_le_mul_right _ (Nat.two_pow_pos j)
      calc num * 2 ^ (drop + j + s) * 2 ^ j = num * 2 ^ j * 2 ^ (drop + j + s) := by ring
        _ ≤ k * den * 2 ^ (drop + j + s) := Nat.mul_le_mul_right _ most
        _ = k * 2 ^ s * (den * 2 ^ drop) * 2 ^ j := by ring
    calc digits * 2 ^ drop * 2 ^ j = digits * 2 ^ (drop + j) := by ring
      _ ≤ k * 2 ^ s * 2 ^ (drop + j) := Nat.mul_le_mul_right _ reached
      _ = k * 2 ^ (drop + j + s) := by ring

end Rounds

/-- A whole quotient is next to the exact one, whether it is rounded down or up. -/
private theorem rounded_next (scaled : Nat) {unit digits : Nat} (positive : 0 < unit)
    (rounded : digits = if unit < 2 * (scaled % unit) ∨
      (2 * (scaled % unit) = unit ∧ scaled / unit % 2 = 1) then scaled / unit + 1
      else scaled / unit) :
    scaled < (digits + 1) * unit ∧ digits * unit < scaled + unit := by
  have whole := Nat.div_add_mod' scaled unit
  have rest := Nat.mod_lt scaled positive
  split at rounded
  · next up =>
    have left : 0 < scaled % unit := by omega
    rw [rounded, Nat.add_one_mul, Nat.add_one_mul]
    omega
  · rw [rounded, Nat.add_one_mul]
    omega

private theorem round_faithful (counted : 0 < num) (positive : 0 < den) :
    ∃ c e, round num den = finite c e ∧ 0 < e ∧ Faithful num den c e := by
  let shift := den.log2 + 54
  let q := num * 2 ^ shift / den
  let drop := q.log2 - 52
  have large : 2 ^ 53 ≤ q := by
    apply (Nat.le_div_iff_mul_le positive).mpr
    calc 2 ^ 53 * den ≤ 2 ^ 53 * 2 ^ (den.log2 + 1) :=
          Nat.mul_le_mul_left _ Nat.lt_log2_self.le
      _ = 1 * 2 ^ shift := by ring
      _ ≤ num * 2 ^ shift := Nat.mul_le_mul_right _ counted
  have nonzero : q ≠ 0 := Nat.ne_of_gt (Nat.lt_of_lt_of_le (Nat.two_pow_pos 53) large)
  have full : 2 ^ 52 * (den * 2 ^ drop) ≤ num * 2 ^ shift := by
    have digits : 53 ≤ q.log2 := (Nat.le_log2 nonzero).mpr large
    calc 2 ^ 52 * (den * 2 ^ drop) = 2 ^ (52 + drop) * den := by ring
      _ = 2 ^ q.log2 * den := by rw [show 52 + drop = q.log2 by omega]
      _ ≤ q * den := Nat.mul_le_mul_right _ (Nat.log2_self_le nonzero)
      _ ≤ num * 2 ^ shift := Nat.div_mul_le_self _ _
  have next := rounded_next (num * 2 ^ shift)
    (Nat.mul_pos positive (Nat.two_pow_pos drop)) rfl
  refine ⟨_, 2 ^ shift, ?_, Nat.two_pow_pos _, Rounds.faithful ⟨positive, next.1, next.2, full⟩⟩
  simp only [round, Nat.shiftLeft_eq, Nat.one_mul]
  rfl

theorem Faithful.pos {c e : Nat} (faithful : Faithful num den c e) (counted : 0 < num)
    (positive : 0 < e) : 0 < c := by
  have least : 1 * den ≤ num * 2 ^ (den.log2 + 1) := by
    rw [Nat.one_mul]
    exact Nat.lt_log2_self.le.trans (Nat.le_mul_of_pos_left _ counted)
  have reached := faithful.at_least 1 _ (by decide) least
  apply Nat.pos_of_ne_zero
  rintro rfl
  omega

variable {size delay packet c e c' e' : Nat}

/-- If the count is at least the quotient, this stays so when both quotients are rounded. -/
private theorem Faithful.one_le (first : Faithful size delay c e)
    (second : Faithful (packet * e) c c' e') (small : packet < 2 ^ 32)
    (enough : size ≤ packet * delay) : e' ≤ c' := by
  have rounded := first.at_most packet 0 (by omega) (by simpa using enough)
  simpa using second.at_least 1 0 (by decide) (by simpa using rounded)

private theorem Faithful.lt_one (first : Faithful size delay c e)
    (second : Faithful (packet * e) c c' e') (positive : 0 < e') (small : size < 2 ^ 32)
    (late : 0 < delay) (short : packet * delay < size) : c' < e' := by
  let j := delay.log2 + 1
  let k := packet * 2 ^ j + 1
  have finer : delay ≤ 2 ^ j := Nat.lt_log2_self.le
  have coarser : 2 ^ j ≤ 2 * delay := by
    have digits := Nat.log2_self_le late.ne'
    rw [Nat.pow_succ]
    omega
  have digits : k < 2 ^ 53 := by
    have scaled : packet * 2 ^ j ≤ 2 * (packet * delay) :=
      (Nat.mul_le_mul_left _ coarser).trans (by rw [Nat.mul_left_comm])
    omega
  -- The first quotient is above the count by a step of `2 ^ -j`, and stays so when it is rounded.
  have step : k * e ≤ c * 2 ^ j := by
    apply first.at_least k j digits
    calc (packet * 2 ^ j + 1) * delay = packet * delay * 2 ^ j + delay := by ring
      _ ≤ packet * delay * 2 ^ j + 2 ^ j := Nat.add_le_add_left finer _
      _ = (packet * delay + 1) * 2 ^ j := by ring
      _ ≤ size * 2 ^ j := Nat.mul_le_mul_right _ short
  -- So the second one is at most the last number with 53 digits before one.
  have last : packet * e * 2 ^ 53 ≤ (2 ^ 53 - 1) * c := by
    apply Nat.le_of_mul_le_mul_right _ (Nat.two_pow_pos j)
    calc packet * e * 2 ^ 53 * 2 ^ j = 2 ^ 53 * (packet * 2 ^ j) * e := by ring
      _ ≤ (2 ^ 53 - 1) * k * e := Nat.mul_le_mul_right _ (by omega)
      _ = (2 ^ 53 - 1) * (k * e) := by ring
      _ ≤ (2 ^ 53 - 1) * (c * 2 ^ j) := Nat.mul_le_mul_left _ step
      _ = (2 ^ 53 - 1) * c * 2 ^ j := by ring
  have rounded := second.at_most (2 ^ 53 - 1) 53 (by decide) last
  omega

private theorem toCost_finite_pos (positive : 0 < e) : 0 < (finite c e).toCost ↔ e ≤ c := by
  rw [UInt32.lt_iff_toNat_lt, toCost, UInt32.toNat_ofNat',
    Nat.mod_eq_of_lt (Nat.lt_of_le_of_lt (Nat.min_le_right ..) (by decide)),
    ← Nat.div_pos_iff.trans (and_iff_right positive)]
  show 0 < _ ↔ _
  omega

end Quotient64

/-- The time of a transmission is cut to nothing exactly if the size of a probe is more than the
size of the packet, times the delay in microseconds. -/
theorem transmissionTime_pos_iff {delayMicros probeSize : Nat} {config : MetricConfig}
    (packet : 0 < config.packetSize) (packetSmall : config.packetSize < 2 ^ 32)
    (probe : 0 < probeSize) (probeSmall : probeSize < 2 ^ 32) :
    0 < transmissionTime delayMicros probeSize config ↔
      probeSize ≤ config.packetSize * max (delayMicros - config.calibrationMicros) 1 := by
  have late : 0 < max (delayMicros - config.calibrationMicros) 1 :=
    Nat.lt_of_lt_of_le Nat.one_pos (Nat.le_max_right ..)
  unfold transmissionTime
  generalize max (delayMicros - config.calibrationMicros) 1 = delay at late ⊢
  obtain ⟨c, e, bandwidth, positive, first⟩ :=
    Quotient64.round_faithful probe late
  have counted := first.pos probe positive
  obtain ⟨c', e', time, positive', second⟩ :=
    Quotient64.round_faithful (Nat.mul_pos packet positive) counted
  have quotient :
      (Quotient64.ofCounts probeSize delay).divide config.packetSize = .finite c' e' := by
    rw [Quotient64.ofCounts, if_neg late.ne', if_neg probe.ne', bandwidth, Quotient64.divide,
      Quotient64.ofCounts, if_neg counted.ne', if_neg (Nat.mul_pos packet positive).ne', time]
  dsimp only
  rw [quotient, Quotient64.toCost_finite_pos positive']
  constructor
  · intro reached
    by_contra short
    exact Nat.not_le_of_lt
      (first.lt_one second positive' probeSmall late (Nat.lt_of_not_le short)) reached
  · exact first.one_le second packetSmall

end WirelessMesh
