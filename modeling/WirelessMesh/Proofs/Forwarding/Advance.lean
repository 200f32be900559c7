import WirelessMesh.Proofs.Forwarding.Standing

namespace WirelessMesh

namespace Route

variable {ρ ρ' : Route} {useOld : Bool} {now now' : Time} {link : Metric} {r x : RouteRow}
  {old : Option RouteRow} {timer : TimerSlot} {s : Standing}

/-- A row is reached again once the old one has had its time. -/
theorem Regular.advances_later (regular : ρ.Regular) (later : now ≤ now') :
    ρ.Advances useOld now now' ρ where
  seq := Nat.le_refl _
  floor := by
    rcases ρ.floor_cases useOld now' with ⟨old, may, same⟩ | ⟨-, same⟩
    · obtain ⟨uses, kept, good, whole, early⟩ := may
      rw [same, floor_of_mayServe ⟨uses, kept, good, whole, Nat.lt_of_le_of_lt later early⟩]
    · rw [same]
      exact regular.floor_le
  rows x member whole := .inr ⟨x, member, whole, rfl, Nat.le_refl _⟩

/-- A newer row advances a route: beside a row that may be used, the one it replaces is kept. -/
theorem Regular.advances_newer (regular : ρ.Regular) (newer : ρ.row.seq < r.seq)
    (kept : old = ρ.old ∨ old = some ρ.row)
    (served : r.hops ≠ 0 → useOld = true → old = some ρ.row) :
    ρ.Advances useOld now now ⟨r, old, timer⟩ := by
  have lt : ρ.row.seq.toNat < r.seq.toNat := UInt32.lt_iff_toNat_lt.mp newer
  have below : ρ.row.standing < r.standing := Standing.lt_iff.mpr (.inl lt)
  refine ⟨Nat.le_of_lt lt, ?_, fun x member whole => ?_⟩
  · rcases floor_cases ⟨r, old, timer⟩ useOld now with ⟨before, may, same⟩ | ⟨-, same⟩
    · obtain ⟨uses, present, -, whole, -⟩ := may
      obtain rfl : ρ.row = before := Option.some.inj ((served whole uses).symm.trans present)
      rw [same]
      exact regular.floor_le
    · rw [same]
      exact le_trans regular.floor_le below.le
  · rcases mem_rows.mp member with rfl | present
    · exact .inl lt
    · refine .inr ⟨x, mem_rows.mpr ?_, whole, rfl, Nat.le_refl _⟩
      rcases kept with rfl | rfl
      · exact .inr present
      · exact .inl (Option.some.inj present).symm

private theorem advances_same (same : r.seq = ρ.row.seq) (settles : r.settledAt = ρ.row.settledAt)
    (whole : r.hops ≠ 0) (whole' : ρ.row.hops ≠ 0)
    (better : r.metric.weight ≤ ρ.row.metric.weight) :
    ρ.Advances useOld now now ⟨r, ρ.old, timer⟩ := by
  have may (old : RouteRow) :
      MayServe ⟨r, ρ.old, timer⟩ useOld now old ↔ ρ.MayServe useOld now old := by
    simp only [MayServe, settles, ne_eq, whole, whole', not_false_eq_true]
  refine ⟨Nat.le_of_eq (congrArg UInt32.toNat same.symm), ?_, fun x member alive => ?_⟩
  · rcases ρ.floor_cases useOld now with ⟨old, serves, floor⟩ | ⟨never, floor⟩
    · rw [floor, floor_of_mayServe ((may old).mpr serves)]
    · rw [floor, floor_of_not fun old serves => never old ((may old).mp serves)]
      exact Standing.le_iff.mpr (.inr ⟨congrArg UInt32.toNat same.symm, better⟩)
  · rcases mem_rows.mp member with rfl | present
    · exact .inr ⟨ρ.row, ρ.row_mem_rows, whole', congrArg UInt32.toNat same.symm, better⟩
    · exact .inr ⟨x, mem_rows.mpr (.inr present), alive, rfl, Nat.le_refl _⟩

/-- A row in the place of another advances a route if it is newer, or no worse under the same
number. -/
theorem Regular.advances_kept (regular : ρ.Regular)
    (follows : ρ.row.seq < r.seq ∨ (r.seq = ρ.row.seq ∧ r.settledAt = ρ.row.settledAt ∧ r.hops ≠ 0 ∧
      ρ.row.hops ≠ 0 ∧ r.metric.weight ≤ ρ.row.metric.weight)) :
    ρ.Advances useOld now now
      ⟨r, if useOld = true ∧ ρ.row.seq < r.seq then some ρ.row else ρ.old, timer⟩ := by
  rcases follows with newer | ⟨same, settles, whole, alive, better⟩
  · refine regular.advances_newer newer ?_ fun _ uses => if_pos ⟨uses, newer⟩
    split
    · exact .inr rfl
    · exact .inl rfl
  · rw [if_neg fun replaced => absurd same.symm (UInt32.ne_of_lt replaced.2)]
    exact advances_same same settles whole alive better

/-- What is kept beside a row that is no older was there before and is older than it. -/
theorem Regular.kept_older (regular : ρ.Regular) (later : ρ.row.seq ≤ r.seq)
    (held : (if useOld = true ∧ ρ.row.seq < r.seq then some ρ.row else ρ.old) = some x) :
    x ∈ ρ.rows ∧ x.seq.toNat < r.seq.toNat := by
  split at held
  · next replaced =>
    cases held
    exact ⟨ρ.row_mem_rows, UInt32.lt_iff_toNat_lt.mp replaced.2⟩
  · have before : x.seq.toNat < ρ.row.seq.toNat := (regular.old x held).2
    exact ⟨mem_rows.mpr (.inr held), Nat.lt_of_lt_of_le before (UInt32.le_iff_toNat_le.mp later)⟩

/-- A route backs a path by way of its node: it has heard of the number, stands higher than the
path if that can be used, and would tell of no worse path of the same number. -/
structure Backs (ρ : Route) (useOld : Bool) (now : Time) (link : Metric) (s : Standing) : Prop where
  known : s.seq ≤ ρ.row.seq.toNat
  ahead : s.Usable → s < (ρ.floor useOld now).standing
  steady : ∀ x ∈ ρ.rows, x.hops ≠ 0 → s.NoWorse (x.toldOver link)

/-- What a route backs it backs when it has advanced. -/
theorem Backs.advances (backs : ρ.Backs useOld now link s) (advances : ρ.Advances useOld now now' ρ') :
    ρ'.Backs useOld now' link s where
  known := Nat.le_trans backs.known advances.seq
  ahead usable := lt_of_lt_of_le (backs.ahead usable) advances.floor
  steady x' member whole same := by
    have number : s.seq = x'.seq.toNat := same
    have known := backs.known
    rcases advances.rows x' member whole with newer | ⟨x, member, whole, same', better⟩
    · omega
    · have steady := backs.steady x member whole (number.trans same'.symm)
      exact Nat.le_trans (Metric.told_mono link better) steady

theorem Regular.backs_told (regular : ρ.Regular) (step : ∀ w, link = .good w → 10 ≤ w)
    (member : x ∈ ρ.rows) (whole : x.hops ≠ 0)
    (served : x.isGood = true → x = ρ.floor useOld now) :
    ρ.Backs useOld now link (x.toldOver link) where
  known := regular.seq_le member
  ahead usable := by
    have lower : x.metric.weight < (link.told x.metric).weight :=
      Metric.weight_lt_told step usable
    have good : x.isGood = true := by
      refine RouteRow.isGood_iff.mpr ⟨whole, fun bad => ?_⟩
      have least : x.metric.weight < Metric.unusable := Nat.lt_trans lower usable
      rw [bad] at least
      exact absurd least (Nat.lt_irrefl _)
    rw [← served good]
    exact Standing.lt_iff.mpr (.inr ⟨rfl, lower⟩)
  steady y other alive same := by
    obtain rfl : x = y := regular.eq_of_seq member other same
    exact Nat.le_refl _

end Route

end WirelessMesh
