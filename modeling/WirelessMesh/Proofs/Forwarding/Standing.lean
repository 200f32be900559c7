import WirelessMesh.Proofs.Metric.Weight
import WirelessMesh.Proofs.Route.Invariant

/-!
Where a route to a destination stands: its sequence number first, then its metric. A table may
serve an old row for a while, so what its neighbours may count on is the floor of a route: the row
that it serves now or will come back to. As a route advances, its floor only rises.
-/
namespace WirelessMesh

structure Standing where
  seq : Nat
  weight : Nat

namespace Standing

/-- The number comes first; of one number the lower weight stands higher. -/
def key (s : Standing) : Lex (ℕ × ℕᵒᵈ) := toLex (s.seq, OrderDual.toDual s.weight)

private theorem key_injective : Function.Injective key := by
  rintro ⟨seq, weight⟩ ⟨seq', weight'⟩ same
  simpa [key] using same

instance : LinearOrder Standing := LinearOrder.lift' key key_injective

variable {a b c : Standing}

theorem lt_iff : a < b ↔ a.seq < b.seq ∨ (a.seq = b.seq ∧ b.weight < a.weight) :=
  Prod.Lex.lt_iff

theorem le_iff : a ≤ b ↔ a.seq < b.seq ∨ (a.seq = b.seq ∧ b.weight ≤ a.weight) :=
  Prod.Lex.le_iff

def Usable (s : Standing) : Prop := s.weight < Metric.unusable

def NoWorse (a b : Standing) : Prop := a.seq = b.seq → b.weight ≤ a.weight

end Standing

namespace RouteRow

def standing (r : RouteRow) : Standing := ⟨r.seq.toNat, r.metric.weight⟩

def toldOver (r : RouteRow) (link : Metric) : Standing := ⟨r.seq.toNat, (link.told r.metric).weight⟩

theorem usable_of_isGood {r : RouteRow} (good : r.isGood = true) : r.standing.Usable := by
  have metric : r.metric.isGood = true := (Bool.and_eq_true_iff.mp good).2
  exact Metric.isGood_iff_weight.mp metric

end RouteRow

namespace Route

variable {ρ : Route} {useOld : Bool} {now : Time} {x y : RouteRow}

/-- The row and the old row. -/
def rows (ρ : Route) : List RouteRow := ρ.row :: ρ.old.toList

theorem mem_rows : x ∈ ρ.rows ↔ x = ρ.row ∨ ρ.old = some x := by
  simp [rows]

theorem row_mem_rows (ρ : Route) : ρ.row ∈ ρ.rows := mem_rows.mpr (.inl rfl)

theorem mem_rows_of_kept {old : Option RouteRow} (kept : old = ρ.old ∨ old = some ρ.row)
    (held : old = some x) : x ∈ ρ.rows := by
  rcases kept with rfl | rfl
  · exact mem_rows.mpr (.inr held)
  · cases held
    exact ρ.row_mem_rows

theorem mem_rows_of_predecessor {route : Option Route} {useOld : Bool} {seq : UInt32}
    (held : (Predecessor.ofRoute route).kept useOld seq = some x) :
    ∃ ρ, route = some ρ ∧ x ∈ ρ.rows := by
  cases route with
  | none => cases held
  | some ρ => exact ⟨ρ, rfl, mem_rows_of_kept (RouteTable.kept_cases ρ useOld seq) held⟩

structure Regular (ρ : Route) : Prop where
  row : ρ.row.Coherent
  old : ∀ old, ρ.old = some old → old.Coherent ∧ old.seq.toNat < ρ.row.seq.toNat

theorem Regular.coherent (regular : ρ.Regular) (member : x ∈ ρ.rows) : x.Coherent := by
  rcases mem_rows.mp member with rfl | kept
  · exact regular.row
  · exact (regular.old x kept).1

theorem Regular.seq_le (regular : ρ.Regular) (member : x ∈ ρ.rows) :
    x.seq.toNat ≤ ρ.row.seq.toNat := by
  rcases mem_rows.mp member with rfl | kept
  · exact Nat.le_refl _
  · exact Nat.le_of_lt (regular.old x kept).2

theorem Regular.eq_of_seq (regular : ρ.Regular) (first : x ∈ ρ.rows) (second : y ∈ ρ.rows)
    (same : x.seq.toNat = y.seq.toNat) : x = y := by
  rcases mem_rows.mp first with rfl | kept
  · rcases mem_rows.mp second with rfl | kept'
    · rfl
    · have lt := (regular.old y kept').2
      omega
  · rcases mem_rows.mp second with rfl | kept'
    · have lt := (regular.old x kept).2
      omega
    · exact Option.some.inj (kept.symm.trans kept')

/-- Whether a route may still serve its old row, now or when its row gets a metric. -/
def MayServe (ρ : Route) (useOld : Bool) (now : Time) (old : RouteRow) : Prop :=
  useOld = true ∧ ρ.old = some old ∧ old.isGood = true ∧ ρ.row.hops ≠ 0 ∧ now < ρ.row.settledAt

def floor (ρ : Route) (useOld : Bool) (now : Time) : RouteRow :=
  match ρ.old with
  | none => ρ.row
  | some old =>
    if useOld && old.isGood && !ρ.row.isBroken && now < ρ.row.settledAt then old else ρ.row

theorem floor_of_mayServe {old : RouteRow} (may : ρ.MayServe useOld now old) :
    ρ.floor useOld now = old := by
  obtain ⟨uses, kept, good, whole, early⟩ := may
  simp [floor, kept, uses, good, RouteRow.isBroken, whole, early]

theorem floor_of_not (never : ∀ old, ¬ ρ.MayServe useOld now old) :
    ρ.floor useOld now = ρ.row := by
  cases kept : ρ.old with
  | none => simp [floor, kept]
  | some old =>
    have none := never old
    simp only [MayServe, kept, true_and] at none
    simp only [floor, kept, ite_eq_right_iff, Bool.and_eq_true, Bool.not_eq_true',
      decide_eq_true_eq, RouteRow.isBroken, decide_eq_false_iff_not]
    rintro ⟨⟨⟨uses, good⟩, whole⟩, early⟩
    exact absurd ⟨uses, good, whole, early⟩ none

theorem floor_cases (ρ : Route) (useOld : Bool) (now : Time) :
    (∃ old, ρ.MayServe useOld now old ∧ ρ.floor useOld now = old) ∨
      ((∀ old, ¬ ρ.MayServe useOld now old) ∧ ρ.floor useOld now = ρ.row) := by
  by_cases may : ∃ old, ρ.MayServe useOld now old
  · obtain ⟨old, may⟩ := may
    exact .inl ⟨old, may, floor_of_mayServe may⟩
  · have never := not_exists.mp may
    exact .inr ⟨never, floor_of_not never⟩

theorem Regular.floor_le (regular : ρ.Regular) :
    (ρ.floor useOld now).standing ≤ ρ.row.standing := by
  rcases ρ.floor_cases useOld now with ⟨old, may, same⟩ | ⟨-, same⟩
  · rw [same]
    exact Standing.le_iff.mpr (.inl (regular.old old may.2.1).2)
  · rw [same]

/-- The old row is in use exactly if it may be served and the row itself is usable. -/
private theorem Regular.usesOld_iff (regular : ρ.Regular) :
    useOld = true ∧ ρ.usesOld now = true ↔
      ρ.row.isGood = true ∧ ∃ old, ρ.MayServe useOld now old := by
  unfold usesOld MayServe
  cases kept : ρ.old with
  | none => simp
  | some old =>
    have lt : old.seq < ρ.row.seq := UInt32.lt_iff_toNat_lt.mpr (regular.old old kept).2
    simp only [lt, decide_true, Bool.and_true, Bool.and_eq_true, decide_eq_true_eq,
      Option.some.injEq, existsAndEq, true_and, RouteRow.isGood_iff]
    tauto

/-- A usable row that is served is the floor of its route. -/
theorem Regular.served_eq_floor (regular : ρ.Regular) {t : RouteTable}
    (good : (t.served now ρ).isGood = true) :
    t.served now ρ = ρ.floor t.config.useOldRoute now := by
  unfold RouteTable.served at good ⊢
  by_cases uses : t.config.useOldRoute = true ∧ ρ.usesOld now = true
  · obtain ⟨-, old, may⟩ := regular.usesOld_iff.mp uses
    rw [if_pos (Bool.and_eq_true_iff.mpr uses), floor_of_mayServe may, may.2.1]
    rfl
  · rw [if_neg (mt Bool.and_eq_true_iff.mp uses)] at good ⊢
    exact (floor_of_not fun old may => uses (regular.usesOld_iff.mpr ⟨good, old, may⟩)).symm

theorem served_mem (t : RouteTable) : t.served now ρ ∈ ρ.rows := by
  unfold RouteTable.served
  rw [mem_rows]
  cases kept : ρ.old with
  | none => simp [usesOld, kept]
  | some old => split <;> simp

/-- A route gets newer or better: its number and its floor do not fall, and each of its rows is
newer than all there was or no worse than one there was. -/
structure Advances (useOld : Bool) (now now' : Time) (ρ ρ' : Route) : Prop where
  seq : ρ.row.seq.toNat ≤ ρ'.row.seq.toNat
  floor : (ρ.floor useOld now).standing ≤ (ρ'.floor useOld now').standing
  rows : ∀ x' ∈ ρ'.rows, x'.hops ≠ 0 → ρ.row.seq.toNat < x'.seq.toNat ∨
    ∃ x ∈ ρ.rows, x.hops ≠ 0 ∧ x.seq.toNat = x'.seq.toNat ∧ x'.metric.weight ≤ x.metric.weight

end Route

end WirelessMesh
