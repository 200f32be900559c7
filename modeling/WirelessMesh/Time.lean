namespace WirelessMesh

/-- A point in simulated time, or a length of it. -/
structure Time where
  ns : Nat
  ns_le : ns ≤ 0xffff_ffff_ffff_ffff
  deriving DecidableEq

namespace Time

/-- The time of `n` nanoseconds, or the last one there is. -/
def ofNanos (n : Nat) : Time := ⟨min n 0xffff_ffff_ffff_ffff, Nat.min_le_right _ _⟩

def zero : Time := ofNanos 0

def ofMicros (n : Nat) : Time := ofNanos (n * 1_000)

def ofMillis (n : Nat) : Time := ofNanos (n * 1_000_000)

def ofSeconds (n : Nat) : Time := ofNanos (n * 1_000_000_000)

/-- Whole microseconds. -/
def micros (t : Time) : Nat := t.ns / 1_000

/-- Whole milliseconds. -/
def millis (t : Time) : Nat := t.ns / 1_000_000

instance : Inhabited Time := ⟨zero⟩
instance : LE Time := ⟨fun a b => a.ns ≤ b.ns⟩
instance : LT Time := ⟨fun a b => a.ns < b.ns⟩
instance (a b : Time) : Decidable (a ≤ b) := inferInstanceAs (Decidable (a.ns ≤ b.ns))
instance (a b : Time) : Decidable (a < b) := inferInstanceAs (Decidable (a.ns < b.ns))
instance : Max Time := ⟨fun a b => if a ≤ b then b else a⟩
instance : Min Time := ⟨fun a b => if a ≤ b then a else b⟩

/-- The sum, which stops at the last time there is. -/
instance : Add Time := ⟨fun a b => ofNanos (a.ns + b.ns)⟩

/-- The time from `b` to `a`, which is zero when `b` is the later one. -/
instance : Sub Time := ⟨fun a b => ⟨a.ns - b.ns, Nat.le_trans (Nat.sub_le _ _) a.ns_le⟩⟩

/-- `n` times as long. -/
def scaleNat (t : Time) (n : Nat) : Time := ofNanos (t.ns * n)

theorem ext {a b : Time} (same : a.ns = b.ns) : a = b := by
  cases a; cases b; cases same; rfl

theorem le_def {a b : Time} : a ≤ b ↔ a.ns ≤ b.ns := Iff.rfl

theorem lt_def {a b : Time} : a < b ↔ a.ns < b.ns := Iff.rfl

@[simp] theorem ns_ofNanos (n : Nat) : (ofNanos n).ns = min n 0xffff_ffff_ffff_ffff := rfl

@[simp] theorem ns_zero : zero.ns = 0 := rfl

@[simp] theorem ns_add (a b : Time) : (a + b).ns = min (a.ns + b.ns) 0xffff_ffff_ffff_ffff := rfl

theorem le_add_right (a b : Time) : a ≤ a + b := by
  have := a.ns_le
  rw [le_def, ns_add]
  omega

@[simp] theorem ns_sub (a b : Time) : (a - b).ns = a.ns - b.ns := rfl

@[simp] theorem ns_max (a b : Time) : (max a b).ns = max a.ns b.ns := by
  show (if a.ns ≤ b.ns then b else a).ns = _
  split <;> omega

@[simp] theorem ns_min (a b : Time) : (min a b).ns = min a.ns b.ns := by
  show (if a.ns ≤ b.ns then a else b).ns = _
  split <;> omega

/-- A number of seconds, cut to whole nanoseconds. No time at all stands for a number that is
negative or not finite. -/
def ofFloatSeconds (s : Float) : Time :=
  if s.isFinite && 0 < s then ofNanos (s * 1e9).toUInt64.toNat else zero

/-- Seconds, to the nearest double. -/
def toFloatSeconds (t : Time) : Float := (UInt64.ofNat t.ns).toFloat / 1e9

/-- `k` times as long, by way of seconds. -/
def scale (t : Time) (k : Float) : Time := ofFloatSeconds (t.toFloatSeconds * k)

end Time

end WirelessMesh
