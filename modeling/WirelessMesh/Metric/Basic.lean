/-!
The cost of a path. Costs add up along a path and stop at the largest 32-bit count; a path that
cannot be used spoils every path that it is part of. An advert carries a cost as one byte, in
steps of ten.
-/
namespace WirelessMesh

/-- What a path costs, or that it cannot be used. -/
inductive Metric where
  | good (cost : UInt32)
  | bad
  deriving DecidableEq, Inhabited

namespace Metric

def isGood : Metric → Bool
  | good _ => true
  | bad => false

def cost? : Metric → Option UInt32
  | good cost => some cost
  | bad => none

/-- The sum of two costs, which stops at the largest one. -/
def addCost (a b : UInt32) : UInt32 := UInt32.ofNat (min (a.toNat + b.toNat) 0xffff_ffff)

/-- The product of two costs, which stops at the largest one. -/
def mulCost (a b : UInt32) : UInt32 := UInt32.ofNat (min (a.toNat * b.toNat) 0xffff_ffff)

theorem toNat_addCost (a b : UInt32) :
    (addCost a b).toNat = min (a.toNat + b.toNat) 0xffff_ffff := by
  rw [addCost, UInt32.toNat_ofNat']
  exact Nat.mod_eq_of_lt (by omega)

theorem toNat_mulCost (a b : UInt32) :
    (mulCost a b).toNat = min (a.toNat * b.toNat) 0xffff_ffff := by
  rw [mulCost, UInt32.toNat_ofNat']
  exact Nat.mod_eq_of_lt (by omega)

/-- The cost of one path followed by another. -/
def append : Metric → Metric → Metric
  | good a, good b => good (addCost a b)
  | _, _ => bad

/-- The cost of the second path followed by the first. -/
def prepend (a b : Metric) : Metric := b.append a

/-- Whether a path is to be preferred: it costs less, or it alone can be used. -/
def betterThan : Metric → Metric → Bool
  | good a, good b => a < b
  | good _, bad => true
  | bad, _ => false

/-- Whether a cost is the smaller one, where no use at all counts as no cost. -/
def costLt (a b : Metric) : Bool := a.cost?.getD 0 < b.cost?.getD 0

/-- The byte of a path that cannot be used, or costs too much for a byte. -/
def badByte : UInt8 := 0xff

/-- The largest cost that a byte can carry. -/
def maxQuantizable : UInt32 := 2540

/-- The cost as a byte, in steps of ten. -/
def quantize : Metric → UInt8
  | good cost => if cost ≤ maxQuantizable then UInt8.ofNat (cost.toNat / 10) else badByte
  | bad => badByte

/-- The cost that a byte stands for. -/
def ofByte (byte : UInt8) : Metric :=
  if byte = badByte then bad else good (UInt32.ofNat (byte.toNat * 10))

end Metric

end WirelessMesh
