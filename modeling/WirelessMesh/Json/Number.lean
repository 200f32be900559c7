import WirelessMesh.Decimal.Shortest
import WirelessMesh.Json.Value

/-!
What a written number means, and how a double is written. A whole number counts as one only without a
point, an exponent or a minus sign. A number read as a double takes the leading digits that fit a
64-bit word and scales them by a power of ten, each with one rounding. It is written with the fewest
digits that tell it apart.
-/
namespace WirelessMesh

namespace NumberLiteral

/-- The number of some decimal digits, highest first. -/
def valueOf (digits : List Nat) : Nat := digits.foldl (fun value digit => value * 10 + digit) 0

/-- The whole number that is written. -/
def nat? (lit : NumberLiteral) : Option Nat :=
  if lit.negative || !lit.fraction.isEmpty || lit.exponent.isSome then none
  else some (valueOf lit.whole)

/-- Appends digits to a word while the result fits 64 bits; also the digits that are left. -/
def extendWord : Nat → List Nat → Nat × List Nat
  | value, [] => (value, [])
  | value, digit :: rest =>
    if UInt64.size ≤ value * 10 + digit then (value, digit :: rest)
    else extendWord (value * 10 + digit) rest

/-- `10 ^ k` to the nearest double. -/
def powerOfTen (k : Nat) : Float := Float.ofScientific 1 false k

/-- Divides by `10 ^ 308` a number of times; zero stays zero. -/
def shrink : Nat → Float → Float
  | 0, x => x
  | steps + 1, x => if x == 0 then x else shrink steps (x / powerOfTen 308)

/-- Divides by `10 ^ k`, in more than one step where the power is no double. -/
def divideByPower (x : Float) (k : Nat) : Float := shrink (k / 308) x / powerOfTen (k % 308)

/-- Multiplies by a power of ten; none where the result is too large. -/
def scaleByPower? (x : Float) (exponent : Int) : Option Float :=
  if exponent < 0 then some (divideByPower x (-exponent).toNat)
  else if exponent ≤ 308 then
    let scaled := x * powerOfTen exponent.toNat
    if scaled.isInf then none else some scaled
  else if x == 0 then some x
  else none

/-- The double that is meant; none where it is too large. An exponent beyond 31 bits makes zero of
a number, or is too large. -/
def float? (lit : NumberLiteral) : Option Float :=
  let (word, dropped) := extendWord 0 lit.whole
  let (word, ignored) := extendWord word lit.fraction
  let shift : Int := dropped.length - (lit.fraction.length - ignored.length)
  let magnitude := (UInt64.ofNat word).toFloat
  let scaled :=
    match lit.exponent with
    | none => scaleByPower? magnitude shift
    | some (below, digits) =>
      let size := valueOf digits
      if 1 <<< 31 ≤ size then (if word ≠ 0 ∧ ¬ below then none else some 0)
      else scaleByPower? magnitude (if below then shift - size else shift + size)
  scaled.map fun x => if lit.negative then -x else x

/-- A decimal as a number: in full, with a point, if the point falls among the first sixteen digits
or at most four zeros lead, else with an exponent behind the first digit. -/
def ofDecimal (negative : Bool) (x : Decimal) : NumberLiteral :=
  let digits := Json.digitsOf x.digits
  let point : Int := digits.length + x.exponent
  if 0 < point ∧ point ≤ 16 then
    let padded := digits ++ List.replicate (x.exponent.toNat + 1) 0
    let fraction := if 0 ≤ x.exponent then [0] else digits.drop point.toNat
    ⟨negative, padded.take point.toNat, fraction, none⟩
  else if -5 < point ∧ point ≤ 0 then
    ⟨negative, [0], List.replicate (-point).toNat 0 ++ digits, none⟩
  else
    ⟨negative, digits.take 1, digits.drop 1,
      some (decide (point < 1), Json.digitsOf (point - 1).natAbs)⟩

end NumberLiteral

/-- A double as a number; null stands for one that is not finite. -/
def Json.ofFloat (x : Float) : Json :=
  if x.isFinite then .number (.ofDecimal (hasMinusSign x) (.ofFloat x)) else .null

end WirelessMesh
