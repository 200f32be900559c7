/-!
Decimal text of binary numbers: the fewest digits that still read back as the number, and of these
the nearest to it. The number and the gap around it are exact ratios, so nothing is lost on the
way to the digits.
-/
namespace WirelessMesh

/-- The number `digits · 10 ^ exponent`. -/
structure Decimal where
  digits : Nat
  exponent : Int
  deriving DecidableEq, Repr

/-- Drops zeros at the end of the digits, `limit` of them at most. -/
def Decimal.trim : Nat → Decimal → Decimal
  | 0, x => x
  | limit + 1, x =>
    if x.digits % 10 = 0 ∧ x.digits ≠ 0 then trim limit ⟨x.digits / 10, x.exponent + 1⟩ else x

/-- A ratio of two counts. -/
structure Ratio where
  num : Nat
  den : Nat

namespace Ratio

/-- `n · base ^ e`. -/
def scaled (n base : Nat) (e : Int) : Ratio :=
  if 0 ≤ e then ⟨n * base.pow e.toNat, 1⟩ else ⟨n, base.pow (-e).toNat⟩

def mul (x y : Ratio) : Ratio := ⟨x.num * y.num, x.den * y.den⟩

def lt (x y : Ratio) : Bool := x.num * y.den < y.num * x.den

def le (x y : Ratio) : Bool := x.num * y.den ≤ y.num * x.den

def floor (x : Ratio) : Nat := x.num / x.den

end Ratio

/-- A number above zero with the ends of the gap in which every number reads back as it. -/
structure ReadBack where
  value : Ratio
  low : Ratio
  high : Ratio
  /-- Whether the ends of the gap belong to it. -/
  closed : Bool

namespace ReadBack

/-- The number `m · 2 ^ q` among binary numbers of one length, with halfway points that go to the
even neighbour. Where `narrow` holds, the numbers below lie twice as close. -/
def ofBinary (m : Nat) (q : Int) (narrow : Bool) : ReadBack where
  value := .scaled m 2 q
  low := .scaled (4 * m - (if narrow then 1 else 2)) 2 (q - 2)
  high := .scaled (4 * m + 2) 2 (q - 2)
  closed := m % 2 = 0

def contains (gap : ReadBack) (x : Ratio) : Bool :=
  if gap.closed then gap.low.le x && x.le gap.high else gap.low.lt x && x.lt gap.high

/-- The place of the highest digit of a number at least one tenth of a unit, in `fuel` digits. -/
def placeAbove : Nat → Nat → Int
  | 0, _ => 0
  | fuel + 1, n => if n < 10 then 0 else placeAbove fuel (n / 10) + 1

/-- The place of the highest digit of a number below one. -/
def placeBelow : Nat → Ratio → Int
  | 0, _ => 0
  | fuel + 1, x => if x.den ≤ x.num then 0 else placeBelow fuel ⟨x.num * 10, x.den⟩ - 1

/-- The power of ten of the highest digit. Doubles need no more than 400 places. -/
def place (x : Ratio) : Int :=
  if x.den ≤ x.num then placeAbove 400 x.floor else placeBelow 400 x

/-- The multiple of a power of ten inside the gap that is nearest to the number, of the two next
to it; halfway the higher one. -/
def nearest? (gap : ReadBack) (exponent : Int) : Option Decimal :=
  let below := (gap.value.mul (.scaled 1 10 (-exponent))).floor
  let beneath := Ratio.scaled below 10 exponent
  let above := Ratio.scaled (below + 1) 10 exponent
  let middle : Ratio := (Ratio.scaled (2 * below + 1) 10 exponent).mul ⟨1, 2⟩
  let beneathHits := gap.contains beneath
  let aboveHits := gap.contains above
  if aboveHits && (!beneathHits || middle.le gap.value) then some ⟨below + 1, exponent⟩
  else if beneathHits then some ⟨below, exponent⟩
  else none

/-- Tries one digit, then two, and so on. -/
def shortestFrom (gap : ReadBack) (top : Int) : Nat → Nat → Option Decimal
  | 0, _ => none
  | tries + 1, digits =>
    match gap.nearest? (top - digits) with
    | some found => some found
    | none => shortestFrom gap top tries (digits + 1)

/-- The shortest decimal in the gap. Seventeen digits tell any two doubles apart. -/
def shortest (gap : ReadBack) : Decimal :=
  ((gap.shortestFrom (place gap.value) 17 0).getD ⟨0, 0⟩).trim 17

end ReadBack

/-- The digits in full, without an exponent. -/
def Decimal.render (x : Decimal) : String :=
  let text := (toString x.digits).toList
  if 0 ≤ x.exponent then String.ofList (text ++ List.replicate x.exponent.toNat '0')
  else
    let places := (-x.exponent).toNat
    let padded := List.replicate (places + 1 - text.length) '0' ++ text
    let whole := padded.length - places
    String.ofList (padded.take whole ++ '.' :: padded.drop whole)

/-- The shortest decimal of the size of a double that is finite. -/
def Decimal.ofFloat (x : Float) : Decimal :=
  let bits := x.toBits.toNat
  let exponent : Nat := (bits >>> 52) % 0x800
  let fraction := bits % (1 <<< 52)
  if exponent = 0 ∧ fraction = 0 then ⟨0, 0⟩
  else if exponent = 0 then (ReadBack.ofBinary fraction (-1074) false).shortest
  else
    (ReadBack.ofBinary ((1 <<< 52) + fraction) ((exponent : Int) - 1075)
      (fraction = 0 ∧ 1 < exponent)).shortest

/-- Whether a double has a minus sign, which zero may have too. -/
def hasMinusSign (x : Float) : Bool := 1 <<< 63 ≤ x.toBits.toNat

/-- A double in full: a minus sign if it has one, then its shortest decimal. -/
def renderFloat (x : Float) : String :=
  if x.isNaN then "NaN"
  else (if hasMinusSign x then "-" else "")
    ++ if x.isInf then "inf" else (Decimal.ofFloat x).render

end WirelessMesh
