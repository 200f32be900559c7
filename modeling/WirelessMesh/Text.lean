namespace WirelessMesh

/-- The groups of characters between separators; there is always one more group than there are
separators. -/
def splitGroups (separates : Char → Bool) : List Char → List (List Char)
  | [] => [[]]
  | ch :: rest =>
    if separates ch then [] :: splitGroups separates rest
    else
      match splitGroups separates rest with
      | [] => [[ch]]
      | group :: later => (ch :: group) :: later

namespace Hex

/-- The digit of a number below sixteen. -/
def digit (n : Nat) : Char := if n < 10 then Char.ofNat (48 + n) else Char.ofNat (87 + n)

/-- The number that a digit stands for. -/
def value? (ch : Char) : Option Nat :=
  if '0' ≤ ch ∧ ch ≤ '9' then some (ch.toNat - 48)
  else if 'a' ≤ ch ∧ ch ≤ 'f' then some (ch.toNat - 87)
  else if 'A' ≤ ch ∧ ch ≤ 'F' then some (ch.toNat - 55)
  else none

/-- A byte as two digits. -/
def pair (byte : UInt8) : List Char := [digit (byte.toNat / 16), digit (byte.toNat % 16)]

/-- Bytes as digits without anything between them. -/
def render (bytes : List UInt8) : String := String.ofList (bytes.flatMap pair)

/-- The bytes of pairs of digits. -/
def bytes? : List Char → Option (List UInt8)
  | [] => some []
  | high :: low :: rest => do
    let high ← value? high
    let low ← value? low
    let later ← bytes? rest
    return UInt8.ofNat (high * 16 + low) :: later
  | [_] => none

/-- Reads bytes that are written as digits. -/
def parse? (text : String) : Option (List UInt8) := bytes? text.toList

end Hex

end WirelessMesh
