import WirelessMesh.Directory
import WirelessMesh.Text

namespace WirelessMesh

/-- A network address, first octet first. -/
structure IPv4 where
  a : UInt8
  b : UInt8
  c : UInt8
  d : UInt8
  deriving DecidableEq, Inhabited

namespace IPv4

/-- The address of no host in particular. -/
def unspecified : IPv4 := ⟨0, 0, 0, 0⟩

/-- The address of a mesh node: the low 16 bits of its number, counted from one, inside 10.0/16. -/
def ofIndex (i : Nat) : IPv4 := ⟨10, 0, UInt8.ofNat ((i + 1) / 256), UInt8.ofNat (i + 1)⟩

def octets (x : IPv4) : List UInt8 := [x.a, x.b, x.c, x.d]

/-- The four octets as one number, first octet highest. -/
def toNat (x : IPv4) : Nat :=
  ((x.a.toNat * 256 + x.b.toNat) * 256 + x.c.toNat) * 256 + x.d.toNat

private theorem toNat_injective {x y : IPv4} (same : x.toNat = y.toNat) : x = y := by
  obtain ⟨a, b, c, d⟩ := x
  obtain ⟨a', b', c', d'⟩ := y
  simp only [toNat] at same
  have := a.toNat_lt; have := b.toNat_lt; have := c.toNat_lt; have := d.toNat_lt
  have := a'.toNat_lt; have := b'.toNat_lt; have := c'.toNat_lt; have := d'.toNat_lt
  simp only [mk.injEq, ← UInt8.toNat_inj]
  omega

instance : Ranked IPv4 := ⟨toNat, toNat_injective⟩

/-- The octets in decimal between dots. -/
def render (x : IPv4) : String :=
  ".".intercalate (x.octets.map fun octet => toString octet.toNat)

instance : ToString IPv4 := ⟨render⟩

/-- The octet of a decimal group: one to three digits, worth at most 255, with no zero in front. -/
def octet? (group : List Char) : Option UInt8 :=
  if group.isEmpty ∨ 3 < group.length ∨ ¬ group.all Char.isDigit then none
  else if 1 < group.length ∧ group.head? = some '0' then none
  else
    let value := group.foldl (fun value ch => value * 10 + (ch.toNat - 48)) 0
    if value ≤ 255 then some (UInt8.ofNat value) else none

/-- Reads a dotted address. -/
def parse? (text : String) : Option IPv4 :=
  match (splitGroups (· = '.') text.toList).mapM octet? with
  | some [a, b, c, d] => some ⟨a, b, c, d⟩
  | _ => none

end IPv4

end WirelessMesh
