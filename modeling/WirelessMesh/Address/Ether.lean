import WirelessMesh.Directory
import WirelessMesh.Text
import WirelessMesh.Wire.Bytes

namespace WirelessMesh

/-- A link-layer address, first octet first. -/
structure EtherAddress where
  a : UInt8
  b : UInt8
  c : UInt8
  d : UInt8
  e : UInt8
  f : UInt8
  deriving DecidableEq, Inhabited

namespace EtherAddress

def zero : EtherAddress := ⟨0, 0, 0, 0, 0, 0⟩

/-- The address of everyone in range. -/
def broadcast : EtherAddress := ⟨0xff, 0xff, 0xff, 0xff, 0xff, 0xff⟩

def isBroadcast (x : EtherAddress) : Bool := x == broadcast

def isZero (x : EtherAddress) : Bool := x == zero

/-- The address of a mesh node: locally administered, with the low 16 bits of the node's number in
the last two octets. -/
def ofIndex (i : Nat) : EtherAddress :=
  ⟨2, 0, 0, 0, UInt8.ofNat (i / 256), UInt8.ofNat i⟩

def octets (x : EtherAddress) : List UInt8 := [x.a, x.b, x.c, x.d, x.e, x.f]

/-- The address in the first six bytes, if there are six. -/
def ofBytes? : List UInt8 → Option EtherAddress
  | a :: b :: c :: d :: e :: f :: _ => some ⟨a, b, c, d, e, f⟩
  | _ => none

/-- The six octets as one number, first octet highest. -/
def toNat (x : EtherAddress) : Nat :=
  ((((x.a.toNat * 256 + x.b.toNat) * 256 + x.c.toNat) * 256 + x.d.toNat) * 256 + x.e.toNat) * 256
    + x.f.toNat

theorem toNat_injective {x y : EtherAddress} (same : x.toNat = y.toNat) : x = y := by
  obtain ⟨a, b, c, d, e, f⟩ := x
  obtain ⟨a', b', c', d', e', f'⟩ := y
  simp only [toNat] at same
  have := a.toNat_lt; have := b.toNat_lt; have := c.toNat_lt
  have := d.toNat_lt; have := e.toNat_lt; have := f.toNat_lt
  have := a'.toNat_lt; have := b'.toNat_lt; have := c'.toNat_lt
  have := d'.toNat_lt; have := e'.toNat_lt; have := f'.toNat_lt
  simp only [mk.injEq, ← UInt8.toNat_inj]
  omega

instance : Ranked EtherAddress := ⟨toNat, toNat_injective⟩

/-- The address as a 64-bit word. -/
def toWord (x : EtherAddress) : UInt64 := UInt64.ofNat x.toNat

/-- The octets as hex pairs between colons. -/
def render (x : EtherAddress) : String :=
  String.ofList ([':'].intercalate (x.octets.map Hex.pair))

instance : ToString EtherAddress := ⟨render⟩

/-- The number that hex digits stand for, after the number read so far. -/
def hexNumber? : Nat → List Char → Option Nat
  | value, [] => some value
  | value, ch :: rest => (Hex.value? ch).bind fun digit => hexNumber? (value * 16 + digit) rest

/-- The octet of a group: a plus sign or none, then one or more hex digits worth at most 255. -/
def octet? (group : List Char) : Option UInt8 :=
  let digits := if group.head? = some '+' then group.tail else group
  if digits.isEmpty then none
  else (hexNumber? 0 digits).bind fun value => if value ≤ 255 then some (UInt8.ofNat value) else none

/-- Reads an address from exactly six groups. -/
def parse? (text : String) : Option EtherAddress :=
  let found := splitGroups (fun ch => ch = ':' || ch = '-') text.toList
  if found.length = 6 then (found.mapM octet?).bind ofBytes? else none

/-- Reads an address; a text that is none is handed back in the error. -/
def parse (text : String) : Except WireError EtherAddress :=
  match parse? text with
  | some address => .ok address
  | none => .error (.badAddress text)

end EtherAddress

end WirelessMesh
