namespace WirelessMesh

/-- A string of bytes. -/
abbrev Bytes := List UInt8

/-- Why bytes or a written address could not be read. -/
inductive WireError where
  /-- A format needs more bytes than there are. -/
  | truncated (needed available : Nat)
  /-- A text is no link-layer address. -/
  | badAddress (text : String)
  deriving DecidableEq, Repr

/-- The message for people. -/
def WireError.message : WireError → String
  | .truncated needed available =>
    "truncated input: need " ++ toString needed ++ " bytes, have " ++ toString available
  | .badAddress text => "malformed link-layer address `" ++ text ++ "`"

namespace BigEndian

/-- The two bytes of a word. -/
def bytes16 (word : UInt16) : Bytes := [UInt8.ofNat (word.toNat / 256), UInt8.ofNat word.toNat]

/-- The word of two bytes. -/
def word16 (high low : UInt8) : UInt16 := UInt16.ofNat (high.toNat * 256 + low.toNat)

/-- The four bytes of a word. -/
def bytes32 (word : UInt32) : Bytes :=
  [UInt8.ofNat (word.toNat / 16777216), UInt8.ofNat (word.toNat / 65536),
    UInt8.ofNat (word.toNat / 256), UInt8.ofNat word.toNat]

/-- The word of four bytes. -/
def word32 (a b c d : UInt8) : UInt32 :=
  UInt32.ofNat (((a.toNat * 256 + b.toNat) * 256 + c.toNat) * 256 + d.toNat)

theorem bytes16_word16 (high low : UInt8) : bytes16 (word16 high low) = [high, low] := by
  have := high.toNat_lt; have := low.toNat_lt
  simp only [bytes16, word16, List.cons.injEq, ← UInt8.toNat_inj, UInt8.toNat_ofNat',
    UInt16.toNat_ofNat', and_true]
  omega

theorem word16_bytes16 (word : UInt16) :
    word16 (UInt8.ofNat (word.toNat / 256)) (UInt8.ofNat word.toNat) = word := by
  have := word.toNat_lt
  simp only [word16, ← UInt16.toNat_inj, UInt8.toNat_ofNat', UInt16.toNat_ofNat']
  omega

theorem bytes32_word32 (a b c d : UInt8) : bytes32 (word32 a b c d) = [a, b, c, d] := by
  have := a.toNat_lt; have := b.toNat_lt; have := c.toNat_lt; have := d.toNat_lt
  simp only [bytes32, word32, List.cons.injEq, ← UInt8.toNat_inj, UInt8.toNat_ofNat',
    UInt32.toNat_ofNat', and_true]
  omega

theorem word32_bytes32 (word : UInt32) :
    word32 (UInt8.ofNat (word.toNat / 16777216)) (UInt8.ofNat (word.toNat / 65536))
      (UInt8.ofNat (word.toNat / 256)) (UInt8.ofNat word.toNat) = word := by
  have := word.toNat_lt
  simp only [word32, ← UInt32.toNat_inj, UInt8.toNat_ofNat', UInt32.toNat_ofNat']
  omega

end BigEndian

/-- Bytes filled up with zeros to a length. -/
def padTo (length : Nat) (written : Bytes) : Bytes :=
  written ++ List.replicate (length - written.length) 0

/-- Puts a written form at the start of a buffer, over what was there; none if it does not fit. -/
def overwrite (written buffer : Bytes) : Option Bytes :=
  if written.length ≤ buffer.length then some (written ++ buffer.drop written.length) else none

/-- Writes a form at the start of a buffer: how many bytes it took, and the buffer as it is then. -/
def writeInto (written buffer : Bytes) : Option (Nat × Bytes) :=
  (overwrite written buffer).map fun filled => (written.length, filled)

end WirelessMesh
