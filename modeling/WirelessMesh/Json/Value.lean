namespace WirelessMesh

/-- A number as it was written: the digits before the point, those behind it (none if there is no
point) and the exponent with whether it is negative. -/
structure NumberLiteral where
  negative : Bool
  whole : List Nat
  fraction : List Nat
  exponent : Option (Bool × List Nat)

/-- The text of a string. There is none where escapes leave half of a surrogate pair alone. -/
abbrev JsonText := Option String

/-- A JSON document. -/
inductive Json where
  | null
  | bool (value : Bool)
  | number (literal : NumberLiteral)
  | string (text : JsonText)
  | array (items : List Json)
  | object (entries : List (JsonText × Json))

instance : Inhabited Json := ⟨.null⟩

namespace Json

/-- The decimal digits of a number, highest first. -/
def digitsOf (n : Nat) : List Nat := (toString n).toList.map fun ch => ch.toNat - 48

def ofNat (n : Nat) : Json := .number ⟨false, digitsOf n, [], none⟩

def ofString (text : String) : Json := .string (some text)

/-- An object with keys that are texts. -/
def ofFields (fields : List (String × Json)) : Json :=
  .object (fields.map fun field => (some field.1, field.2))

/-- A value, or null where there is none. -/
def ofOption {α : Type} (encode : α → Json) : Option α → Json
  | none => .null
  | some value => encode value

end Json

end WirelessMesh
