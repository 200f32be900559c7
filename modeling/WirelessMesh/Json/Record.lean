import WirelessMesh.Json.Number

/-!
Records written as JSON: an object whose entries may come in any order, with entries of other
names ignored, or an array of the fields in their order. A field that is there twice is refused.
-/
namespace WirelessMesh

namespace Json

/-- A whole number below a bound. -/
def natBelow? (bound : Nat) : Json → Option Nat
  | .number lit => lit.nat?.filter (· < bound)
  | _ => none

/-- A whole number that fits 64 bits. -/
def word? : Json → Option Nat := natBelow? UInt64.size

def float? : Json → Option Float
  | .number lit => lit.float?
  | _ => none

def bool? : Json → Option Bool
  | .bool value => some value
  | _ => none

def text? : Json → Option String
  | .string text => text
  | _ => none

/-- A value that may be null. -/
def nullable? {α : Type} (read : Json → Option α) : Json → Option (Option α)
  | .null => some none
  | document => (read document).map some

/-- One of some named choices: its name, or an object that gives its name the value null. -/
def choice? {α : Type} (choices : List (String × α)) : Json → Option α
  | .string (some name) => choices.lookup name
  | .object [(some name, .null)] => choices.lookup name
  | _ => none

/-- A list of things that are all of one kind. -/
def list? {α : Type} (read : Json → Option α) : Json → Option (List α)
  | .array items => items.mapM read
  | _ => none

/-- The fields of a record that are there, with their values. -/
abbrev Fields := List (String × Json)

/-- The entries of an object under the names that are known. -/
def knownEntries? (names : List String) (entries : List (JsonText × Json)) : Option Fields := do
  let named ← entries.mapM fun (key, value) => key.map fun name => (name, value)
  let known := named.filter fun field => names.contains field.1
  if (known.map (·.1)).Nodup then some known else none

/-- The items of an array as the first fields of a record. -/
def leadingFields? (names : List String) (items : List Json) : Option Fields :=
  if items.length ≤ names.length then some (names.zip items) else none

/-- The fields of a record with the given field names. -/
def fields? (names : List String) : Json → Option Fields
  | .object entries => knownEntries? names entries
  | .array items => leadingFields? names items
  | _ => none

/-- A field that has to be there. -/
def Fields.required? {α : Type} (fields : Fields) (name : String) (read : Json → Option α) :
    Option α :=
  (fields.lookup name).bind read

/-- A field that has a value of its own when it is not there. -/
def Fields.optional? {α : Type} (fields : Fields) (name : String) (otherwise : α)
    (read : Json → Option α) : Option α :=
  match fields.lookup name with
  | none => some otherwise
  | some document => read document

mutual

/-- Whether a whole document can be taken in: every string is a text, no number is too large, and
arrays and objects are not nested more than `depth` deep. -/
def isReadable (depth : Nat) : Json → Bool
  | .number lit => lit.float?.isSome
  | .string text => text.isSome
  | .array items => decide (0 < depth) && areReadable (depth - 1) items
  | .object entries => decide (0 < depth) && entriesReadable (depth - 1) entries
  | _ => true

def areReadable (depth : Nat) : List Json → Bool
  | [] => true
  | item :: rest => isReadable depth item && areReadable depth rest

def entriesReadable (depth : Nat) : List (JsonText × Json) → Bool
  | [] => true
  | (key, value) :: rest =>
    key.isSome && isReadable depth value && entriesReadable depth rest

end

end Json

end WirelessMesh
