namespace WirelessMesh.Command

/-- The options that a program knows. -/
structure OptionSet where
  /-- The options that take a value. -/
  valued : List String
  /-- The options that take none. -/
  flags : List String := []

/-- The options that were given, the latest first, with the value of those that take one. -/
abbrev Given := List (String × String)

/-- Whether an argument can stand as the value of the option before it. -/
def isValue (arg : String) : Bool :=
  match arg.toList with
  | '-' :: _ :: _ => false
  | _ => true

/-- The name of an option and the value behind an equals sign, if the argument is an option. -/
def option? (arg : String) : Option (String × Option String) :=
  match arg.toList with
  | '-' :: '-' :: rest =>
    let name := String.ofList (rest.takeWhile (· ≠ '='))
    match rest.dropWhile (· ≠ '=') with
    | [] => some (name, none)
    | _ :: value => some (name, some (String.ofList value))
  | _ => none

/-- Reads options in order. Anything else is refused, and so are options that are unknown or given
twice, and values that are missing or not wanted. -/
def OptionSet.parse? (known : OptionSet) : List String → Given → Option Given
  | [], given => some given
  | ["--"], given => some given
  | arg :: rest, given => do
    let (name, attached) ← option? arg
    if (given.lookup name).isSome then none
    else if known.flags.contains name then
      if attached.isSome then none else parse? known rest ((name, "") :: given)
    else if known.valued.contains name then
      match attached, rest with
      | some value, rest => parse? known rest ((name, value) :: given)
      | none, value :: rest =>
        if isValue value then parse? known rest ((name, value) :: given) else none
      | none, [] => none
    else none

/-- The number of some decimal digits; there has to be one. -/
def digits? (chars : List Char) : Option Nat :=
  if chars.isEmpty || !chars.all Char.isDigit then none
  else some (chars.foldl (fun value ch => value * 10 + (ch.toNat - 48)) 0)

/-- A number of at most 64 bits, with a plus sign or none. -/
def word? (text : String) : Option Nat :=
  let digits := match text.toList with
    | '+' :: rest => rest
    | chars => chars
  (digits? digits).filter (· < UInt64.size)

/-- A number below a bound, with a sign or none. -/
def natBelow? (bound : Nat) (text : String) : Option Nat :=
  match text.toList with
  | '+' :: rest => (digits? rest).filter (· < bound)
  | '-' :: rest => (digits? rest).filter (· = 0)
  | chars => (digits? chars).filter (· < bound)

/-- A path, which is not empty. -/
def path? (text : String) : Option String := if text.isEmpty then none else some text

/-- One of some named choices. -/
def choice? {α : Type} (choices : List (String × α)) (text : String) : Option α :=
  choices.lookup text

namespace Given

/-- The value of an option that may be left out. -/
def find? {α : Type} (given : Given) (name : String) (read : String → Option α) :
    Option (Option α) :=
  match given.lookup name with
  | none => some none
  | some text => (read text).map some

/-- The value of an option that has a usual value. -/
def findD? {α : Type} (given : Given) (name : String) (usual : α) (read : String → Option α) :
    Option α :=
  (given.find? name read).map (·.getD usual)

end Given

end WirelessMesh.Command
