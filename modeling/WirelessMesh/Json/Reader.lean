import WirelessMesh.Json.Value
import WirelessMesh.Text

namespace WirelessMesh

namespace Json.Reader

def isBlank (ch : Char) : Bool := ch = ' ' || ch = '\n' || ch = '\t' || ch = '\r'

def skipBlanks (chars : List Char) : List Char := chars.dropWhile isBlank

/-- What a string is made of: characters, and 16-bit units written as escapes. -/
inductive Piece where
  | char (ch : Char)
  | unit (value : Nat)

/-- The unit that four hex digits stand for. -/
def unit? (a b c d : Char) : Option Nat := do
  let a ← Hex.value? a
  let b ← Hex.value? b
  let c ← Hex.value? c
  let d ← Hex.value? d
  return ((a * 16 + b) * 16 + c) * 16 + d

/-- The character that a one-letter escape stands for. -/
def escaped? : Char → Option Char
  | '"' => some '"'
  | '\\' => some '\\'
  | '/' => some '/'
  | 'b' => some '\x08'
  | 'f' => some '\x0c'
  | 'n' => some '\n'
  | 'r' => some '\r'
  | 't' => some '\t'
  | _ => none

/-- The pieces of a string up to its closing quote, and what follows the quote. -/
def pieces : List Char → Option (List Piece × List Char)
  | [] => none
  | '"' :: rest => some ([], rest)
  | '\\' :: 'u' :: a :: b :: c :: d :: rest => do
    let value ← unit? a b c d
    let (later, rest) ← pieces rest
    return (.unit value :: later, rest)
  | '\\' :: ch :: rest => do
    let ch ← escaped? ch
    let (later, rest) ← pieces rest
    return (.char ch :: later, rest)
  | ch :: rest =>
    if ch.toNat < 32 ∨ ch = '\\' then none
    else do
      let (later, rest) ← pieces rest
      return (.char ch :: later, rest)

def isHigh (unit : Nat) : Bool := 0xD800 ≤ unit && unit ≤ 0xDBFF

def isLow (unit : Nat) : Bool := 0xDC00 ≤ unit && unit ≤ 0xDFFF

/-- The characters of a string; each half of a surrogate pair needs the other half beside it. -/
def characters : List Piece → Option (List Char)
  | [] => some []
  | .char ch :: rest => (characters rest).map (ch :: ·)
  | .unit high :: .unit low :: rest =>
    if isHigh high then
      if isLow low then
        (characters rest).map
          (Char.ofNat (0x10000 + (high - 0xD800) * 1024 + (low - 0xDC00)) :: ·)
      else none
    else if isLow high then none
    else (characters (.unit low :: rest)).map (Char.ofNat high :: ·)
  | .unit value :: rest =>
    if isHigh value || isLow value then none
    else (characters rest).map (Char.ofNat value :: ·)

/-- A string after its opening quote. -/
def string? (chars : List Char) : Option (JsonText × List Char) :=
  (pieces chars).map fun (found, rest) => ((characters found).map String.ofList, rest)

/-- The decimal digits in front, and what follows them. -/
def digits (chars : List Char) : List Nat × List Char :=
  ((chars.takeWhile Char.isDigit).map fun ch => ch.toNat - 48, chars.dropWhile Char.isDigit)

/-- One or more decimal digits. -/
def someDigits? (chars : List Char) : Option (List Nat × List Char) :=
  let (found, rest) := digits chars
  if found.isEmpty then none else some (found, rest)

/-- The digits behind a point, if there is a point. -/
def fraction? : List Char → Option (List Nat × List Char)
  | '.' :: rest => someDigits? rest
  | chars => some ([], chars)

/-- The sign of an exponent, which may be left out: whether it is a minus. -/
def exponentSign : List Char → Bool × List Char
  | '-' :: rest => (true, rest)
  | '+' :: rest => (false, rest)
  | chars => (false, chars)

/-- The exponent, if there is one. -/
def exponent? : List Char → Option (Option (Bool × List Nat) × List Char)
  | ch :: rest =>
    if ch = 'e' ∨ ch = 'E' then
      let (below, rest) := exponentSign rest
      (someDigits? rest).map fun (found, rest) => (some (below, found), rest)
    else some (none, ch :: rest)
  | [] => some (none, [])

/-- A number after its sign. -/
def number? (negative : Bool) (chars : List Char) : Option (NumberLiteral × List Char) := do
  let (whole, rest) ← someDigits? chars
  if whole.head? = some 0 ∧ 1 < whole.length then none
  let (fraction, rest) ← fraction? rest
  let (exponent, rest) ← exponent? rest
  return (⟨negative, whole, fraction, exponent⟩, rest)

mutual

/-- A value at the start of the text, after blanks. The fuel bounds the number of steps and the
length of the text is enough of it. -/
def value? : Nat → List Char → Option (Json × List Char)
  | 0, _ => none
  | fuel + 1, chars =>
    match skipBlanks chars with
    | 'n' :: 'u' :: 'l' :: 'l' :: rest => some (.null, rest)
    | 't' :: 'r' :: 'u' :: 'e' :: rest => some (.bool true, rest)
    | 'f' :: 'a' :: 'l' :: 's' :: 'e' :: rest => some (.bool false, rest)
    | '"' :: rest => (string? rest).map fun (text, rest) => (.string text, rest)
    | '[' :: rest =>
      match skipBlanks rest with
      | ']' :: rest => some (.array [], rest)
      | rest => (items? fuel rest).map fun (found, rest) => (.array found, rest)
    | '\x7b' :: rest =>
      match skipBlanks rest with
      | '\x7d' :: rest => some (.object [], rest)
      | rest => (entries? fuel rest).map fun (found, rest) => (.object found, rest)
    | '-' :: rest => (number? true rest).map fun (lit, rest) => (.number lit, rest)
    | rest => (number? false rest).map fun (lit, rest) => (.number lit, rest)

/-- The items of an array, up to its closing bracket. -/
def items? : Nat → List Char → Option (List Json × List Char)
  | 0, _ => none
  | fuel + 1, chars => do
    let (item, rest) ← value? fuel chars
    match skipBlanks rest with
    | ']' :: rest => some ([item], rest)
    | ',' :: rest =>
      let (later, rest) ← items? fuel rest
      some (item :: later, rest)
    | _ => none

/-- The entries of an object, up to its closing brace. -/
def entries? : Nat → List Char → Option (List (JsonText × Json) × List Char)
  | 0, _ => none
  | fuel + 1, chars =>
    match skipBlanks chars with
    | '"' :: rest => do
      let (key, rest) ← string? rest
      match skipBlanks rest with
      | ':' :: rest =>
        let (value, rest) ← value? fuel rest
        match skipBlanks rest with
        | '\x7d' :: rest => some ([(key, value)], rest)
        | ',' :: rest =>
          let (later, rest) ← entries? fuel rest
          some ((key, value) :: later, rest)
        | _ => none
      | _ => none
    | _ => none

end

end Json.Reader

/-- The document that a text holds. -/
def Json.parse? (text : String) : Option Json :=
  let chars := text.toList
  match Json.Reader.value? (chars.length + 1) chars with
  | some (document, rest) => if (Json.Reader.skipBlanks rest).isEmpty then some document else none
  | none => none

end WirelessMesh
