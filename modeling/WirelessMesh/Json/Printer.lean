import WirelessMesh.Json.Value
import WirelessMesh.Text

namespace WirelessMesh

namespace Json

/-- A character as it stands in a string. -/
def escape (ch : Char) : List Char :=
  if ch = '"' then ['\\', '"']
  else if ch = '\\' then ['\\', '\\']
  else if ch = '\n' then ['\\', 'n']
  else if ch = '\r' then ['\\', 'r']
  else if ch = '\t' then ['\\', 't']
  else if ch = '\x08' then ['\\', 'b']
  else if ch = '\x0c' then ['\\', 'f']
  else if ch.toNat < 32 then '\\' :: 'u' :: '0' :: '0' :: Hex.pair (UInt8.ofNat ch.toNat)
  else [ch]

/-- A string between quotes. -/
def quote (text : String) : String :=
  String.ofList ('"' :: (text.toList.flatMap escape ++ ['"']))

/-- A string that has no text prints as null. -/
def renderText : JsonText → String
  | some text => quote text
  | none => "null"

def renderDigits (digits : List Nat) : String :=
  String.ofList (digits.map fun digit => Char.ofNat (48 + digit))

/-- A number as it was written. -/
def renderNumber (lit : NumberLiteral) : String :=
  (if lit.negative then "-" else "") ++ renderDigits lit.whole
    ++ (if lit.fraction.isEmpty then "" else "." ++ renderDigits lit.fraction)
    ++ match lit.exponent with
      | none => ""
      | some (below, digits) => (if below then "e-" else "e") ++ renderDigits digits

mutual

/-- A document on one line. -/
def render : Json → String
  | .null => "null"
  | .bool true => "true"
  | .bool false => "false"
  | .number lit => renderNumber lit
  | .string text => renderText text
  | .array items => "[" ++ renderItems items ++ "]"
  | .object entries => "\x7b" ++ renderEntries entries ++ "\x7d"

def renderItems : List Json → String
  | [] => ""
  | [item] => render item
  | item :: rest => render item ++ "," ++ renderItems rest

def renderEntries : List (JsonText × Json) → String
  | [] => ""
  | [(key, value)] => renderText key ++ ":" ++ render value
  | (key, value) :: rest => renderText key ++ ":" ++ render value ++ "," ++ renderEntries rest

end

/-- A new line with the blanks of a level. -/
def newLine (level : Nat) : String := String.ofList ('\n' :: List.replicate (2 * level) ' ')

mutual

/-- A document over many lines, its first line being part of a line at the given level. -/
def renderLines (level : Nat) : Json → String
  | .array [] => "[]"
  | .object [] => "\x7b\x7d"
  | .array items => "[" ++ itemLines (level + 1) items ++ newLine level ++ "]"
  | .object entries => "\x7b" ++ entryLines (level + 1) entries ++ newLine level ++ "\x7d"
  | .null => "null"
  | .bool true => "true"
  | .bool false => "false"
  | .number lit => renderNumber lit
  | .string text => renderText text

def itemLines (level : Nat) : List Json → String
  | [] => ""
  | [item] => newLine level ++ renderLines level item
  | item :: rest => newLine level ++ renderLines level item ++ "," ++ itemLines level rest

def entryLines (level : Nat) : List (JsonText × Json) → String
  | [] => ""
  | [(key, value)] => newLine level ++ renderText key ++ ": " ++ renderLines level value
  | (key, value) :: rest =>
    newLine level ++ renderText key ++ ": " ++ renderLines level value ++ ","
      ++ entryLines level rest

end

/-- A document over many lines. -/
def renderPretty (document : Json) : String := renderLines 0 document

end Json

end WirelessMesh
