import Outbound.Json.Basic
import Outbound.Binary64.Text

/-!
# Writing JSON

The text of a value without blanks, and the same with the fields of every object in the order of
their names.

## Main definitions

* `Json.quote`: a text between quotes, with escapes for control characters
* `Json.render`: the text of a value
* `Json.sorted`: a value with its fields in order
-/

namespace Outbound.Json

/-- A hexadecimal digit. -/
def hexChar (n : Nat) : Char := if n < 10 then Char.ofNat (48 + n) else Char.ofNat (87 + n)

/-- A character inside quotes. -/
def quoteChar (c : Char) : List Char :=
  if c = '"' then ['\\', '"']
  else if c = '\\' then ['\\', '\\']
  else if c = '\n' then ['\\', 'n']
  else if c = '\r' then ['\\', 'r']
  else if c = '\t' then ['\\', 't']
  else if c.toNat = 8 then ['\\', 'b']
  else if c.toNat = 12 then ['\\', 'f']
  else if c.toNat < 32 then
    ['\\', 'u', '0', '0', hexChar (c.toNat / 16), hexChar (c.toNat % 16)]
  else [c]

/-- A text between quotes. -/
def quote (s : String) : String := String.ofList ('"' :: (s.toList.flatMap quoteChar ++ ['"']))

/-- The text of a number; what is not finite has none and reads `null`. -/
def Number.render : Number → String
  | .integer n => toString n
  | .real x => if x.isFinite then x.render Binary64.json else "null"

mutual

/-- **The text of a value.** -/
def render : Json → String
  | .null => "null"
  | .bool b => if b then "true" else "false"
  | .number n => n.render
  | .text s => quote s
  | .array items => "[" ++ renderItems items ++ "]"
  | .object fields => "\x7b" ++ renderFields fields ++ "\x7d"
  | .unreadable => "null"

/-- The texts of the items of an array. -/
def renderItems : List Json → String
  | [] => ""
  | [v] => render v
  | v :: rest => render v ++ "," ++ renderItems rest

/-- The texts of the fields of an object. -/
def renderFields : List (String × Json) → String
  | [] => ""
  | [(name, v)] => quote name ++ ":" ++ render v
  | (name, v) :: rest => quote name ++ ":" ++ render v ++ "," ++ renderFields rest

end

/-- A field put in its place among fields in order; it replaces one of the same name. -/
def insertField (field : String × Json) : List (String × Json) → List (String × Json)
  | [] => [field]
  | other :: rest =>
    if field.1 < other.1 then field :: other :: rest
    else if field.1 = other.1 then field :: rest
    else other :: insertField field rest

mutual

/-- A value with the fields of every object in the order of their names, each name once. -/
def sorted : Json → Json
  | .array items => .array (sortedItems items)
  | .object fields => .object (sortedFields fields [])
  | v => v

def sortedItems : List Json → List Json
  | [] => []
  | v :: rest => sorted v :: sortedItems rest

/-- Sorted fields, put among those already in order. -/
def sortedFields : List (String × Json) → List (String × Json) → List (String × Json)
  | [], done => done
  | (name, v) :: rest, done => sortedFields rest (insertField (name, sorted v) done)

end

end Outbound.Json
