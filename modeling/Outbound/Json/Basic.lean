import Outbound.Binary64.Decimal

/-!
# JSON values

The dynamic values that contexts hold and configurations are read from. A number is an integer
when it is written as one and fits into 64 bits, and a binary64 number otherwise.

## Main definitions

* `Json.Number`: an integer or a real number
* `Json`: a value; the fields of an object keep their order and their repeats
* `Json.field?`, `Json.text?`, `Json.natural?`: reading a value
-/

namespace Outbound

/-- **A number**: whole ones within 64 bits are exact. -/
inductive Json.Number
  | integer (value : Int)
  | real (value : Binary64)
deriving DecidableEq, Repr, Inhabited

/-- **A JSON value.** -/
inductive Json
  | null
  | bool (value : Bool)
  | number (value : Json.Number)
  | text (value : String)
  | array (items : List Json)
  | object (fields : List (String × Json))
  /-- A literal of correct form that denotes no value: a number out of range, or a text with half
  a surrogate pair. It may be passed over, but not used. -/
  | unreadable
deriving Repr, Inhabited

namespace Json

/-- The value of a natural number. -/
def ofNat (n : Nat) : Json := .number (.integer n)

/-- The text, of a value that is one. -/
def text? : Json → Option String
  | .text s => some s
  | _ => none

/-- The natural number, of a value that is one. -/
def natural? : Json → Option Nat
  | .number (.integer (.ofNat n)) => some n
  | _ => none

/-- The truth value, of a value that is one. -/
def bool? : Json → Option Bool
  | .bool b => some b
  | _ => none

/-- The items, of a value that is an array. -/
def items? : Json → Option (List Json)
  | .array items => some items
  | _ => none

/-- The last field of a name, of a value that is an object. -/
def field? (name : String) : Json → Option Json
  | .object fields => (fields.reverse.find? (·.1 == name)).map Prod.snd
  | _ => none

end Json

end Outbound
